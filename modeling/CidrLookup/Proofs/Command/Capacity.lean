import CidrLookup.Proofs.Command.Lookup
import CidrLookup.Proofs.Session.Submission

/-!
# How many addresses a lookup command takes

The command submits all its addresses before it looks at the link for the first time, so nothing is
sent and nothing is answered meanwhile: each lookup that is taken stays in the queue. `Gathering` is
what such a session looks like. It takes lookups until as many are outstanding as there may be, and
`lookup_takes_all_iff_within_limit` says what that makes of the command: a list of addresses that
fits into the queue is submitted whole, and how the command ends is up to the service and the time;
a longer one is refused whole.
-/

namespace CidrLookup

/-! ## Lookups that gather -/

namespace Session

variable {ρ σ : Type}

/-- A session that has taken lookups and has not been connected yet. -/
structure Gathering (limit count : Nat) (s : Session ρ σ) : Prop where
  not_halted : s.halted = none
  apart : s.connection.state ≠ .connected
  limited : s.queue.maxPending = limit
  counted : s.queue.outstanding = count
  unsent : sends s.history = []

namespace Gathering

variable {limit count : Nat} {s : Session ρ σ}

/-- A new session has gathered nothing. -/
theorem of_new {config : Config} {link : σ} (h : Session.new config link = .ok s) :
    Gathering config.maxPending 0 s := by
  obtain ⟨hstate, hentries, hhalted, hhistory⟩ := new_spec h
  refine ⟨hhalted, by simp [hstate], maxPending_of_new h, ?_, by simp [hhistory]⟩
  simp [Queue.outstanding, hentries]

/-- A line in the log gathers nothing. -/
theorem note (h : Gathering limit count s) (notice : Notice) :
    Gathering limit count (s.note notice) :=
  ⟨h.not_halted, h.apart, h.limited, h.counted, h.unsent⟩

/-- A lookup that joins the queue is one more. -/
theorem join (h : Gathering limit count s) {entry : Entry ρ} (hout : entry.isOutstanding) :
    Gathering limit (count + 1)
      { s with queue := { s.queue with entries := s.queue.entries ++ [entry] } } := by
  refine ⟨h.not_halted, h.apart, h.limited, ?_, h.unsent⟩
  rw [← h.counted]
  simp [Queue.outstanding, hout]

variable [Link σ]

/-- To start an attempt gathers nothing. -/
theorem openConnection (h : Gathering limit count s) :
    Gathering limit count s.openConnection.2 := by
  obtain ⟨effects, hopen, hdeeds, -⟩ := openConnection_spec s
  rw [hopen]
  refine ⟨h.not_halted, ?_, h.limited, h.counted, ?_⟩
  · rw [Connection.state_connect_of_ne_connected h.apart]
    decide
  · rw [sends_append, h.unsent, sends_of_deeds hdeeds]
    split <;> rfl

variable {text : String} {metadata : Metadata} {address : Address} (now : Instant) (requester : ρ)

/-- A lookup that nothing is wrong with is taken while there is room. -/
theorem submit (h : Gathering limit count s) (hparse : Address.parse text = .ok address)
    (hmetadata : (Message.request address metadata).Encodable) (hroom : count < limit) :
    ∃ s', s.submit now requester text metadata = (.ok .queued, s')
      ∧ Gathering limit (count + 1) s' := by
  have hfull : ¬ s.IsFull := by
    rw [IsFull, h.limited, h.counted]
    omega
  have htakes : s.Takes text metadata address (Message.request address metadata).form :=
    ⟨h.not_halted, hparse, Message.encode_eq_ok_iff.2 ⟨hmetadata, rfl⟩, hfull⟩
  rw [submit_of_takes htakes, dispatch, if_neg h.apart]
  exact ⟨_, rfl, ((h.join rfl).note _).openConnection⟩

/-- A session without room refuses every lookup and stays as it is. -/
theorem refuse (h : Gathering limit limit s) (hparse : Address.parse text = .ok address)
    (hmetadata : (Message.request address metadata).Encodable) :
    s.submit now requester text metadata = (.error (.queueFull limit), s) := by
  have hfull : s.IsFull := Nat.le_of_eq (h.limited.trans h.counted.symm)
  rw [← h.limited]
  exact submit_of_refuses (.full h.not_halted hparse hmetadata hfull) now requester

end Gathering

end Session

namespace Command.Lookup

open Session (Gathering)

variable {σ W : Type} [Link σ]

/-! ## Lists of addresses -/

section Lists

variable {limit count : Nat} {s : Session Nat σ} {texts : List String} {metadata : Metadata}
  (now : Instant) (first : Nat)
  (hmetadata : ∀ address, (Message.request address metadata).Encodable)
include hmetadata

/-- A list that fits is submitted whole. -/
theorem submitAll_of_fits (h : Gathering limit count s)
    (htexts : ∀ text ∈ texts, ∃ address, Address.parse text = .ok address)
    (hfits : count + texts.length ≤ limit) :
    ∃ s', submitAll now metadata first texts s = (.ok (), s')
      ∧ Gathering limit (count + texts.length) s' := by
  induction texts generalizing first count s with
  | nil => exact ⟨s, rfl, h⟩
  | cons text more ih =>
    obtain ⟨⟨address, hparse⟩, hmore⟩ := List.forall_mem_cons.1 htexts
    rw [List.length_cons] at hfits ⊢
    obtain ⟨s', hsubmit, hs'⟩ := h.submit now first hparse (hmetadata address) (by omega)
    rw [submitAll, hsubmit, Nat.add_comm more.length, ← Nat.add_assoc]
    exact ih (first + 1) (hs'.note _) hmore (by omega)

/-- A list that does not fit is submitted as far as there is room, and then refused. -/
theorem submitAll_of_exceeds (h : Gathering limit count s)
    (htexts : ∀ text ∈ texts, ∃ address, Address.parse text = .ok address) (hcount : count ≤ limit)
    (hexceeds : limit < count + texts.length) :
    ∃ s', submitAll now metadata first texts s = (.error (.queueFull limit), s')
      ∧ Gathering limit limit s' := by
  -- text by text while there is room; the first text without room ends it
  induction texts generalizing first count s with
  | nil =>
    rw [List.length_nil] at hexceeds
    omega
  | cons text more ih =>
    obtain ⟨⟨address, hparse⟩, hmore⟩ := List.forall_mem_cons.1 htexts
    rw [List.length_cons] at hexceeds
    rw [submitAll]
    by_cases hroom : count < limit
    · obtain ⟨s', hsubmit, hs'⟩ := h.submit now first hparse (hmetadata address) hroom
      rw [hsubmit]
      exact ih (first + 1) (hs'.note _) hmore hroom (by omega)
    · obtain rfl : count = limit := by omega
      rw [h.refuse now first hparse (hmetadata address)]
      exact ⟨s, rfl, h⟩

end Lists

/-! ## The command -/

/-- The ways in which the service and the time decide how a command ends. -/
inductive Decided : Outcome → Prop where
  | answered : Decided (.finished .success)
  | late : Decided (.finished .timeout)
  | lost (message : String) : Decided (.failed ⟨.transport, message⟩)
  | halted (reason : String) : Decided (.failed ⟨.failure, "lookup halted: " ++ reason⟩)

/-- A conclusion is a decision, whatever the session has come to. -/
theorem conclude_decided (target : Target) (format : OutputFormat) (addresses : List String)
    (settled : Bool) (s : Session Nat σ) :
    Decided (conclude target format addresses settled s).outcome := by
  unfold conclude
  cases s.halted with
  | some reason => exact .halted reason
  | none =>
    simp only
    split
    · split
      · exact .lost _
      · exact .late
    · exact .answered

/-- A lookup that nothing is wrong with but perhaps the number of its addresses. -/
structure Sound (target : Target) (addresses : List String) (timeout : String)
    (metadata : Metadata) (limit : Duration) : Prop where
  htimeout : Timeout.parse timeout = .ok limit
  hhost : Endpoint.isBlankHost target.host = false
  haddresses : ∀ text ∈ addresses, ∃ address, Address.parse text = .ok address
  hmetadata : ∀ address, (Message.request address metadata).Encodable

section Commands

variable {target : Target} {addresses : List String} {timeout : String} {metadata : Metadata}
  {limit : Duration} {start : Session Nat σ} (world : World (StateM W) σ)
  (makeLink : Config → σ) (format : OutputFormat) (w : W)

omit [Link σ] in
/-- Without a fault in what the command is given, it makes a session. -/
theorem Sound.exists_new (h : Sound target addresses timeout metadata limit) (link : σ) :
    ∃ start : Session Nat σ, Session.new (target.config limit) link = .ok start
      ∧ Gathering Config.default.maxPending 0 start := by
  obtain ⟨start, hnew⟩ : ∃ start : Session Nat σ, Session.new (target.config limit) link
      = .ok start := Session.exists_new_of_host h.hhost
  have hstart : Gathering (target.config limit).maxPending 0 start := .of_new hnew
  exact ⟨start, hnew, hstart⟩

/-- A sound lookup submits its addresses, and ends with the first that is refused. -/
theorem Sound.run_eq (h : Sound target addresses timeout metadata limit)
    (hnew : Session.new (target.config limit) (makeLink (target.config limit)) = .ok start) :
    run world makeLink target format addresses timeout metadata w
      = match submitAll (world.now w).1 metadata 0 addresses start with
        | (.error e, s) => (.ofSession "" (.failed (.ofSession "lookup" e)) s, (world.now w).2)
        | (.ok (), s) => drive world target format addresses limit s (world.now w).2 := by
  unfold run
  rw [h.htimeout, check_eq_ok_iff.2 h.haddresses]
  simp only [hnew, bind_apply]
  rcases submitAll (world.now w).1 metadata 0 addresses start with ⟨e | ⟨⟨⟩⟩, s⟩
  · rfl
  · rfl

/-- A wait that has a deadline ends as the service and the time decide. -/
theorem drive_decided (target : Target) (addresses : List String) (limit : Duration)
    (s : Session Nat σ) {deadline : Instant}
    (h : (world.now w).1.after? limit = some deadline) :
    Decided (drive world target format addresses limit s w).1.outcome := by
  unfold drive
  simp only [bind_apply, h]
  exact conclude_decided target format addresses _ _

/-- **How many addresses a lookup takes.** With a timeout that can be read, a host that is not
blank, addresses and metadata that nothing is wrong with, whatever the world is like: all addresses
are submitted if there are no more of them than lookups may be outstanding, and from then on it is
the service and the time that decide, as long as the clock reaches to the deadline. Otherwise the
command fails before anything was sent, with as many lookups taken as there may be and the rest
refused: the queue is full, and nothing has emptied it meanwhile. -/
theorem lookup_takes_all_iff_within_limit
    (h : Sound target addresses timeout metadata limit) :
    ∃ start, Session.new (target.config limit) (makeLink (target.config limit)) = .ok start ∧
      let most := Config.default.maxPending
      let submitted := submitAll (world.now w).1 metadata 0 addresses start
      let ending := (run world makeLink target format addresses timeout metadata w).1
      (submitted.1 = .ok () ↔ addresses.length ≤ most)
        ∧ (addresses.length ≤ most →
            ∀ deadline, (world.now (world.now w).2).1.after? limit = some deadline →
              Decided ending.outcome)
        ∧ (most < addresses.length →
            ending.output = ""
              ∧ ending.outcome = .failed (.ofSession "lookup" (.queueFull most))
              ∧ submitted.2.queue.outstanding = most ∧ sends submitted.2.history = []) := by
  obtain ⟨start, hnew, hstart⟩ := h.exists_new (makeLink (target.config limit))
  refine ⟨start, hnew, ?_⟩
  intro most submitted ending
  -- the list decides: within the limit the command goes on to wait, beyond it the command ends
  -- before
  by_cases hfits : addresses.length ≤ most
  · obtain ⟨s, hsubmit, -⟩ := submitAll_of_fits (world.now w).1 0 h.hmetadata hstart h.haddresses
      (by omega)
    refine ⟨iff_of_true (by simp [submitted, hsubmit]) hfits, fun _ deadline hdeadline => ?_,
      fun hexceeds => absurd hfits (Nat.not_le.2 hexceeds)⟩
    show Decided (run world makeLink target format addresses timeout metadata w).1.outcome
    rw [h.run_eq world makeLink format w hnew, hsubmit]
    exact drive_decided world format _ target addresses limit s hdeadline
  · obtain ⟨s, hsubmit, hs⟩ := submitAll_of_exceeds (world.now w).1 0 h.hmetadata hstart
      h.haddresses (Nat.zero_le _) (by omega)
    refine ⟨iff_of_false (by simp [submitted, hsubmit]) hfits, fun hle => absurd hle hfits,
      fun _ => ?_⟩
    have hending : ending = .ofSession "" (.failed (.ofSession "lookup" (.queueFull most))) s := by
      show (run world makeLink target format addresses timeout metadata w).1 = _
      rw [h.run_eq world makeLink format w hnew, hsubmit]
    have hsubmitted : submitted.2 = s := by
      show (submitAll (world.now w).1 metadata 0 addresses start).2 = s
      rw [hsubmit]
    rw [hending, hsubmitted]
    exact ⟨rfl, rfl, hs.counted, hs.unsent⟩

end Commands

/-- One address so many times. -/
def repeated (count : Nat) : List String :=
  List.replicate count "10.0.0.1"

/-- There is no fault in one address, however often it is given. -/
theorem sound_repeated (count : Nat) :
    Sound ⟨"127.0.0.1", 9595, none⟩ (repeated count) "5s" [] (.ofSeconds 5) where
  htimeout := by decide +kernel
  hhost := by decide
  haddresses text htext := by
    rw [List.eq_of_mem_replicate htext]
    exact ⟨⟨0x0A000001⟩, by decide +kernel⟩
  hmetadata address := ⟨fun _ h => absurd h List.not_mem_nil, Nat.zero_le _⟩

/-- One address, looked up so many times where nothing comes back. -/
def lookUpRepeated (count : Nat) : Ending RecordingLink :=
  (run scripted (fun _ => .new) ⟨"127.0.0.1", 9595, none⟩ .json (repeated count) "5s" [] []).1

/-- As many addresses as there may be lookups are taken, and one more is one too many. -/
theorem full_queue_of_addresses_is_taken :
    Decided (lookUpRepeated 1024).outcome
      ∧ (lookUpRepeated 1025).outcome
        = .failed ⟨.failure, "lookup: request queue full (1024 outstanding)"⟩ := by
  have hlength (count : Nat) : (repeated count).length = count := List.length_replicate
  obtain ⟨-, -, -, hdecided, -⟩ := lookup_takes_all_iff_within_limit scripted (fun _ => .new) .json
    [] (sound_repeated 1024)
  obtain ⟨_, -, -, -, hrefused⟩ := lookup_takes_all_iff_within_limit scripted (fun _ => .new) .json
    [] (sound_repeated 1025)
  simp only [hlength] at hdecided hrefused
  rw [lookUpRepeated, lookUpRepeated]
  constructor
  · -- the clock shows a minute, and the timeout is five seconds
    exact hdecided (by decide) ⟨65000000000⟩ (by decide +kernel)
  · exact (hrefused (by decide)).2.1

/-- Nothing is wrong with the addresses, and a submission fails. -/
theorem long_list_is_refused :
    repeated 1025 ≠ [] ∧ (∀ text ∈ repeated 1025, ∃ address, Address.parse text = .ok address)
      ∧ (∀ address, (Message.request address []).Encodable)
      ∧ ¬ Decided (lookUpRepeated 1025).outcome := by
  have h := sound_repeated 1025
  refine ⟨List.cons_ne_nil _ _, h.haddresses, h.hmetadata, ?_⟩
  obtain ⟨start, hnew, hstart⟩ := h.exists_new RecordingLink.new
  have hexceeds : Config.default.maxPending < 0 + (repeated 1025).length := by
    rw [repeated, List.length_replicate]
    decide
  obtain ⟨s, hsubmit, -⟩ := submitAll_of_exceeds (scripted.now []).1 0 h.hmetadata hstart
    h.haddresses (Nat.zero_le _) hexceeds
  rw [lookUpRepeated, h.run_eq scripted (fun _ => .new) .json [] hnew, hsubmit]
  nofun

end Command.Lookup

end CidrLookup
