import CidrLookup.Link.Recording
import CidrLookup.Proofs.Client.Drive
import CidrLookup.Proofs.Command.Answers
import CidrLookup.Proofs.Output

/-!
# The lookup command tells the truth

`awaited` is the lookup command up to the end of its wait, with the session in view; what the
command leaves behind is a function of what it returns. A command that gets as far as the wait has
a session in which the ledger is kept, so the rows it prints can be read off the ledger: a place
has an answer that was brought for its address, or its lookup still waits. Every text on the command
line is an address by then, so its row stands in the output as `Output.Shows` says, whatever the
format.
-/

namespace CidrLookup

namespace Output.Row

/-- A row is unresolved if it has no answer. -/
theorem status_eq_unresolved_iff (row : Row) : row.status = .unresolved ↔ row.answer = none := by
  unfold status
  split <;> simp_all

end Output.Row

namespace Command.Lookup

variable {σ W : Type} [Link σ]

/-- The check passes texts that are addresses, and no others. -/
theorem check_eq_ok_iff {texts : List String} :
    check texts = .ok () ↔ ∀ text ∈ texts, ∃ address, Address.parse text = .ok address := by
  induction texts with
  | nil => simp [check]
  | cons text more ih =>
    rw [List.forall_mem_cons, ← ih, check]
    cases Address.parse text with
    | error e => simp
    | ok address => simp

/-! ## The wait -/

/-- What a lookup command comes to by the end of its wait. -/
inductive Wait (σ : Type) where
  /-- It ends before the wait. -/
  | refused (ending : Ending σ)
  /-- The wait is over: it settled, or the time is up. -/
  | waited (settled : Bool) (s : Session Nat σ)

/-- What the command leaves behind. -/
def Wait.ending (target : Target) (format : OutputFormat) (addresses : List String) :
    Wait σ → Ending σ
  | refused ending => ending
  | waited settled s => conclude target format addresses settled s

/-- A lookup command up to the end of its wait. -/
def awaited {m : Type → Type} [Monad m] (world : World m σ) (makeLink : Config → σ)
    (target : Target) (addresses : List String) (timeout : String) (metadata : Metadata) :
    m (Wait σ) := do
  match Timeout.parse timeout with
  | .error failure => return .refused (.early (.failed failure) "")
  | .ok timeout =>
    match check addresses with
    | .error failure => return .refused (.early (.failed failure) "")
    | .ok () =>
      let config := target.config timeout
      match Session.new config (makeLink config) with
      | .error e => return .refused (.early (.failed (.ofSession "lookup" e)) "")
      | .ok s =>
        match submitAll (← world.now) metadata 0 addresses s with
        | (.error e, s) => return .refused (.ofSession "" (.failed (.ofSession "lookup" e)) s)
        | (.ok (), s) =>
          match (← world.now).after? timeout with
          | none =>
            return .refused
              (.ofSession "" (.aborted "the deadline lies beyond the end of the clock") s)
          | some deadline =>
            let (settled, s) ← s.runUntil world (fun _ => true) deadline isSettled Session.maxPolls
            return .waited settled s

/-- A step of the command, and then the rest in the world it leaves. -/
theorem bind_apply {α β : Type} (x : StateM W α) (f : α → StateM W β) (w : W) :
    (x >>= f) w = f (x w).1 (x w).2 := rfl

/-- The command is its wait, and then what is made of it. -/
theorem run_eq_awaited (world : World (StateM W) σ) (makeLink : Config → σ) (target : Target)
    (format : OutputFormat) (addresses : List String) (timeout : String) (metadata : Metadata)
    (w : W) :
    run world makeLink target format addresses timeout metadata w
      = ((awaited world makeLink target addresses timeout metadata w).1.ending target format
          addresses, (awaited world makeLink target addresses timeout metadata w).2) := by
  -- the command and its wait make the same checks, and part at the end of the wait
  unfold run awaited
  cases Timeout.parse timeout with
  | error failure => rfl
  | ok limit =>
    cases check addresses with
    | error failure => rfl
    | ok =>
      simp only
      cases Session.new (target.config limit) (makeLink (target.config limit)) with
      | error e => rfl
      | ok s =>
        simp only [bind_apply]
        rcases submitAll (world.now w).1 metadata 0 addresses s with ⟨e | ⟨⟨⟩⟩, s⟩
        · rfl
        · simp only [drive, bind_apply]
          cases ((world.now (world.now w).2).1).after? limit with
          | none => rfl
          | some deadline => rfl

/-- What a wait leaves: nothing printed and no exit code, or a session with its ledger kept, which
is settled if the wait says so; the addresses have passed the check then. -/
inductive Kept (addresses : List String) (brought : List Arrival) : Wait σ → Prop where
  | refused {ending : Ending σ} (houtput : ending.output = "")
      (hcode : ∀ code, ending.outcome ≠ .finished code) : Kept addresses brought (.refused ending)
  | waited {settled : Bool} {s : Session Nat σ} (hcheck : check addresses = .ok ())
      (hledger : Ledger addresses brought addresses.length s) (hsettled : settled → isSettled s) :
      Kept addresses brought (.waited settled s)

/-- **The wait.** In every world, the command waits as it does in the world that remembers, and the
ledger is kept of whatever was brought. -/
theorem awaited_spec (world : World (StateM W) σ) (makeLink : Config → σ) (target : Target)
    (addresses : List String) (timeout : String) (metadata : Metadata) (w : W) :
    ∃ wait w' brought, awaited world makeLink target addresses timeout metadata w = (wait, w')
      ∧ awaited world.remembering makeLink target addresses timeout metadata (w, [])
        = (wait, (w', brought))
      ∧ Kept addresses brought wait := by
  -- every way to end before the wait is a refusal; the wait keeps the ledger
  unfold awaited
  cases Timeout.parse timeout with
  | error failure => exact ⟨_, w, [], rfl, rfl, .refused rfl (by simp [Ending.early])⟩
  | ok limit =>
    cases hcheck : check addresses with
    | error failure => exact ⟨_, w, [], rfl, rfl, .refused rfl (by simp [Ending.early])⟩
    | ok =>
      simp only
      cases hnew : Session.new (target.config limit) (makeLink (target.config limit)) with
      | error e => exact ⟨_, w, [], rfl, rfl, .refused rfl (by simp [Ending.early])⟩
      | ok start =>
        simp only [bind_apply, World.now_remembering]
        have hstart : Ledger addresses [] 0 start := .start hnew rfl
        rcases hsubmit : submitAll (world.now w).1 metadata 0 addresses start with ⟨e | ⟨⟨⟩⟩, s⟩
        · exact ⟨_, _, [], rfl, rfl, .refused rfl (by simp [Ending.ofSession])⟩
        · have hsubmitted : Ledger ([] ++ addresses) [] ([] ++ addresses).length s :=
            Ledger.submitAll hstart hsubmit
          simp only [bind_apply, World.now_remembering]
          cases ((world.now (world.now w).2).1).after? limit with
          | none => exact ⟨_, _, [], rfl, rfl, .refused rfl (by simp [Ending.ofSession])⟩
          | some deadline =>
            simp only [bind_apply]
            obtain ⟨settled, s', w', brought, hrun, hremember, hledger, hdone⟩ :=
              Session.runUntil_spec world (fun _ => true) deadline isSettled
                (motive := fun brought s => Ledger addresses brought addresses.length s)
                (fun _ _ link now arrival h => h.arrive link now arrival) Session.maxPolls _
                hsubmitted
            rw [hrun, hremember]
            exact ⟨_, w', brought, rfl, rfl, .waited hcheck hledger hdone⟩

/-! ## Rows -/

omit [Link σ] in
/-- The rows have the addresses as they were given, in order. -/
theorem text_rows (addresses : List String) (s : Session Nat σ) :
    (rows addresses s).map Output.Row.text = addresses := by
  refine List.ext_getElem (by simp [rows]) fun i _ _ => ?_
  simp [rows]

omit [Link σ] in
/-- The rows of addresses that passed the check are shown in every format. -/
theorem shows_rows {addresses : List String} (hcheck : check addresses = .ok ())
    (format : OutputFormat) (s : Session Nat σ) :
    Output.Shows (rows addresses s) (Output.lookups format (rows addresses s)) format := by
  apply Output.shows_lookups
  intro row hrow
  have htext : row.text ∈ addresses := by
    rw [← text_rows addresses s]
    exact List.mem_map_of_mem hrow
  obtain ⟨address, hparse⟩ := check_eq_ok_iff.1 hcheck row.text htext
  exact (Address.parse_eq_ok_iff.1 hparse).isPlain

omit [Link σ] in
/-- The row of an address has the answer of its place. -/
theorem getElem?_rows (addresses : List String) (s : Session Nat σ) (i : Nat) :
    (rows addresses s)[i]? = addresses[i]?.map fun text => ⟨text, answerOf s.history i⟩ :=
  List.getElem?_mapIdx

section Rows

variable {addresses : List String} {brought : List Arrival} {s : Session Nat σ}
  (h : Ledger addresses brought addresses.length s) {row : Output.Row}
include h

omit [Link σ] in
/-- A row is unresolved if the lookup at its place still waits. -/
theorem status_row {i : Nat} (hrow : (rows addresses s)[i]? = some row) :
    row.status = .unresolved ↔ s.Awaits i := by
  rw [getElem?_rows] at hrow
  obtain ⟨text, htext, rfl⟩ := Option.map_eq_some_iff.1 hrow
  have hlt : i < addresses.length := (List.getElem?_eq_some_iff.1 htext).1
  have hsettled := h.settled i
  rw [Output.Row.status_eq_unresolved_iff, ← Option.not_isSome_iff_eq_none, hsettled]
  simp [hlt]

omit [Link σ] in
/-- A row with an answer shows what the service reported for its text. -/
theorem reported_row (hrow : row ∈ rows addresses s) {resolution : Resolution}
    (hanswer : row.answer = some resolution) : Reported brought row.text resolution := by
  obtain ⟨i, hget⟩ := List.mem_iff_getElem?.1 hrow
  rw [getElem?_rows] at hget
  obtain ⟨text, htext, rfl⟩ := Option.map_eq_some_iff.1 hget
  obtain ⟨text', htext', hreported⟩ := h.reported i resolution hanswer
  obtain rfl : text = text' := Option.some.inj (htext.symm.trans htext')
  exact hreported

omit [Link σ] in
/-- Where nothing waits, every row has an answer that was brought. -/
theorem answered_row (hnone : s.queue.outstanding = 0) (hrow : row ∈ rows addresses s) :
    ∃ resolution, row.answer = some resolution ∧ Reported brought row.text resolution := by
  obtain ⟨i, hget⟩ := List.mem_iff_getElem?.1 hrow
  have hresolved : row.status ≠ .unresolved := by
    rw [Ne, status_row h hget]
    rintro ⟨e, he, -, hout⟩
    exact List.countP_eq_zero.1 hnone e he hout
  rw [Ne, Output.Row.status_eq_unresolved_iff] at hresolved
  obtain ⟨resolution, hanswer⟩ := Option.ne_none_iff_exists'.1 hresolved
  exact ⟨resolution, hanswer, reported_row h hrow hanswer⟩

omit [Link σ] in
/-- Where something waits, it has a row, and that row is unresolved. -/
theorem exists_unresolved_row (hsome : 0 < s.queue.outstanding) :
    ∃ row ∈ rows addresses s, row.status = .unresolved := by
  obtain ⟨e, he, hout⟩ := List.countP_pos_iff.1 hsome
  obtain ⟨-, text, htext, -⟩ := h.submitted e he
  have hrow : (rows addresses s)[e.requester]? = some ⟨text, answerOf s.history e.requester⟩ := by
    rw [getElem?_rows, htext]
    rfl
  exact ⟨_, List.mem_of_getElem? hrow, (status_row h hrow).2 ⟨e, he, rfl, hout⟩⟩

end Rows

/-! ## The command -/

/-- How a command ends after its wait. -/
inductive Concluded (target : Target) (format : OutputFormat) (addresses : List String)
    (settled : Bool) (s : Session Nat σ) (ending : Ending σ) : Prop where
  | halted {message : String} (houtput : ending.output = "")
      (houtcome : ending.outcome = .failed ⟨.failure, message⟩)
  | lost (hsettled : settled) (hhalted : s.halted = none) (hsome : 0 < s.queue.outstanding)
      (houtput : ending.output = "")
      (houtcome : ending.outcome = .failed ⟨.transport, "lookup service " ++ target.endpoint ++ ": "
        ++ s.lastError.getD "connection closed by service"⟩)
  | late (hsome : 0 < s.queue.outstanding)
      (houtput : ending.output = Output.lookups format (rows addresses s))
      (houtcome : ending.outcome = .finished .timeout)
  | answered (hnone : s.queue.outstanding = 0)
      (houtput : ending.output = Output.lookups format (rows addresses s))
      (houtcome : ending.outcome = .finished .success)

/-- A command concludes in one of the four ways. -/
theorem conclude_concluded (target : Target) (format : OutputFormat) (addresses : List String)
    (settled : Bool) (s : Session Nat σ) :
    Concluded target format addresses settled s
      (conclude target format addresses settled s) := by
  -- in the order of the command: the version of the service, what is outstanding, how the wait
  -- ended
  unfold conclude
  cases hhalted : s.halted with
  | some reason => exact .halted rfl rfl
  | none =>
    simp only
    by_cases hsome : s.queue.outstanding > 0
    · rw [if_pos hsome]
      by_cases hsettled : settled
      · rw [if_pos hsettled]
        exact .lost hsettled hhalted hsome rfl rfl
      · rw [if_neg hsettled]
        exact .late hsome rfl rfl
    · rw [if_neg hsome]
      exact .answered (by omega) rfl rfl

omit [Link σ] in
/-- A session that stopped waiting without an answer for everyone lost its connection, and knows
why. -/
theorem exists_reason {addresses : List String} {brought : List Arrival} {s : Session Nat σ}
    (h : Ledger addresses brought addresses.length s) (hsettled : isSettled s)
    (hhalted : s.halted = none) (hsome : 0 < s.queue.outstanding) :
    ∃ reason, s.lastError = some reason := by
  have hstate : s.connection.state = .disconnected := by
    have hne : s.queue.outstanding ≠ 0 := by omega
    simpa [isSettled, hhalted, hne] using hsettled
  exact Option.isSome_iff_exists.1 (h.explained hhalted hstate hsome)

/-- **The lookup command tells the truth.** Whatever a world brings and whenever it does: a command
that succeeds has printed a row for each address, in order, and each row has an answer that a record
brought for the address. A command that runs out of time has printed a row for each address too; the
unresolved ones are those whose lookups still wait, and there is one. Whatever the format, each row
stands in a line of the output of its own, with its text, its status and its range. A command that
fails has printed nothing; and if it lost the service after the wait, it says why. -/
theorem lookup_tells_the_truth (world : World (StateM W) σ) (makeLink : Config → σ)
    (target : Target) (format : OutputFormat) (addresses : List String) (timeout : String)
    (metadata : Metadata) (w : W) :
    let looked := awaited world.remembering makeLink target addresses timeout metadata (w, [])
    let ending := looked.1.ending target format addresses
    let brought := looked.2.2
    run world makeLink target format addresses timeout metadata w = (ending, looked.2.1)
      ∧ (ending.outcome = .finished .success →
          ∃ rows, ending.output = Output.lookups format rows
            ∧ Output.Shows rows ending.output format
            ∧ rows.map Output.Row.text = addresses
            ∧ ∀ row ∈ rows, row.status ≠ .unresolved
              ∧ ∃ resolution, row.answer = some resolution ∧ Reported brought row.text resolution)
      ∧ (ending.outcome = .finished .timeout →
          ∃ rows settled s, looked.1 = .waited settled s
            ∧ ending.output = Output.lookups format rows
            ∧ Output.Shows rows ending.output format
            ∧ rows.map Output.Row.text = addresses
            ∧ (∀ i row, rows[i]? = some row → (row.status = .unresolved ↔ s.Awaits i))
            ∧ (∀ row ∈ rows, ∀ resolution, row.answer = some resolution →
                Reported brought row.text resolution)
            ∧ ∃ row ∈ rows, row.status = .unresolved)
      ∧ (∀ failure, ending.outcome = .failed failure → ending.output = "")
      ∧ (∀ settled s message, looked.1 = .waited settled s →
          ending.outcome = .failed ⟨.transport, message⟩ →
          ∃ reason, s.lastError = some reason
            ∧ message = "lookup service " ++ target.endpoint ++ ": " ++ reason) := by
  intro looked ending brought
  obtain ⟨wait, w', brought', hplain, hremember, hkept⟩ :=
    awaited_spec world makeLink target addresses timeout metadata w
  have hlooked : looked = (wait, (w', brought')) := hremember
  have hending : ending = wait.ending target format addresses := by
    rw [show ending = looked.1.ending target format addresses from rfl, hlooked]
  have hbrought : brought = brought' := by
    rw [show brought = looked.2.2 from rfl, hlooked]
  rw [hlooked, hending, hbrought, run_eq_awaited, hplain]
  refine ⟨rfl, ?_⟩
  cases hkept with
  | refused houtput hcode =>
    refine ⟨fun h => absurd h (hcode _), fun h => absurd h (hcode _), fun _ _ => houtput, ?_⟩
    intro _ _ _ hwait
    contradiction
  | @waited settled s hcheck hledger hsettled =>
    have hconcluded := conclude_concluded target format addresses settled s
    simp only [Wait.ending]
    generalize conclude target format addresses settled s = concluded at hconcluded
    -- each way to end has its own outcome, which leaves one clause to prove
    cases hconcluded with
    | halted houtput houtcome => simp [houtcome, houtput]
    | lost hover hhalted hsome houtput houtcome =>
      refine ⟨by simp [houtcome], by simp [houtcome], fun _ _ => houtput, ?_⟩
      intro _ s' message hwait hfailed
      obtain ⟨-, rfl⟩ := Wait.waited.inj hwait
      obtain ⟨reason, hreason⟩ := exists_reason hledger (hsettled hover) hhalted hsome
      rw [houtcome, hreason] at hfailed
      cases hfailed
      exact ⟨reason, hreason, rfl⟩
    | late hsome houtput houtcome =>
      refine ⟨by simp [houtcome], fun _ => ?_, by simp [houtcome], by simp [houtcome]⟩
      have hshows := shows_rows hcheck format s
      rw [← houtput] at hshows
      exact ⟨rows addresses s, settled, s, rfl, houtput, hshows, text_rows addresses s,
        fun i row hrow => status_row hledger hrow,
        fun row hrow resolution hanswer => reported_row hledger hrow hanswer,
        exists_unresolved_row hledger hsome⟩
    | answered hnone houtput houtcome =>
      refine ⟨fun _ => ?_, by simp [houtcome], by simp [houtcome], by simp [houtcome]⟩
      have hshows := shows_rows hcheck format s
      rw [← houtput] at hshows
      refine ⟨rows addresses s, houtput, hshows, text_rows addresses s, fun row hrow => ?_⟩
      obtain ⟨resolution, hanswer, hreported⟩ := answered_row hledger hnone hrow
      refine ⟨?_, resolution, hanswer, hreported⟩
      rw [Ne, Output.Row.status_eq_unresolved_iff, hanswer]
      exact Option.some_ne_none resolution

/-- A world in which looks bring what is on a list; a minute later they bring nothing more. -/
def scripted : World (StateM (List Arrival)) RecordingLink where
  now script := (if script = [] then ⟨60000000000⟩ else ⟨0⟩, script)
  timestamp script := ("", script)
  wait _ link script := ((script.headD .quiet, link), script.tail)

/-- One address in two spellings, looked up in that world. -/
def lookUpTwice (format : OutputFormat) (script : List Arrival) :
    Ending RecordingLink × List Arrival :=
  run scripted (fun _ => .new) ⟨"127.0.0.1", 9595, none⟩ format ["10.0.0.1", "10.0.0.01"] "5s" []
    script

/-- The two lookups print a text, which shows rows of the given kind. -/
def Prints (format : OutputFormat) (script : List Arrival) (text : String)
    (holds : List Output.Row → Prop) : Prop :=
  (lookUpTwice format script).1.output = text ∧ ∃ rows, Output.Shows rows text format ∧ holds rows

/-- Two lookups take two answers: with two the command succeeds, whatever the format, and with one
it runs out of time over the second lookup. -/
theorem two_lookups_take_two_answers :
    let found : Arrival := .event (.received [1, 3, 10, 0, 0, 1, 10, 0, 0, 0, 0, 0, 0, 8])
    let both : List Arrival := [.event .connected, found, .event (.received [1, 4, 10, 0, 0, 1])]
    let resolved (rows : List Output.Row) : Prop := ∀ row ∈ rows, row.status ≠ .unresolved
    Prints .json both ("\x7b\"ip\":\"10.0.0.1\",\"status\":\"found\",\"cidr\":\"10.0.0.0/8\","
          ++ "\"prefix\":\"10.0.0.0\",\"mask_len\":8\x7d\n"
          ++ "\x7b\"ip\":\"10.0.0.01\",\"status\":\"not_found\"\x7d\n") resolved
      ∧ Prints .table both ("┌───────────┬───────────┬────────────┐\n"
          ++ "│ IP        ┆ STATUS    ┆ RANGE      │\n"
          ++ "╞═══════════╪═══════════╪════════════╡\n"
          ++ "│ 10.0.0.1  ┆ found     ┆ 10.0.0.0/8 │\n"
          ++ "├╌╌╌╌╌╌╌╌╌╌╌┼╌╌╌╌╌╌╌╌╌╌╌┼╌╌╌╌╌╌╌╌╌╌╌╌┤\n"
          ++ "│ 10.0.0.01 ┆ not found ┆ -          │\n"
          ++ "└───────────┴───────────┴────────────┘\n") resolved
      ∧ Prints .pretty both "10.0.0.1 found in 10.0.0.0/8\n10.0.0.01 not found\n" resolved
      ∧ Prints .raw both "10.0.0.0/8\n-\n" resolved
      ∧ Prints .pretty [.event .connected, found]
          "10.0.0.1 found in 10.0.0.0/8\n10.0.0.01 unresolved\n"
          (∃ row ∈ ·, row.status = .unresolved) := by
  intro found both resolved
  have hsucceeds (format : OutputFormat) {text : String}
      (hsuccess : (lookUpTwice format both).1.outcome = .finished .success)
      (houtput : (lookUpTwice format both).1.output = text) : Prints format both text resolved := by
    obtain ⟨hrun, hanswered, -⟩ := lookup_tells_the_truth scripted (fun _ => .new)
      ⟨"127.0.0.1", 9595, none⟩ format ["10.0.0.1", "10.0.0.01"] "5s" [] both
    refine ⟨houtput, ?_⟩
    rw [lookUpTwice, hrun] at hsuccess houtput
    obtain ⟨rows, -, hshows, -, hrows⟩ := hanswered hsuccess
    rw [houtput] at hshows
    exact ⟨rows, hshows, fun row hrow => (hrows row hrow).1⟩
  refine ⟨?_, ?_, ?_, ?_, by decide +kernel, ?_⟩
  · exact hsucceeds .json (by decide +kernel) (by decide +kernel)
  · exact hsucceeds .table (by decide +kernel) (by decide +kernel)
  · exact hsucceeds .pretty (by decide +kernel) (by decide +kernel)
  · exact hsucceeds .raw (by decide +kernel) (by decide +kernel)
  · have htimeout : (lookUpTwice .pretty [.event .connected, found]).1.outcome
        = .finished .timeout := by decide +kernel
    have houtput : (lookUpTwice .pretty [.event .connected, found]).1.output
        = "10.0.0.1 found in 10.0.0.0/8\n10.0.0.01 unresolved\n" := by decide +kernel
    obtain ⟨hrun, -, hlate, -⟩ := lookup_tells_the_truth scripted (fun _ => .new)
      ⟨"127.0.0.1", 9595, none⟩ .pretty ["10.0.0.1", "10.0.0.01"] "5s" []
      [.event .connected, found]
    rw [lookUpTwice, hrun] at htimeout houtput
    obtain ⟨rows, _, _, -, -, hshows, -, -, -, hunresolved⟩ := hlate htimeout
    rw [houtput] at hshows
    exact ⟨rows, hshows, hunresolved⟩

end Command.Lookup

end CidrLookup
