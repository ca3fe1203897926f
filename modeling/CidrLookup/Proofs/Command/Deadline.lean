import CidrLookup.Command.Probe
import CidrLookup.Proofs.Command.Capacity
import CidrLookup.Proofs.Command.Timeout

/-!
# Deadlines of commands

A command adds its timeout to what the clock shows, and the clock's seconds have 63 bits and a sign
while a timeout's have 64 bits. `stops_iff` says for either command that it stops in the middle of
its work exactly if it gets as far as its wait and the deadline does not fit. What comes after that
is safe: `runUntil_mirrors` follows a wait look by look, in a world that watches, and no look takes
longer than there is time to the deadline.
-/

namespace CidrLookup

/-! ## Within reach of the clock -/

namespace Instant

/-- The first nanosecond that the clock cannot show. -/
def clockEnd : Nat := 9223372036854775808 * 1000000000

/-- The clock ends at one moment, for every time that is added. -/
theorem after?_eq (now : Instant) (d : Duration) :
    now.after? d
      = if now.nanos + d.nanos < clockEnd then some ⟨now.nanos + d.nanos⟩ else none := by
  have hseconds : (now.nanos + d.nanos) / 1000000000 < 9223372036854775808
      ↔ now.nanos + d.nanos < clockEnd := Nat.div_lt_iff_lt_mul (by decide)
  show (if (now.nanos + d.nanos) / 1000000000 < 9223372036854775808 then _ else _) = _
  simp only [hseconds]

/-- A time is within reach if the clock does not end before. -/
theorem isSome_after?_iff {now : Instant} {d : Duration} :
    (now.after? d).isSome ↔ now.nanos + d.nanos < clockEnd := by
  rw [after?_eq]
  split <;> simp_all

end Instant

namespace Command.Timeout.TimeUnit

/-- Seconds have to leave room for those that the clock shows. -/
theorem seconds_reach_iff {now : Instant} {n : Nat} :
    now.nanos + (seconds.duration n).nanos < Instant.clockEnd
      ↔ now.nanos / 1000000000 + n < 9223372036854775808 := by
  show now.nanos + n * 1000000000 < Instant.clockEnd ↔ _
  unfold Instant.clockEnd
  omega

/-- Milliseconds are within reach for billions of years. -/
theorem millis_reach {now : Instant} {n : Nat} (hmax : n ≤ Numeral.maxLong)
    (hnow : now.nanos / 1000000000 < 9204925292781066256) :
    now.nanos + (millis.duration n).nanos < Instant.clockEnd := by
  show now.nanos + n * 1000000 < Instant.clockEnd
  unfold Instant.clockEnd
  unfold Numeral.maxLong at hmax
  omega

end Command.Timeout.TimeUnit

/-! ## Worlds that watch -/

variable {ρ σ W α : Type}

/-- A look at the link: what the clock showed before it, and how long it may take. -/
structure Look where
  shown : Instant
  limit : Duration

/-- A look that is over by a deadline. -/
structure Look.Fits (deadline : Instant) (look : Look) : Prop where
  early : look.shown.nanos < deadline.nanos
  positive : 0 < look.limit.nanos
  sliced : look.limit.nanos ≤ Session.pollSlice.nanos
  inTime : look.shown.nanos + look.limit.nanos ≤ deadline.nanos

/-- What a world that watches knows besides: what the clock showed last, and the looks. -/
abbrev Watched (W : Type) : Type := W × Instant × List Look

/-- The same world, which watches how long each look may take. -/
def World.watching (world : World (StateM W) σ) : World (StateM (Watched W)) σ where
  now state :=
    let shown := world.now state.1
    (shown.1, (shown.2, shown.1, state.2.2))
  timestamp state := ((world.timestamp state.1).1, ((world.timestamp state.1).2, state.2))
  wait limit link state :=
    let looked := world.wait limit link state.1
    (looked.1, (looked.2, state.2.1, ⟨state.2.1, limit⟩ :: state.2.2))

/-- A world that watches tells the same time, and remembers it. -/
theorem now_watching (world : World (StateM W) σ) (w : W) (shown : Instant) (looks : List Look) :
    world.watching.now (w, shown, looks)
      = ((world.now w).1, ((world.now w).2, (world.now w).1, looks)) := rfl

/-- The same came of it in a world and in the one that watches, where each look had a property. -/
structure Mirrors (property : Look → Prop) (plain : α × W) (watched : α × Watched W) : Prop where
  result : watched.1 = plain.1
  world : watched.2.1 = plain.2
  looks : ∀ look ∈ watched.2.2.2, property look

namespace Session

variable [Link σ] (world : World (StateM W) σ) (reachable : ρ → Bool) (deadline : Instant)
  (done : Session ρ σ → Bool)

/-- A wait that has not passed its deadline fits a look into what is left of it. -/
theorem fits_of_early {shown : Instant} (h : ¬ deadline.nanos ≤ shown.nanos) :
    Look.Fits deadline ⟨shown, ⟨min (deadline.since shown).nanos pollSlice.nanos⟩⟩ := by
  have hslice : 0 < pollSlice.nanos := by decide
  have hsince : (deadline.since shown).nanos = deadline.nanos - shown.nanos := rfl
  refine ⟨?_, ?_, ?_, ?_⟩
  · show shown.nanos < deadline.nanos
    omega
  · show 0 < min (deadline.since shown).nanos pollSlice.nanos
    omega
  · show min (deadline.since shown).nanos pollSlice.nanos ≤ pollSlice.nanos
    omega
  · show shown.nanos + min (deadline.since shown).nanos pollSlice.nanos ≤ deadline.nanos
    omega

/-- **A wait and its looks.** Each look of a wait fits. -/
theorem runUntil_mirrors (polls : Nat) (s : Session ρ σ) (w : W) (shown : Instant)
    {looks : List Look} (hlooks : ∀ look ∈ looks, look.Fits deadline) :
    Mirrors (Look.Fits deadline) (runUntil world reachable deadline done polls s w)
      (runUntil world.watching reachable deadline done polls s (w, shown, looks)) := by
  -- whatever the clock showed before, each look comes right after a new reading
  induction polls generalizing s w shown looks with
  | zero => exact ⟨rfl, rfl, hlooks⟩
  | succ polls ih =>
    rw [runUntil_succ, runUntil_succ]
    by_cases hdone : done s
    · rw [if_pos hdone, if_pos hdone]
      exact ⟨rfl, rfl, hlooks⟩
    · rw [if_neg hdone, if_neg hdone]
      show Mirrors _ _ (if deadline.nanos ≤ (world.now w).1.nanos then _ else _)
      by_cases hlate : deadline.nanos ≤ (world.now w).1.nanos
      · rw [if_pos hlate, if_pos hlate]
        exact ⟨rfl, rfl, hlooks⟩
      · rw [if_neg hlate, if_neg hlate]
        exact ih _ _ _ (List.forall_mem_cons.2 ⟨fits_of_early deadline hlate, hlooks⟩)

end Session

/-! ## Commands that stop in the middle of their work -/

namespace Command

/-- A program that stops in the middle of its work. -/
def Outcome.Stops (outcome : Outcome) : Prop :=
  ∃ reason, outcome = .aborted reason

theorem not_stops_failed (failure : Failure) : ¬ (Outcome.failed failure).Stops := nofun

theorem not_stops_finished (code : ExitCode) : ¬ (Outcome.finished code).Stops := nofun

/-- The timeout has a deadline, counted from a moment, and the look is over by then. -/
def KeepsTo (timeout : String) (start : Instant) (look : Look) : Prop :=
  ∃ limit deadline, Timeout.parse timeout = .ok limit ∧ start.after? limit = some deadline
    ∧ look.Fits deadline

variable [Link σ] (world : World (StateM W) σ) (makeLink : Config → σ) (target : Target)
  (format : OutputFormat) (timeout : String) (w : W)

namespace Lookup

variable (addresses : List String) (metadata : Metadata) (limit : Duration)

/-- A command that has decided does not stop in the middle. -/
theorem Decided.not_stops {outcome : Outcome} (h : Decided outcome) : ¬ outcome.Stops := by
  cases h with
  | answered => exact not_stops_finished _
  | late => exact not_stops_finished _
  | lost message => exact not_stops_failed _
  | halted reason => exact not_stops_failed _

/-- A command that has submitted stops where its deadline is out of reach. -/
theorem drive_stops_iff (s : Session Nat σ) :
    (drive world target format addresses limit s w).1.outcome.Stops
      ↔ (world.now w).1.after? limit = none := by
  cases hdeadline : (world.now w).1.after? limit with
  | none =>
    refine iff_of_true ?_ rfl
    unfold drive
    simp only [bind_apply, hdeadline]
    exact ⟨_, rfl⟩
  | some deadline =>
    exact iff_of_false (drive_decided world format w target addresses limit s hdeadline).not_stops
      (Option.some_ne_none deadline)

/-- What makes a lookup stop in the middle of its work: nothing but a deadline out of reach. -/
theorem stops_iff :
    (run world makeLink target format addresses timeout metadata w).1.outcome.Stops ↔
      ∃ limit start s, Timeout.parse timeout = .ok limit ∧ check addresses = .ok ()
        ∧ Session.new (target.config limit) (makeLink (target.config limit)) = .ok start
        ∧ submitAll (world.now w).1 metadata 0 addresses start = (.ok (), s)
        ∧ (world.now (world.now w).2).1.after? limit = none := by
  -- every check of the command, in its order, before the deadline is made
  unfold run
  cases Timeout.parse timeout with
  | error failure => exact iff_of_false (not_stops_failed _) (by simp)
  | ok limit =>
    cases check addresses with
    | error failure => exact iff_of_false (not_stops_failed _) (by simp)
    | ok =>
      simp only
      cases hnew : Session.new (target.config limit) (makeLink (target.config limit)) with
      | error e => exact iff_of_false (not_stops_failed _) (by simp [hnew])
      | ok start =>
        simp only [bind_apply]
        rcases hsubmit : submitAll (world.now w).1 metadata 0 addresses start with ⟨e | ⟨⟨⟩⟩, s⟩
        · exact iff_of_false (not_stops_failed _) (by simp [hnew, hsubmit])
        · simp only
          rw [drive_stops_iff]
          simp [hnew, hsubmit]

/-- A lookup and its looks. -/
theorem run_mirrors (shown : Instant) :
    Mirrors (KeepsTo timeout (world.now (world.now w).2).1)
      (run world makeLink target format addresses timeout metadata w)
      (run world.watching makeLink target format addresses timeout metadata (w, shown, [])) := by
  -- up to the wait the command looks at nothing, so both worlds see the same of it
  unfold run
  cases hparse : Timeout.parse timeout with
  | error failure => exact ⟨rfl, rfl, List.forall_mem_nil _⟩
  | ok limit =>
    cases check addresses with
    | error failure => exact ⟨rfl, rfl, List.forall_mem_nil _⟩
    | ok =>
      simp only
      cases Session.new (target.config limit) (makeLink (target.config limit)) with
      | error e => exact ⟨rfl, rfl, List.forall_mem_nil _⟩
      | ok start =>
        simp only [bind_apply, now_watching]
        rcases submitAll (world.now w).1 metadata 0 addresses start with ⟨e | ⟨⟨⟩⟩, s⟩
        · exact ⟨rfl, rfl, List.forall_mem_nil _⟩
        · simp only [drive, bind_apply, now_watching]
          cases hdeadline : (world.now (world.now w).2).1.after? limit with
          | none => exact ⟨rfl, rfl, List.forall_mem_nil _⟩
          | some deadline =>
            obtain ⟨hresult, hworld, hlooks⟩ := Session.runUntil_mirrors world (fun _ => true)
              deadline isSettled Session.maxPolls s (world.now (world.now w).2).2
              (world.now (world.now w).2).1 (List.forall_mem_nil _)
            refine ⟨?_, hworld, fun look hlook => ?_⟩
            · exact congrArg (fun waited : Bool × Session Nat σ =>
                conclude target format addresses waited.1 waited.2) hresult
            · exact ⟨limit, deadline, hparse, hdeadline, hlooks look hlook⟩

end Lookup

namespace Probe

/-- A command that concludes does not stop in the middle. -/
theorem conclude_not_stops (limit : Duration) (time : String) (settled : Bool)
    (s : Session Unit σ) :
    ¬ (conclude target format limit time settled s).outcome.Stops := by
  unfold conclude
  split
  · exact not_stops_finished _
  · exact not_stops_failed _
  · split
    · exact not_stops_failed _
    · exact not_stops_failed _

/-- A probe stops where its deadline is out of reach. -/
theorem drive_stops_iff (limit : Duration) (s : Session Unit σ) :
    (drive world target format limit s w).1.outcome.Stops
      ↔ (world.now w).1.after? limit = none := by
  unfold drive
  simp only [Lookup.bind_apply]
  cases (world.now w).1.after? limit with
  | none => exact iff_of_true ⟨_, rfl⟩ rfl
  | some deadline =>
    exact iff_of_false (conclude_not_stops target format _ _ _ _) (Option.some_ne_none deadline)

/-- What makes a probe stop in the middle of its work: nothing but a deadline out of reach. -/
theorem stops_iff :
    (run world makeLink target format timeout w).1.outcome.Stops ↔
      ∃ limit start, Timeout.parse timeout = .ok limit
        ∧ Session.new (ρ := Unit) (target.config limit) (makeLink (target.config limit)) = .ok start
        ∧ (world.now w).1.after? limit = none := by
  unfold run
  cases Timeout.parse timeout with
  | error failure => exact iff_of_false (not_stops_failed _) (by simp)
  | ok limit =>
    simp only
    cases hnew : Session.new (target.config limit) (makeLink (target.config limit)) with
    | error e => exact iff_of_false (not_stops_failed _) (by simp [hnew])
    | ok start =>
      simp only
      rw [drive_stops_iff]
      simp [hnew]

/-- A probe and its looks. -/
theorem run_mirrors (shown : Instant) :
    Mirrors (KeepsTo timeout (world.now w).1)
      (run world makeLink target format timeout w)
      (run world.watching makeLink target format timeout (w, shown, [])) := by
  -- the probe reads the clock once more when it ends, and no look comes after that
  unfold run
  cases hparse : Timeout.parse timeout with
  | error failure => exact ⟨rfl, rfl, List.forall_mem_nil _⟩
  | ok limit =>
    simp only
    cases Session.new (target.config limit) (makeLink (target.config limit)) with
    | error e => exact ⟨rfl, rfl, List.forall_mem_nil _⟩
    | ok start =>
      simp only [drive, Lookup.bind_apply, now_watching]
      cases hdeadline : (world.now w).1.after? limit with
      | none => exact ⟨rfl, rfl, List.forall_mem_nil _⟩
      | some deadline =>
        simp only [Lookup.bind_apply]
        obtain ⟨hresult, hworld, hlooks⟩ := Session.runUntil_mirrors world (fun _ => true) deadline
          isSettled Session.maxPolls start.connect.2 (world.now w).2 (world.now w).1
          (List.forall_mem_nil _)
        refine ⟨?_, ?_, fun look hlook => ⟨limit, deadline, hparse, hdeadline, hlooks look hlook⟩⟩
        · rw [hresult]
          show conclude _ _ _ (world.timestamp _).1 _ _ = _
          rw [hworld]
          rfl
        · show (world.timestamp _).2 = _
          rw [hworld]
          rfl

end Probe

/-- **Which timeouts can be used.** A timeout is a number of seconds or milliseconds from one to the
greatest of 64 bits, and any other text a usage error. Seconds are within reach as long as they and
what the clock shows make less than 2 to the 63 seconds, milliseconds for all that a clock will
show. Both commands stop in the middle of their work if they get as far as their wait and the
deadline is out of reach, and for no other reason. A deadline within reach is all that a wait needs:
each look fits into what is left of it. -/
theorem timeouts_are_usable_iff_within_reach (addresses : List String) (metadata : Metadata)
    (shown : Instant) :
    (∀ limit, Timeout.parse timeout = .ok limit
        ↔ ∃ unit n, Timeout.Spells timeout.toList unit n ∧ limit = unit.duration n)
      ∧ (∀ e, Timeout.parse timeout = .error e → e.code = .usage)
      ∧ (∀ (n : Nat) (now : Instant), Timeout.Spells timeout.toList .seconds n →
          ((now.after? (.ofSeconds n)).isSome
            ↔ now.nanos / 1000000000 + n < 9223372036854775808))
      ∧ (∀ (n : Nat) (now : Instant), Timeout.Spells timeout.toList .millis n →
          now.nanos / 1000000000 < 9204925292781066256 → (now.after? (.ofMillis n)).isSome)
      ∧ ((Lookup.run world makeLink target format addresses timeout metadata w).1.outcome.Stops ↔
          ∃ limit start s, Timeout.parse timeout = .ok limit ∧ Lookup.check addresses = .ok ()
            ∧ Session.new (target.config limit) (makeLink (target.config limit)) = .ok start
            ∧ Lookup.submitAll (world.now w).1 metadata 0 addresses start = (.ok (), s)
            ∧ (world.now (world.now w).2).1.after? limit = none)
      ∧ ((Probe.run world makeLink target format timeout w).1.outcome.Stops ↔
          ∃ limit start, Timeout.parse timeout = .ok limit
            ∧ Session.new (ρ := Unit) (target.config limit) (makeLink (target.config limit))
              = .ok start
            ∧ (world.now w).1.after? limit = none)
      ∧ Mirrors (KeepsTo timeout (world.now (world.now w).2).1)
          (Lookup.run world makeLink target format addresses timeout metadata w)
          (Lookup.run world.watching makeLink target format addresses timeout metadata
            (w, shown, []))
      ∧ Mirrors (KeepsTo timeout (world.now w).1)
          (Probe.run world makeLink target format timeout w)
          (Probe.run world.watching makeLink target format timeout (w, shown, [])) := by
  refine ⟨fun limit => Timeout.parse_eq_ok_iff_spells,
    fun e he => Timeout.usage_of_parse_eq_error he, ?_, ?_,
    Lookup.stops_iff world makeLink target format timeout w addresses metadata,
    Probe.stops_iff world makeLink target format timeout w,
    Lookup.run_mirrors world makeLink target format timeout w addresses metadata shown,
    Probe.run_mirrors world makeLink target format timeout w shown⟩
  · intro n now _
    rw [Instant.isSome_after?_iff]
    exact Timeout.TimeUnit.seconds_reach_iff
  · intro n now hspells hnow
    rw [Instant.isSome_after?_iff]
    exact Timeout.TimeUnit.millis_reach hspells.le_maxLong hnow

/-- A lookup where nothing comes back and the clock shows a minute. -/
def lookUpWithin (timeout : String) : Outcome :=
  (Lookup.run Lookup.scripted (fun _ => .new) ⟨"127.0.0.1", 9595, none⟩ .json ["10.0.0.1"] timeout
    [] []).1.outcome

/-- A probe at that time. -/
def probeWithin (timeout : String) : Outcome :=
  (Probe.run Lookup.scripted (fun _ => .new) ⟨"127.0.0.1", 9595, none⟩ .json timeout []).1.outcome

/-- After a minute, the longest timeout that can be used is a minute and a second short of 2 to the
63 seconds. -/
theorem a_second_more_is_out_of_reach :
    ¬ (lookUpWithin "9223372036854775747s").Stops ∧ (probeWithin "9223372036854775748s").Stops := by
  obtain ⟨-, -, -, -, hlookup, -⟩ := timeouts_are_usable_iff_within_reach Lookup.scripted
    (fun _ => .new) ⟨"127.0.0.1", 9595, none⟩ .json "9223372036854775747s" [] ["10.0.0.1"] []
    ⟨0⟩
  obtain ⟨-, -, -, -, -, hprobe, -⟩ := timeouts_are_usable_iff_within_reach Lookup.scripted
    (fun _ => .new) ⟨"127.0.0.1", 9595, none⟩ .json "9223372036854775748s" [] [] [] ⟨0⟩
  constructor
  · rw [lookUpWithin, hlookup]
    rintro ⟨limit, -, -, hparse, -, -, -, hdeadline⟩
    have hlimit : Timeout.parse "9223372036854775747s" = .ok (.ofSeconds 9223372036854775747) := by
      decide +kernel
    obtain rfl := Except.ok.inj (hparse.symm.trans hlimit)
    revert hdeadline
    decide +kernel
  · rw [probeWithin, hprobe]
    exact ⟨.ofSeconds 9223372036854775748, _, by decide +kernel, rfl, by decide +kernel⟩

/-- The longest timeout is taken, no clock reaches its deadline, and it stops both commands. -/
theorem longest_timeout_stops_commands :
    Timeout.parse "18446744073709551615" = .ok (.ofSeconds 18446744073709551615)
      ∧ (∀ now : Instant, now.after? (.ofSeconds 18446744073709551615) = none)
      ∧ (lookUpWithin "18446744073709551615").Stops
      ∧ (probeWithin "18446744073709551615").Stops := by
  have hstops : lookUpWithin "18446744073709551615"
        = .aborted "the deadline lies beyond the end of the clock"
      ∧ probeWithin "18446744073709551615"
        = .aborted "the deadline lies beyond the end of the clock" := by decide +kernel
  refine ⟨by decide +kernel, fun now => ?_, ⟨_, hstops.1⟩, ⟨_, hstops.2⟩⟩
  rw [Instant.after?_eq, if_neg]
  show ¬ now.nanos + 18446744073709551615 * 1000000000 < Instant.clockEnd
  unfold Instant.clockEnd
  omega

end Command

end CidrLookup
