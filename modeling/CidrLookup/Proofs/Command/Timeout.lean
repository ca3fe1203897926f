import CidrLookup.Command.Timeout
import CidrLookup.Proofs.Numeral
import Mathlib.Data.List.TakeWhile

/-!
# The grammar of timeouts

`Spells` says without the reader which texts are timeouts: a number from one to the greatest of 64
bits, a unit or none, and white space around them. No character of a number or of a unit is white
space, and no character of a number is one of a unit, so there is only one way to take a text apart:
the reader's. `parse_eq_ok_iff_spells` says that it takes these texts for what they spell, and
`parse_eq_error_iff` that all others are usage errors.
-/

namespace CidrLookup

/-! ## White space around a text -/

namespace Text

/-- A run of white space. -/
def IsBlankRun (text : List Char) : Prop :=
  ∀ c ∈ text, isBlank c

/-- The white space in front of a text is a run of white space. -/
theorem isBlankRun_takeWhile (text : List Char) : IsBlankRun (text.takeWhile isBlank) :=
  fun _ hc => List.mem_takeWhile_imp hc

/-- A text is what is left of it with white space around. -/
theorem exists_trim (text : List Char) :
    ∃ front back, text = front ++ trim text ++ back ∧ IsBlankRun front ∧ IsBlankRun back := by
  let rest := (text.dropWhile isBlank).reverse
  refine ⟨text.takeWhile isBlank, (rest.takeWhile isBlank).reverse, ?_, isBlankRun_takeWhile text,
    fun c hc => isBlankRun_takeWhile rest c (List.mem_reverse.1 hc)⟩
  have hrest : trim text ++ (rest.takeWhile isBlank).reverse = text.dropWhile isBlank := by
    show (rest.dropWhile isBlank).reverse ++ _ = _
    rw [← List.reverse_append, List.takeWhile_append_dropWhile, List.reverse_reverse]
  rw [List.append_assoc, hrest, List.takeWhile_append_dropWhile]

/-- White space in front of a text goes, and goes no further than the text. -/
theorem dropWhile_isBlank_append {front text : List Char} (more : List Char)
    (hfront : IsBlankRun front) (hne : text ≠ []) (htext : ∀ c ∈ text, ¬ isBlank c) :
    (front ++ (text ++ more)).dropWhile isBlank = text ++ more := by
  rw [List.dropWhile_append_of_pos hfront]
  cases text with
  | nil => exact absurd rfl hne
  | cons c rest => exact List.dropWhile_cons_of_neg (htext c List.mem_cons_self)

/-- White space around a text that has none in it is trimmed off. -/
theorem trim_append {front text back : List Char} (hfront : IsBlankRun front)
    (hback : IsBlankRun back) (hne : text ≠ []) (htext : ∀ c ∈ text, ¬ isBlank c) :
    trim (front ++ text ++ back) = text := by
  have hback' : IsBlankRun back.reverse := fun c hc => hback c (List.mem_reverse.1 hc)
  have htext' : ∀ c ∈ text.reverse, ¬ isBlank c := fun c hc => htext c (List.mem_reverse.1 hc)
  have hrest := dropWhile_isBlank_append [] hback' (mt List.reverse_eq_nil_iff.1 hne) htext'
  rw [List.append_nil] at hrest
  rw [trim, List.append_assoc, dropWhile_isBlank_append back hfront hne htext,
    List.reverse_append, hrest, List.reverse_reverse]

end Text

/-! ## Numbers -/

namespace Numeral

/-- A number is not spelled by nothing. -/
theorem Spells.ne_nil {text : List Char} {n : Nat} (h : Spells text n) : text ≠ [] := by
  cases h with
  | plain h => exact h.hne
  | plus h => exact List.cons_ne_nil _ _

/-- A number is written with digits and a sign. -/
theorem Spells.isDigit_or {text : List Char} {n : Nat} (h : Spells text n) :
    ∀ c ∈ text, c.isDigit ∨ c = '+' := by
  cases h with
  | plain h => exact fun c hc => .inl (h.hdigits c hc)
  | plus h =>
    rw [List.forall_mem_cons]
    exact ⟨.inr rfl, fun c hc => .inl (h.hdigits c hc)⟩

end Numeral

namespace Command.Timeout

open Text (IsBlankRun)

/-! ## Units -/

/-- How a unit is named; seconds need no name. -/
inductive Names : List Char → TimeUnit → Prop where
  | unnamed : Names [] .seconds
  | seconds : Names ['s'] .seconds
  | millis : Names ['m', 's'] .millis

/-- An ending that is stripped stood at the end. -/
theorem stripSuffix?_eq_some_iff {ending text rest : List Char} :
    stripSuffix? ending text = some rest ↔ text = rest ++ ending := by
  unfold stripSuffix?
  constructor
  · intro h
    split at h
    · next hending =>
      rw [← Option.some.inj h]
      exact (List.take_append_drop _ text).symm.trans (congrArg _ hending)
    · contradiction
  · rintro rfl
    simp

/-- An ending that does not stand at the end is not stripped. -/
theorem stripSuffix?_eq_none {ending text : List Char} (h : ¬ ending <:+ text) :
    stripSuffix? ending text = none := by
  rw [Option.eq_none_iff_forall_ne_some]
  intro rest hrest
  exact h ⟨rest, (stripSuffix?_eq_some_iff.1 hrest).symm⟩

/-- Whatever the text, what is taken off its end names the unit. -/
theorem splitUnit_names (text : List Char) :
    ∃ ending, text = (splitUnit text).1 ++ ending ∧ Names ending (splitUnit text).2 := by
  unfold splitUnit
  cases hmillis : stripSuffix? ['m', 's'] text with
  | some number => exact ⟨_, stripSuffix?_eq_some_iff.1 hmillis, .millis⟩
  | none =>
    simp only
    cases hseconds : stripSuffix? ['s'] text with
    | some number => exact ⟨_, stripSuffix?_eq_some_iff.1 hseconds, .seconds⟩
    | none => exact ⟨[], (List.append_nil text).symm, .unnamed⟩

/-- A number in front of a name has no character of it, so all of the name is taken off. -/
theorem splitUnit_append {number ending : List Char} {unit : TimeUnit} {n : Nat}
    (hnumber : Numeral.Spells number n) (hunit : Names ending unit) :
    splitUnit (number ++ ending) = (number, unit) := by
  have hchars := hnumber.isDigit_or
  have hs : ¬ ['s'] <:+ number := by
    intro h
    have hmem := hchars 's' (h.subset List.mem_cons_self)
    revert hmem
    decide
  have hms : ¬ ['m', 's'] <:+ number := fun h => hs ((List.suffix_cons 'm' ['s']).trans h)
  unfold splitUnit
  cases hunit with
  | unnamed =>
    rw [List.append_nil, stripSuffix?_eq_none hms, stripSuffix?_eq_none hs]
  | seconds =>
    -- an `m` before the name would be the last character of the number
    have hnot : ¬ ['m', 's'] <:+ number ++ ['s'] := by
      rintro ⟨front, hfront⟩
      have heq : front ++ ['m'] = number := by
        have hboth : (front ++ ['m']) ++ ['s'] = number ++ ['s'] := by
          rw [← hfront, List.append_assoc]
          rfl
        exact List.append_cancel_right hboth
      have hmem := hchars 'm' (heq ▸ List.mem_append_right front List.mem_cons_self)
      revert hmem
      decide
    rw [stripSuffix?_eq_none hnot, stripSuffix?_eq_some_iff.2 rfl]
  | millis => rw [stripSuffix?_eq_some_iff.2 rfl]

/-! ## The grammar -/

/-- A digit is no white space. -/
theorem not_isBlank_of_isDigit {c : Char} (h : c.isDigit) : ¬ Text.isBlank c := by
  have hlow : 48 ≤ c.toNat ∧ c.toNat ≤ 57 := by
    simpa [Char.isDigit, UInt32.le_iff_toNat_le] using h
  simp only [Text.isBlank, Text.Ranges.contains_iff]
  rintro ⟨range, hrange, hin⟩
  have hnone : ∀ r ∈ Text.blanks, 57 < r.1 ∨ r.2 < 48 := by decide
  have hout := hnone range hrange
  omega

/-- There is no white space in a number with its unit. -/
theorem not_isBlank {number ending : List Char} {unit : TimeUnit} {n : Nat}
    (hnumber : Numeral.Spells number n) (hunit : Names ending unit) :
    ∀ c ∈ number ++ ending, ¬ Text.isBlank c := by
  rw [List.forall_mem_append]
  constructor
  · intro c hc
    cases hnumber.isDigit_or c hc with
    | inl hdigit => exact not_isBlank_of_isDigit hdigit
    | inr hplus =>
      rw [hplus]
      decide
  · have hm : ¬ Text.isBlank 'm' := by decide
    have hs : ¬ Text.isBlank 's' := by decide
    cases hunit with
    | unnamed => simp
    | seconds => simp [hs]
    | millis => simp [hm, hs]

/-- A text that spells a number of units, from one to the greatest number of 64 bits. -/
inductive Spells : List Char → TimeUnit → Nat → Prop where
  | mk {front number ending back : List Char} {unit : TimeUnit} {n : Nat}
      (hfront : IsBlankRun front) (hback : IsBlankRun back) (hnumber : Numeral.Spells number n)
      (hunit : Names ending unit) (hpos : 0 < n) (hmax : n ≤ Numeral.maxLong) :
      Spells (front ++ (number ++ ending) ++ back) unit n

/-- The number of a timeout is within the bound. -/
theorem Spells.le_maxLong {text : List Char} {unit : TimeUnit} {n : Nat}
    (h : Spells text unit n) : n ≤ Numeral.maxLong := by
  cases h with
  | mk _ _ _ _ _ hmax => exact hmax

/-- What is read off a text: the unit at its end, and the number before it. -/
theorem parse_eq_ok_iff {input : String} {d : Duration} :
    Timeout.parse input = .ok d ↔
      ∃ n, Numeral.parse Numeral.maxLong (splitUnit (Text.trim input.toList)).1 = .ok n ∧ 0 < n
        ∧ d = (splitUnit (Text.trim input.toList)).2.duration n := by
  unfold Timeout.parse
  -- an empty text is refused by itself, and so is zero
  cases Text.trim input.toList with
  | nil =>
    constructor
    · nofun
    · rintro ⟨n, hnumber, -⟩
      contradiction
  | cons c more =>
    simp only
    cases Numeral.parse Numeral.maxLong (splitUnit (c :: more)).1 with
    | error fault => simp
    | ok n =>
      cases n with
      | zero => simp
      | succ n => simp [eq_comm]

/-- **The grammar of timeouts.** A text is taken for a length of time if it spells it, and only
then. -/
theorem parse_eq_ok_iff_spells {input : String} {d : Duration} :
    Timeout.parse input = .ok d ↔ ∃ unit n, Spells input.toList unit n ∧ d = unit.duration n := by
  rw [parse_eq_ok_iff]
  constructor
  -- what the reader has stripped is what the grammar has around the number
  · rintro ⟨n, hparse, hpos, rfl⟩
    obtain ⟨hnumber, hmax⟩ := Numeral.parse_eq_ok_iff.1 hparse
    obtain ⟨front, back, htext, hfront, hback⟩ := Text.exists_trim input.toList
    obtain ⟨ending, hsplit, hunit⟩ := splitUnit_names (Text.trim input.toList)
    have hspells := Spells.mk hfront hback hnumber hunit hpos hmax
    rw [← hsplit, ← htext] at hspells
    exact ⟨_, n, hspells, rfl⟩
  -- the white space goes first, then the unit, and the number is left
  · rintro ⟨unit, n, hspells, rfl⟩
    generalize input.toList = text at hspells
    obtain ⟨hfront, hback, hnumber, hunit, hpos, hmax⟩ := hspells
    rename_i number ending _
    have hne : number ++ ending ≠ [] := List.append_ne_nil_of_left_ne_nil hnumber.ne_nil ending
    rw [Text.trim_append hfront hback hne (not_isBlank hnumber hunit),
      splitUnit_append hnumber hunit]
    exact ⟨n, Numeral.parse_eq_ok_iff.2 ⟨hnumber, hmax⟩, hpos, rfl⟩

/-- Whatever is wrong with a text, it is a usage error. -/
theorem usage_of_parse_eq_error {input : String} {e : Failure}
    (h : Timeout.parse input = .error e) : e.code = .usage := by
  unfold Timeout.parse at h
  split at h
  · obtain rfl := Except.error.inj h
    rfl
  · simp only at h
    split at h
    · obtain rfl := Except.error.inj h
      rfl
    · obtain rfl := Except.error.inj h
      rfl
    · contradiction

end Command.Timeout

end CidrLookup
