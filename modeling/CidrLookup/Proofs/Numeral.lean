import CidrLookup.Numeral
import Mathlib.Tactic.SplitIfs

/-!
# Numerals and their values

A reader of numerals goes through a text character by character and checks the bound at each of
them. `unsigned_eq_ok_iff` says what that comes to: the text is a run of digits, and its value is
within the bound. The checks on the way decide nothing, since a value only grows by more digits.
`parse_eq_ok_iff` says the same of numerals that may have a plus sign in front.
-/

namespace CidrLookup.Numeral

/-- A run of ASCII digits, at least one, with its decimal value. -/
structure Denotes (digits : List Char) (n : Nat) : Prop where
  hne : digits ≠ []
  hdigits : ∀ c ∈ digits, c.isDigit
  hvalue : Nat.ofDigitChars 10 digits 0 = n

/-- The digits of a number denote it. -/
theorem denotes_digits (n : Nat) : Denotes (digits n) n :=
  ⟨Nat.toDigits_ne_nil, fun _ hc => Nat.isDigit_of_mem_toDigits (by decide) (by decide) hc,
    Nat.ofDigitChars_ten_toDigits⟩

/-- More digits make no value smaller. -/
theorem le_ofDigitChars (digits : List Char) (acc : Nat) :
    acc ≤ Nat.ofDigitChars 10 digits acc := by
  induction digits generalizing acc with
  | nil => simp
  | cons c digits ih =>
    rw [Nat.ofDigitChars_cons]
    have hmore := ih (10 * acc + (c.toNat - '0'.toNat))
    omega

/-- Reading on from a value within the bound: all characters are digits, and the number they end up
with is within the bound. -/
theorem value_eq_ok_iff {max acc n : Nat} {digits : List Char} (hacc : acc ≤ max) :
    value max acc digits = .ok n
      ↔ (∀ c ∈ digits, c.isDigit) ∧ Nat.ofDigitChars 10 digits acc = n ∧ n ≤ max := by
  -- digit by digit, for every value that the digits before may have given
  induction digits generalizing acc with
  | nil =>
    simp only [value, Except.ok.injEq, Nat.ofDigitChars_nil, List.not_mem_nil, false_implies,
      implies_true, true_and]
    constructor
    · rintro rfl
      exact ⟨rfl, hacc⟩
    · exact And.left
  | cons c digits ih =>
    rw [List.forall_mem_cons, Nat.ofDigitChars_cons, Nat.mul_comm 10 acc, value, digit?]
    by_cases hdigit : c.isDigit
    · simp only [hdigit, if_true, true_and]
      split_ifs with hbound
      · exact ih hbound
      · -- the bound is passed here, so it is passed at the end
        have hgrows := le_ofDigitChars digits (acc * 10 + (c.toNat - '0'.toNat))
        constructor
        · intro h
          contradiction
        · rintro ⟨-, hvalue, hmax⟩
          omega
    · simp [hdigit]

/-- Digits are read as the number they denote, if it is within the bound. -/
theorem unsigned_eq_ok_iff {max n : Nat} {digits : List Char} :
    unsigned max digits = .ok n ↔ Denotes digits n ∧ n ≤ max := by
  cases digits with
  | nil =>
    constructor
    · intro h
      contradiction
    · rintro ⟨hdenotes, -⟩
      exact absurd rfl hdenotes.hne
  | cons c digits =>
    have hne : c :: digits ≠ [] := List.cons_ne_nil c digits
    rw [unsigned, value_eq_ok_iff (Nat.zero_le max)]
    · constructor
      · rintro ⟨hdigits, hvalue, hmax⟩
        exact ⟨⟨hne, hdigits, hvalue⟩, hmax⟩
      · rintro ⟨⟨-, hdigits, hvalue⟩, hmax⟩
        exact ⟨hdigits, hvalue, hmax⟩
    · exact hne

/-! ## Signs -/

/-- A run of digits with its value, after at most one plus sign. -/
inductive Spells : List Char → Nat → Prop where
  | plain {digits : List Char} {n : Nat} (h : Denotes digits n) : Spells digits n
  | plus {digits : List Char} {n : Nat} (h : Denotes digits n) : Spells ('+' :: digits) n

/-- A sign is no digit. -/
theorem not_denotes_plus {digits : List Char} {n : Nat} : ¬ Denotes ('+' :: digits) n := by
  intro h
  have hdigit := h.hdigits '+' List.mem_cons_self
  contradiction

/-- A text is read as the number it spells, if it is within the bound. -/
theorem parse_eq_ok_iff {max n : Nat} {text : List Char} :
    parse max text = .ok n ↔ Spells text n ∧ n ≤ max := by
  unfold parse
  split
  · constructor
    · nofun
    · rintro ⟨hspells, -⟩
      cases hspells with
      | plain h => exact absurd rfl h.hne
  · rw [unsigned_eq_ok_iff]
    constructor
    · exact fun ⟨h, hmax⟩ => ⟨.plus h, hmax⟩
    · rintro ⟨hspells, hmax⟩
      cases hspells with
      | plain h => exact absurd h not_denotes_plus
      | plus h => exact ⟨h, hmax⟩
  · rename_i hsign
    rw [unsigned_eq_ok_iff]
    constructor
    · exact fun ⟨h, hmax⟩ => ⟨.plain h, hmax⟩
    · rintro ⟨hspells, hmax⟩
      cases hspells with
      | plain h => exact ⟨h, hmax⟩
      | plus h => exact absurd rfl (hsign _)

end CidrLookup.Numeral
