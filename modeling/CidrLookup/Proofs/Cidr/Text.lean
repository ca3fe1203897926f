import CidrLookup.Cidr
import CidrLookup.Proofs.Address
import Mathlib.Data.List.TakeDrop
import Mathlib.Data.List.TakeWhile

/-!
# Ranges and their texts

A text is cut at its first slash. What is before it has to be an address and what is after it a mask
length; the length is read first, then the address, and last the length is compared with the bits
that there are. `Spells` and `Refuses` say without the reader which range a text is, and what is
wrong with one that is none. `range_texts_are_read` adds that a range is read back from the text
that is written for it.
-/

namespace CidrLookup.Cidr

/-! ## The first slash -/

/-- A text with its parts before and after its first slash. -/
structure Cuts (text address length : String) : Prop where
  htext : text.toList = address.toList ++ '/' :: length.toList
  hfirst : '/' ∉ address.toList

section Cuts

variable {text address length : String}

/-- A text with a slash is cut at its first one. -/
theorem exists_cuts (h : '/' ∈ text.toList) : ∃ address length, Cuts text address length := by
  obtain ⟨address, length, htext, hfirst⟩ := List.eq_append_cons_of_mem h
  refine ⟨.ofList address, .ofList length, ?_, ?_⟩
  · rw [String.toList_ofList, String.toList_ofList, htext]
  · rwa [String.toList_ofList]

/-- The reader cuts a text where the statement does. -/
theorem Cuts.span_eq (h : Cuts text address length) :
    text.toList.span (· ≠ '/') = (address.toList, '/' :: length.toList) := by
  have hbefore : ∀ c ∈ address.toList, decide (c ≠ '/') := fun c hc =>
    decide_eq_true fun hslash => h.hfirst (hslash ▸ hc)
  rw [List.span_eq_takeWhile_dropWhile, h.htext, List.takeWhile_append_of_pos hbefore,
    List.dropWhile_append_of_pos hbefore]
  simp

/-- A text without a slash is not cut. -/
theorem span_of_notMem (h : '/' ∉ text.toList) :
    text.toList.span (· ≠ '/') = (text.toList, []) := by
  have hall : ∀ c ∈ text.toList, decide (c ≠ '/') := fun c hc =>
    decide_eq_true fun hslash => h (hslash ▸ hc)
  rw [List.span_eq_takeWhile_dropWhile, List.takeWhile_eq_self_iff.2 hall,
    List.dropWhile_eq_nil_iff.2 hall]

/-! ## The steps of the reader -/

/-- A text without a slash is refused as a whole. -/
theorem parse_of_notMem (h : '/' ∉ text.toList) : parse text = .error (.invalidAddress text) := by
  rw [parse, span_of_notMem h]

/-- A length that is no number is refused before the address is looked at. -/
theorem Cuts.parse_of_fault (h : Cuts text address length) {fault : Numeral.Fault}
    (hlength : Numeral.parse Numeral.maxWord length.toList = .error fault) :
    parse text = .error (.invalidAddress text) := by
  rw [parse, h.span_eq]
  simp only [hlength]

/-- With a length that is a word, the address is read, and then the length is checked. -/
theorem Cuts.parse_of_length (h : Cuts text address length) {n : Nat}
    (hlength : Numeral.Spells length.toList n) (hword : n ≤ Numeral.maxWord) :
    parse text = (Address.parse address).bind (make · (.ofNat n)) := by
  rw [parse, h.span_eq]
  simp only [Numeral.parse_eq_ok_iff.2 ⟨hlength, hword⟩, String.ofList_toList]
  rfl

end Cuts

/-! ## What a text is -/

/-- The texts of a range: its network address, a slash, and the length of its mask, which is at
most 32. -/
inductive Spells (text : String) (range : Cidr) : Prop where
  | cut {address length : String} (hcuts : Cuts text address length)
      (hnetwork : Address.parse address = .ok range.network)
      (hlength : Numeral.Spells length.toList range.maskLen.toNat) (hmask : range.maskLen ≤ 32)

/-- What is wrong with a text that is no range. Of several faults the first in this order counts. -/
inductive Refuses (text : String) : ProtocolError → Prop where
  /-- There is no slash. -/
  | uncut (hnone : '/' ∉ text.toList) : Refuses text (.invalidAddress text)
  /-- What follows the first slash is not the numeral of a word. -/
  | length {address length : String} (hcuts : Cuts text address length)
      (hlength : ∀ n ≤ Numeral.maxWord, ¬ Numeral.Spells length.toList n) :
      Refuses text (.invalidAddress text)
  /-- What precedes it is no address. -/
  | address {address length : String} {n : Nat} (hcuts : Cuts text address length)
      (hlength : Numeral.Spells length.toList n) (hword : n ≤ Numeral.maxWord)
      (haddress : ∀ network, Address.parse address ≠ .ok network) :
      Refuses text (.invalidAddress address)
  /-- An address has fewer bits than that. -/
  | mask {address length : String} {network : Address} {maskLen : UInt32}
      (hcuts : Cuts text address length) (hnetwork : Address.parse address = .ok network)
      (hlength : Numeral.Spells length.toList maskLen.toNat) (hmask : 32 < maskLen) :
      Refuses text (.invalidMaskLength maskLen)

section Read

variable {text : String} {range : Cidr} {e : ProtocolError}

/-- A word is within the bound of words. -/
theorem toNat_le_maxWord (n : UInt32) : n.toNat ≤ Numeral.maxWord := by
  have hlt := n.toNat_lt
  unfold Numeral.maxWord
  omega

/-- A text that spells a range is read as that range. -/
theorem Spells.parse_eq (h : Spells text range) : parse text = .ok range := by
  obtain ⟨hcuts, hnetwork, hlength, hmask⟩ := h
  rw [hcuts.parse_of_length hlength (toNat_le_maxWord _), hnetwork, UInt32.ofNat_toNat]
  show make range.network range.maskLen = .ok range
  rw [make, if_neg (UInt32.not_lt.2 hmask)]

/-- A text with a fault is refused for it. -/
theorem Refuses.parse_eq (h : Refuses text e) : parse text = .error e := by
  -- in the order of the reader: the slash, the length, the address, the mask
  cases h with
  | uncut hnone => exact parse_of_notMem hnone
  | @length address length hcuts hlength =>
    cases hread : Numeral.parse Numeral.maxWord length.toList with
    | ok n =>
      obtain ⟨hspells, hword⟩ := Numeral.parse_eq_ok_iff.1 hread
      exact absurd hspells (hlength n hword)
    | error fault => exact hcuts.parse_of_fault hread
  | @address address _ _ hcuts hlength hword haddress =>
    rw [hcuts.parse_of_length hlength hword]
    cases hread : Address.parse address with
    | ok network => exact absurd hread (haddress network)
    | error e =>
      obtain ⟨-, rfl⟩ := Address.parse_eq_error_iff.1 hread
      rfl
  | @mask _ _ network maskLen hcuts hnetwork hlength hmask =>
    rw [hcuts.parse_of_length hlength (toNat_le_maxWord _), hnetwork, UInt32.ofNat_toNat]
    show make network maskLen = _
    rw [make, if_pos hmask]

/-- **The list is complete.** A text is a range, or something is wrong with it. -/
theorem spells_or_refuses (text : String) :
    (∃ range, Spells text range) ∨ ∃ e, Refuses text e := by
  by_cases hslash : '/' ∈ text.toList
  · obtain ⟨address, length, hcuts⟩ := exists_cuts hslash
    by_cases hlength : ∃ n ≤ Numeral.maxWord, Numeral.Spells length.toList n
    · obtain ⟨n, hword, hspells⟩ := hlength
      cases hread : Address.parse address with
      | error e => exact .inr ⟨_, .address hcuts hspells hword (by simp [hread])⟩
      | ok network =>
        -- the number fits a word, so it is the mask of a range
        obtain ⟨maskLen, rfl⟩ : ∃ maskLen : UInt32, maskLen.toNat = n := by
          refine ⟨.ofNat n, ?_⟩
          rw [UInt32.toNat_ofNat']
          unfold Numeral.maxWord at hword
          omega
        by_cases hmask : maskLen ≤ 32
        · exact .inl ⟨⟨network, maskLen⟩, .cut hcuts hread hspells hmask⟩
        · exact .inr ⟨_, .mask hcuts hread hspells (UInt32.not_le.1 hmask)⟩
    · exact .inr ⟨_, .length hcuts fun n hword hspells => hlength ⟨n, hword, hspells⟩⟩
  · exact .inr ⟨_, .uncut hslash⟩

/-- A text is read as a range if and only if it spells it. -/
theorem parse_eq_ok_iff : parse text = .ok range ↔ Spells text range := by
  refine ⟨fun h => ?_, Spells.parse_eq⟩
  obtain ⟨range', hspells⟩ | ⟨e, hrefuses⟩ := spells_or_refuses text
  · cases h.symm.trans hspells.parse_eq
    exact hspells
  · cases h.symm.trans hrefuses.parse_eq

/-- A text is refused for the first fault it has. -/
theorem parse_eq_error_iff : parse text = .error e ↔ Refuses text e := by
  refine ⟨fun h => ?_, Refuses.parse_eq⟩
  obtain ⟨range, hspells⟩ | ⟨e', hrefuses⟩ := spells_or_refuses text
  · cases h.symm.trans hspells.parse_eq
  · cases h.symm.trans hrefuses.parse_eq
    exact hrefuses

end Read

/-! ## Writing and reading again -/

/-- An address is spelled without a slash. -/
theorem slash_notMem {text : String} {address : Address} (h : Address.Spells text address) :
    '/' ∉ text.toList := by
  obtain @⟨a, b, c, d, _, _, _, _, _, ha, hb, hc, hd, -⟩ := h
  have hgroup {group : List Char} {value : Nat} (hgroup : Address.IsGroup group value) :
      '/' ∉ group := fun hslash => absurd (hgroup.hdenotes.hdigits _ hslash) (by decide)
  simp [hgroup ha, hgroup hb, hgroup hc, hgroup hd]

/-- The text of a range spells it. -/
theorem spells_format {range : Cidr} (hmask : range.maskLen ≤ 32) : Spells range.format range := by
  have hcuts : Cuts range.format range.network.format
      (.ofList (Numeral.digits range.maskLen.toNat)) := by
    refine ⟨?_, slash_notMem (Address.spells_format range.network)⟩
    rw [format, String.toList_ofList, String.toList_ofList]
  refine .cut hcuts (Address.parse_format range.network) ?_ hmask
  rw [String.toList_ofList]
  exact .plain (Numeral.denotes_digits _)

/-- A range is read back from its text. -/
theorem parse_format {range : Cidr} (hmask : range.maskLen ≤ 32) :
    parse range.format = .ok range :=
  (spells_format hmask).parse_eq

/-- **Texts of ranges.** A text is read as a range exactly if it spells it: an address before the
first slash and a mask length of at most 32 after it. It is refused exactly with the first thing
that is wrong with it. A range is read back from the text written for it, and what is written for a
range that was read from a text is written for it again. -/
theorem range_texts_are_read (text : String) :
    (∀ range, parse text = .ok range ↔ Spells text range)
      ∧ (∀ e, parse text = .error e ↔ Refuses text e)
      ∧ (∀ range, range.maskLen ≤ 32 → parse range.format = .ok range)
      ∧ ∀ written, (parse text).map format = .ok written →
          (parse written).map format = .ok written := by
  refine ⟨fun _ => parse_eq_ok_iff, fun _ => parse_eq_error_iff, fun _ => parse_format, ?_⟩
  intro written hwritten
  -- what was written is the text of a range, whose mask was checked when it was read
  cases hparse : parse text with
  | error e =>
    rw [hparse] at hwritten
    contradiction
  | ok range =>
    rw [hparse] at hwritten
    cases hwritten
    obtain ⟨-, -, -, hmask⟩ := parse_eq_ok_iff.1 hparse
    rw [parse_format hmask]
    rfl

/-- A sign and zeros before the numbers are read and not written, host bits are kept, and of two
faults the length comes first, unless it is only too long for a mask. -/
theorem padded_range_is_rewritten :
    Spells "010.0.0.1/+008" ⟨⟨0x0A000001⟩, 8⟩
      ∧ (parse "10.0.0.1/8").map format = .ok "10.0.0.1/8"
      ∧ parse (format ⟨⟨0x0A000001⟩, 8⟩) = .ok ⟨⟨0x0A000001⟩, 8⟩
      ∧ Refuses "10.0.0/8/16" (.invalidAddress "10.0.0/8/16")
      ∧ Refuses "10.0.0/99" (.invalidAddress "10.0.0") := by
  obtain ⟨hread, -, hback, hagain⟩ := range_texts_are_read "010.0.0.1/+008"
  obtain ⟨-, htwice, -, -⟩ := range_texts_are_read "10.0.0/8/16"
  obtain ⟨-, hlong, -, -⟩ := range_texts_are_read "10.0.0/99"
  exact ⟨(hread _).1 (by rfl), hagain _ (by rfl), hback _ (by decide), (htwice _).1 (by rfl),
    (hlong _).1 (by rfl)⟩

end CidrLookup.Cidr
