import CidrLookup.Cidr
import Mathlib.Tactic.SplitIfs

/-!
# The addresses of a range

A range has the addresses that agree with its network address on the leading bits of the mask.
`contains_iff` says so bit by bit, for every mask length. What two ranges have in common follows
from that alone: agreement on some leading bits is agreement on fewer, so a range that has one
address of a shorter one has only addresses of it, and `ranges_are_laminar` is what the search for
the longest matching range rests on.
-/

namespace CidrLookup

/-! ## Leading bits -/

namespace Address

/-- The bits of an address, the most significant first. -/
def bit (address : Address) (place : Nat) : Bool :=
  address.bits.toBitVec.getMsbD place

/-- Addresses that have the same leading bits. -/
def Agree (count : Nat) (a b : Address) : Prop :=
  ∀ place < count, a.bit place = b.bit place

section

variable {count : Nat} {a b c : Address}

theorem Agree.symm (h : Agree count a b) : Agree count b a :=
  fun place hplace => (h place hplace).symm

theorem Agree.trans (h : Agree count a b) (h' : Agree count b c) : Agree count a c :=
  fun place hplace => (h place hplace).trans (h' place hplace)

/-- Addresses that agree in some bits agree in fewer. -/
theorem Agree.of_le {fewer : Nat} (h : Agree count a b) (hle : fewer ≤ count) : Agree fewer a b :=
  fun place hplace => h place (Nat.lt_of_lt_of_le hplace hle)

end

end Address

namespace Cidr

open Address (Agree)

/-- The number of leading bits that an address shares with the network address: those of the mask,
and no more than there are. -/
def length (range : Cidr) : Nat :=
  min range.maskLen.toNat 32

/-- Of two ranges, the one with the longer mask has the longer length. -/
theorem length_le_of_maskLen_le {range other : Cidr} (h : range.maskLen ≤ other.maskLen) :
    range.length ≤ other.length := by
  have hle : range.maskLen.toNat ≤ other.maskLen.toNat := h
  unfold length
  omega

/-! ## The mask -/

/-- The difference of two words, unless it overflows. -/
def difference? (a b : UInt32) : Option UInt32 :=
  if b ≤ a then some (a - b) else none

/-- A word shifted to the left, unless it is shifted by all its bits or more. -/
def shifted? (word places : UInt32) : Option UInt32 :=
  if places < 32 then some (word <<< places) else none

/-- The mask, with every operation checked for overflow. -/
def netmask? (range : Cidr) : Option UInt32 :=
  if range.maskLen = 0 then some 0
  else (difference? 32 (min range.maskLen 32)).bind (shifted? 0xFFFFFFFF)

/-- The smaller of two words is the smaller number. -/
theorem toNat_min (a b : UInt32) : (min a b).toNat = min a.toNat b.toNat := by
  show (if a ≤ b then a else b).toNat = _
  split_ifs with h <;> rw [UInt32.le_iff_toNat_le] at h <;> omega

section Mask

variable (range : Cidr)

/-- A mask longer than an address counts as one of its length. -/
theorem toNat_min_maskLen : (min range.maskLen 32).toNat = range.length :=
  toNat_min range.maskLen 32

/-- No range is longer than an address. -/
theorem length_le : range.length ≤ 32 :=
  Nat.min_le_right ..

/-- The mask that counts is no longer than an address. -/
theorem min_maskLen_le : min range.maskLen 32 ≤ 32 := by
  rw [UInt32.le_iff_toNat_le, toNat_min_maskLen]
  exact range.length_le

/-- The mask is shifted by the places that it leaves free. -/
theorem toNat_places : (32 - min range.maskLen 32).toNat = 32 - range.length := by
  rw [UInt32.toNat_sub_of_le _ _ range.min_maskLen_le, toNat_min_maskLen]
  rfl

variable {range} in
/-- A mask that is not empty leaves less than all places free. -/
theorem places_lt (h : range.maskLen ≠ 0) : 32 - min range.maskLen 32 < 32 := by
  have hpos : range.maskLen.toNat ≠ 0 := fun hzero => h (UInt32.toNat_inj.1 hzero)
  rw [UInt32.lt_iff_toNat_lt, toNat_places]
  show 32 - min range.maskLen.toNat 32 < 32
  omega

/-- No operation of the mask overflows. -/
theorem netmask?_eq : range.netmask? = some range.netmask := by
  unfold netmask? netmask
  split_ifs with hzero
  · rfl
  · rw [difference?, if_pos range.min_maskLen_le, Option.bind_some, shifted?,
      if_pos (places_lt hzero)]

/-- The leading bits of the mask are set, and no others. -/
theorem getMsbD_netmask (place : Nat) :
    range.netmask.toBitVec.getMsbD place = decide (place < range.length) := by
  unfold netmask
  split_ifs with hzero
  · simp [length, hzero]
  -- the shift is by fewer places than there are bits, so the number of places is not reduced
  · have hplaces : (32 - min range.maskLen 32).toNat % 32 = 32 - range.length := by
      have hlt : (32 - min range.maskLen 32).toNat < 32 :=
        UInt32.lt_iff_toNat_lt.1 (places_lt hzero)
      rw [Nat.mod_eq_of_lt hlt, toNat_places]
    have hle := range.length_le
    have hones : (0xFFFFFFFF : UInt32).toBitVec = BitVec.allOnes 32 := rfl
    rw [UInt32.toBitVec_shiftLeft, BitVec.shiftLeft_eq', BitVec.toNat_umod, hones,
      BitVec.getMsbD_shiftLeft, BitVec.getMsbD_allOnes]
    show decide (place + (32 - min range.maskLen 32).toNat % 32 < 32) = _
    rw [hplaces, decide_eq_decide]
    omega

end Mask

/-! ## Membership -/

/-- A range has the addresses that agree with its network address on the bits of the mask. -/
theorem contains_iff {range : Cidr} {address : Address} :
    range.contains address ↔ Agree range.length address range.network := by
  rw [contains, decide_eq_true_iff, ← UInt32.toBitVec_inj, UInt32.toBitVec_and,
    UInt32.toBitVec_and]
  constructor
  -- a bit that is masked out is none in both; any other is that of the address and of the network
  · intro h place hplace
    have hbits := congrArg (BitVec.getMsbD · place) h
    simp only [BitVec.getMsbD_and, getMsbD_netmask, hplace, decide_true, Bool.and_true] at hbits
    exact hbits
  · intro h
    refine BitVec.eq_of_getMsbD_eq fun place _ => ?_
    rw [BitVec.getMsbD_and, BitVec.getMsbD_and, getMsbD_netmask]
    by_cases hplace : place < range.length
    · have hbit : address.bits.toBitVec.getMsbD place = _ := h place hplace
      rw [hbit, Address.bit]
    · simp [hplace]

section Laminar

variable {range other : Cidr}

/-- A range that has an address of a shorter one has no other addresses than that one. -/
theorem contains_of_common (hlength : range.length ≤ other.length) {common : Address}
    (hrange : range.contains common) (hother : other.contains common) {address : Address}
    (h : other.contains address) : range.contains address := by
  rw [contains_iff] at hrange hother h ⊢
  have hagree : Agree range.length address common := (h.trans hother.symm).of_le hlength
  exact hagree.trans hrange

/-- Ranges of one length that have an address in common have the same addresses. -/
theorem contains_eq_of_common (hlength : range.length = other.length) {common : Address}
    (hrange : range.contains common) (hother : other.contains common) :
    range.contains = other.contains := by
  funext address
  rw [Bool.eq_iff_iff]
  exact ⟨contains_of_common (Nat.le_of_eq hlength.symm) hother hrange,
    contains_of_common (Nat.le_of_eq hlength) hrange hother⟩

/-- **Ranges are laminar.** The mask of a range is computed without an overflow, whatever its
length, and the range has the addresses that agree with its network address on the leading bits of
the mask, 32 at most. Of two ranges, the one with the longer mask has no address of the other, or
only addresses of it. So the longest of the ranges that have an address are one range. -/
theorem ranges_are_laminar :
    (∀ range : Cidr, range.netmask? = some range.netmask
        ∧ range.length = min range.maskLen.toNat 32
        ∧ ∀ address, range.contains address ↔ Agree range.length address range.network)
      ∧ (∀ range other : Cidr, range.maskLen ≤ other.maskLen → range.length ≤ other.length)
      ∧ (∀ range other : Cidr, range.length ≤ other.length →
          (∀ address, ¬ (range.contains address ∧ other.contains address))
            ∨ ∀ address, other.contains address → range.contains address)
      ∧ ∀ (ranges : List Cidr) (address : Address), (∀ range ∈ ranges, range.contains address) →
          ∀ range ∈ ranges, ∀ other ∈ ranges,
            (∀ r ∈ ranges, r.length ≤ range.length) → (∀ r ∈ ranges, r.length ≤ other.length) →
            range.contains = other.contains := by
  refine ⟨fun range => ⟨range.netmask?_eq, rfl, fun _ => contains_iff⟩,
    fun _ _ => length_le_of_maskLen_le, fun range other hlength => ?_, ?_⟩
  -- with one address in common, the shorter range has all of the longer one
  · by_cases hcommon : ∃ address, range.contains address ∧ other.contains address
    · obtain ⟨common, hrange, hother⟩ := hcommon
      exact .inr fun _ => contains_of_common hlength hrange hother
    · exact .inl (not_exists.1 hcommon)
  · intro ranges address hall range hrange other hother hlongest hlongest'
    have hlength : range.length = other.length :=
      Nat.le_antisymm (hlongest' range hrange) (hlongest other hother)
    exact contains_eq_of_common hlength (hall range hrange) (hall other hother)

/-- Two ranges of one address, written with different bits after the mask, a mask of more than 32
bits, and a range without a mask. -/
theorem longest_ranges_are_one :
    let outer : Cidr := ⟨⟨0xCB000000⟩, 8⟩
    let given : Cidr := ⟨⟨0xCB007107⟩, 24⟩
    let plain : Cidr := ⟨⟨0xCB007100⟩, 24⟩
    let single : Cidr := ⟨⟨0xCB007107⟩, 33⟩
    let all : Cidr := ⟨⟨0xFFFFFFFF⟩, 0⟩
    single.length = 32 ∧ all.contains ⟨0⟩
      ∧ (∀ address, ¬ (single.contains address ∧ Cidr.contains ⟨⟨0xCB007106⟩, 40⟩ address))
      ∧ (∀ address, single.contains address → outer.contains address)
      ∧ given.contains = plain.contains := by
  intro outer given plain single all
  obtain ⟨hmask, hlonger, hlaminar, hlongest⟩ := ranges_are_laminar
  refine ⟨(hmask single).2.1, (hmask all).2.2 _ |>.2 nofun, ?_, ?_, ?_⟩
  · have hshared := hlaminar single ⟨⟨0xCB007106⟩, 40⟩ (hlonger _ _ (by decide))
    refine hshared.resolve_right fun hall => ?_
    exact absurd (hall ⟨0xCB007106⟩ (by decide)) (by decide)
  · refine (hlaminar outer single (hlonger _ _ (by decide))).resolve_left fun hnone => ?_
    exact hnone ⟨0xCB007107⟩ (by decide)
  · exact hlongest [outer, given, plain] ⟨0xCB007107⟩ (by decide) given (by decide) plain
      (by decide) (by decide) (by decide)

end Laminar

end Cidr

end CidrLookup
