import CidrLookup.Record
import Mathlib.Data.List.Forall2
import Mathlib.Tactic.SplitIfs

/-!
# Records at the front of some bytes

What decoding makes of the front of some bytes: a record, a header that starts none, or too few
bytes to tell. All three are stated without the decoder, by `form`, `Malformed` and `Unfinished`,
and bytes that follow do not change the first two. `payloads` takes off records as long as there is
one; it is what a stream says, however it arrives.
-/

namespace CidrLookup.Record

/-! ## Written records -/

/-- The record of a payload, byte by byte. -/
def form (payload : Bytes) : Bytes :=
  magic ++ Bytes.ofWord (.ofNat payload.length) ++ payload

/-- A payload that a record within the limit can carry. -/
structure Fits (maxPayload : Nat) (payload : Bytes) : Prop where
  hlimit : payload.length ≤ maxPayload
  hword : payload.length ≤ Numeral.maxWord

/-- A payload is encoded if a word can hold its size, and in its form. -/
theorem encode_eq_ok_iff {payload record : Bytes} :
    encode payload = .ok record ↔ payload.length ≤ Numeral.maxWord ∧ record = form payload := by
  unfold encode
  split_ifs with h
  · simp [Nat.not_le.2 h]
  · simp [Nat.not_lt.1 h, form, eq_comm]

/-- A payload whose size a word can hold is encoded in its form. -/
theorem encode_eq_ok {payload : Bytes} (h : payload.length ≤ Numeral.maxWord) :
    encode payload = .ok (form payload) :=
  encode_eq_ok_iff.2 ⟨h, rfl⟩

/-- The payloads that fit are encoded, each as it is written. -/
theorem encodeWithin_eq_ok_iff {maxPayload : Nat} {payload record : Bytes} :
    encodeWithin maxPayload payload = .ok record
      ↔ Fits maxPayload payload ∧ record = form payload := by
  unfold encodeWithin
  split_ifs with h
  · constructor
    · intro h
      contradiction
    · rintro ⟨⟨hlimit, -⟩, -⟩
      omega
  · rw [encode_eq_ok_iff]
    constructor
    · rintro ⟨hword, rfl⟩
      exact ⟨⟨Nat.not_lt.1 h, hword⟩, rfl⟩
    · rintro ⟨⟨-, hword⟩, rfl⟩
      exact ⟨hword, rfl⟩

/-- To be encoded and to be within a limit is to fit. -/
theorem encode_within_iff {maxPayload : Nat} {payload record : Bytes} :
    encode payload = .ok record ∧ payload.length ≤ maxPayload
      ↔ Fits maxPayload payload ∧ form payload = record := by
  rw [encode_eq_ok_iff]
  constructor
  · rintro ⟨⟨hword, rfl⟩, hlimit⟩
    exact ⟨⟨hlimit, hword⟩, rfl⟩
  · rintro ⟨⟨hlimit, hword⟩, rfl⟩
    exact ⟨⟨hword, rfl⟩, hlimit⟩

/-- Encodings within the limit are the records of payloads that fit. -/
theorem encoded_within_iff {maxPayload : Nat} {payloads records : List Bytes} :
    List.Forall₂ (fun payload record => encode payload = .ok record ∧ payload.length ≤ maxPayload)
        payloads records
      ↔ (∀ payload ∈ payloads, Fits maxPayload payload) ∧ payloads.map form = records := by
  have hforms : List.Forall₂ (fun payload record => form payload = record) payloads records
      ↔ payloads.map form = records := by
    rw [← List.forall₂_map_left_iff, List.forall₂_eq_eq_eq]
  simp only [encode_within_iff, List.forall₂_and_left, hforms]

/-- A record is longer than its payload by the header. -/
theorem length_form (payload : Bytes) : (form payload).length = wireSize payload := by
  simp [form, magic, wireSize, headerSize]
  omega

/-- The header of a record holds the length of its payload. -/
theorem form_eq_header {payload : Bytes} (h : payload.length ≤ Numeral.maxWord) :
    ∃ a b c d, form payload = magic ++ a :: b :: c :: d :: payload
      ∧ (Bytes.word a b c d).toNat = payload.length := by
  refine ⟨_, _, _, _, rfl, ?_⟩
  rw [Bytes.word_ofWord, UInt32.toNat_ofNat']
  unfold Numeral.maxWord at h
  omega

/-! ## Headers -/

/-- A whole header that starts no record within the limit, with what is wrong with it. The magic is
looked at first. -/
inductive Malformed (maxPayload : Nat) : FrameError → Bytes → Prop where
  | magic {m n a b c d : UInt8} {body : Bytes} (hmagic : [m, n] ≠ magic) :
      Malformed maxPayload .invalidMagic (m :: n :: a :: b :: c :: d :: body)
  | size {a b c d : UInt8} {body : Bytes} (hsize : maxPayload < (Bytes.word a b c d).toNat) :
      Malformed maxPayload (.payloadTooLarge (Bytes.word a b c d).toNat maxPayload)
        (magic ++ a :: b :: c :: d :: body)

/-- Malformed bytes are so whatever comes after. -/
theorem Malformed.append {maxPayload : Nat} {e : FrameError} {bytes : Bytes}
    (h : Malformed maxPayload e bytes) (more : Bytes) : Malformed maxPayload e (bytes ++ more) := by
  cases h with
  | magic hmagic => exact .magic hmagic
  | size hsize => exact .size hsize

/-- The start of a record within the limit whose end is missing: not even a header, or a header and
fewer bytes than it announces. -/
inductive Unfinished (maxPayload : Nat) : Bytes → Prop where
  | header {bytes : Bytes} (hbytes : bytes.length < headerSize) : Unfinished maxPayload bytes
  | payload {a b c d : UInt8} {body : Bytes} (hlimit : (Bytes.word a b c d).toNat ≤ maxPayload)
      (hbody : body.length < (Bytes.word a b c d).toNat) :
      Unfinished maxPayload (magic ++ a :: b :: c :: d :: body)

/-! ## Decoding -/

section Decoding

variable {maxPayload : Nat} {bytes payload rest : Bytes} {e : FrameError}

/-- The decoder refuses the bytes that are malformed, and no others. -/
theorem decode_eq_error_iff :
    decode maxPayload bytes = .error e ↔ Malformed maxPayload e bytes := by
  constructor
  · intro h
    unfold decode at h
    split at h
    · dsimp only at h
      split_ifs at h with hmagic hsize hbody
      · cases h
        exact .magic hmagic
      · cases h
        obtain ⟨rfl, rfl⟩ : _ ∧ _ := by simpa [magic] using hmagic
        exact .size hsize
    · contradiction
  · rintro (hmagic | hsize)
    · simp [decode, hmagic]
    · simp [decode, magic, hsize]

/-- Bytes that are no whole header and something after it are fewer than a header has. -/
theorem length_lt_headerSize
    (h : ∀ m n a b c d body, bytes = m :: n :: a :: b :: c :: d :: body → False) :
    bytes.length < headerSize := by
  apply Nat.lt_of_not_le
  intro hlong
  match bytes, hlong with
  | m :: n :: a :: b :: c :: d :: body, _ => exact h m n a b c d body rfl

/-- The decoder waits for more on the bytes that are unfinished, and on no others. -/
theorem decode_eq_none_iff : decode maxPayload bytes = .ok none ↔ Unfinished maxPayload bytes := by
  constructor
  · intro h
    unfold decode at h
    split at h
    · dsimp only at h
      split_ifs at h with hmagic hsize hbody
      · obtain ⟨rfl, rfl⟩ : _ ∧ _ := by simpa [magic] using hmagic
        exact .payload (Nat.not_lt.1 hsize) hbody
      · simp at h
    · exact .header (length_lt_headerSize ‹_›)
  · rintro (hbytes | ⟨hlimit, hbody⟩)
    · unfold decode
      split
      · simp only [headerSize, List.length_cons] at hbytes
        omega
      · rfl
    · simp [decode, magic, hlimit, hbody]

/-- A header with its length, and at least so many bytes after it, is the record of these bytes. -/
theorem form_take {a b c d : UInt8} {body : Bytes} {size : Nat}
    (hword : (Bytes.word a b c d).toNat = size) (hbody : size ≤ body.length)
    (hlimit : size ≤ maxPayload) :
    magic ++ a :: b :: c :: d :: body = form (body.take size) ++ body.drop size
      ∧ Fits maxPayload (body.take size) := by
  have hlength : (body.take size).length = size := by
    rw [List.length_take]
    omega
  -- the size that was read is written in the same four bytes
  have hheader : Bytes.ofWord (.ofNat size) = [a, b, c, d] := by
    rw [← hword, UInt32.ofNat_toNat, Bytes.ofWord_word]
  have hlt := (Bytes.word a b c d).toNat_lt
  refine ⟨?_, ?_, ?_⟩
  · rw [form, hlength, hheader]
    simp
  · omega
  · unfold Numeral.maxWord
    omega

/-- A record is taken off exactly where its written form stands at the front. -/
theorem decode_eq_record_iff :
    decode maxPayload bytes = .ok (some (payload, rest))
      ↔ bytes = form payload ++ rest ∧ Fits maxPayload payload := by
  -- the magic, the size and the body, in the order of the decoder
  constructor
  · intro h
    unfold decode at h
    split at h
    · rename_i m n a b c d body
      dsimp only at h
      split_ifs at h with hmagic hsize hbody
      · simp at h
      · obtain ⟨rfl, rfl⟩ : _ = payload ∧ _ = rest := by simpa using h
        obtain ⟨rfl, rfl⟩ : m = 0x4C ∧ n = 0x51 := by simpa [magic] using hmagic
        exact form_take rfl (Nat.not_lt.1 hbody) (Nat.not_lt.1 hsize)
    · simp at h
  -- a written record has a header, and the size in it is that of the payload
  · rintro ⟨rfl, hlimit, hword⟩
    obtain ⟨a, b, c, d, hform, hsize⟩ := form_eq_header hword
    have hbody : ¬ (payload ++ rest).length < payload.length := by
      rw [List.length_append]
      omega
    simp only [hform, magic, List.cons_append, List.nil_append, decode, hsize]
    rw [if_neg (by simp), if_neg (Nat.not_lt.2 hlimit), if_neg hbody]
    simp

end Decoding

/-! ## All records -/

/-- The payloads of the records at the front, one after another, as far as there are any. -/
def payloads (maxPayload : Nat) (bytes : Bytes) : List Bytes :=
  match h : decode maxPayload bytes with
  | .ok (some (payload, rest)) =>
    have : rest.length < bytes.length := by
      have hlength := congrArg List.length (decode_eq_record_iff.1 h).1
      rw [List.length_append, length_form, wireSize, headerSize] at hlength
      omega
    payload :: payloads maxPayload rest
  | _ => []
termination_by bytes.length

section Payloads

variable {maxPayload : Nat} {bytes payload : Bytes}

/-- The first record, and then those of the rest. -/
theorem payloads_of_record {rest : Bytes}
    (h : decode maxPayload bytes = .ok (some (payload, rest))) :
    payloads maxPayload bytes = payload :: payloads maxPayload rest := by
  rw [payloads]
  split
  · rename_i heq
    cases h.symm.trans heq
    rfl
  · rename_i hnone
    exact absurd h (hnone _ _)

/-- A written record is the first of the bytes that begin with it. -/
theorem payloads_form_append (h : Fits maxPayload payload) (rest : Bytes) :
    payloads maxPayload (form payload ++ rest) = payload :: payloads maxPayload rest :=
  payloads_of_record (decode_eq_record_iff.2 ⟨rfl, h⟩)

/-- Malformed bytes have no records. -/
theorem payloads_of_malformed {e : FrameError} (h : Malformed maxPayload e bytes) :
    payloads maxPayload bytes = [] := by
  have hdecode := decode_eq_error_iff.2 h
  rw [payloads]
  split
  · rename_i heq
    cases hdecode.symm.trans heq
  · rfl

/-- Unfinished bytes have no records. -/
theorem payloads_of_decode_none (h : decode maxPayload bytes = .ok none) :
    payloads maxPayload bytes = [] := by
  rw [payloads]
  split
  · rename_i heq
    cases h.symm.trans heq
  · rfl

/-- Taking off several records leaves those of the rest. -/
theorem payloads_flatMap_form_append {records : List Bytes}
    (h : ∀ payload ∈ records, Fits maxPayload payload) (rest : Bytes) :
    payloads maxPayload (records.flatMap form ++ rest) = records ++ payloads maxPayload rest := by
  induction records with
  | nil => rfl
  | cons payload records ih =>
    obtain ⟨hpayload, hrecords⟩ := List.forall_mem_cons.1 h
    rw [List.flatMap_cons, List.append_assoc, payloads_form_append hpayload, ih hrecords]
    rfl

end Payloads

end CidrLookup.Record
