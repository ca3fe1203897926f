import CidrLookup.Proofs.Record.Form
import CidrLookup.Record.Buffer

/-!
# Taking records off a buffer

A call on a buffer takes the record at the front, or finds that the bytes start none, or waits.
`Takes` lists these three by what the bytes are, and `take_eq_iff` says that a call comes to one of
them. What is not a wait stays what it is when bytes are added (`Takes.append`), so it does not
matter whether a caller looks before or after more bytes arrive.
-/

namespace CidrLookup.Record.Buffer

section Take

variable {maxPayload : Nat} {buffer left : Bytes} {outcome : Except FrameError (Option Bytes)}

/-- What one call makes of a buffer. -/
inductive Takes (maxPayload : Nat) :
    Bytes → Except FrameError (Option Bytes) → Bytes → Prop where
  | record {payload : Bytes} (hfits : Fits maxPayload payload) (rest : Bytes) :
      Takes maxPayload (form payload ++ rest) (.ok (some payload)) rest
  | wait {buffer : Bytes} (h : Unfinished maxPayload buffer) :
      Takes maxPayload buffer (.ok none) buffer
  | fault {buffer : Bytes} {e : FrameError} (h : Malformed maxPayload e buffer) :
      Takes maxPayload buffer (.error e) buffer

/-- A call ends in one of the three ways. -/
theorem take_takes (maxPayload : Nat) (buffer : Bytes) :
    Takes maxPayload buffer (take maxPayload buffer).1 (take maxPayload buffer).2 := by
  unfold take
  rcases hdecode : decode maxPayload buffer with e | _ | ⟨payload, rest⟩
  · exact .fault (decode_eq_error_iff.1 hdecode)
  · exact .wait (decode_eq_none_iff.1 hdecode)
  · obtain ⟨rfl, hfits⟩ := decode_eq_record_iff.1 hdecode
    exact .record hfits rest

/-- Each way to end is that of the call. -/
theorem Takes.take_eq (h : Takes maxPayload buffer outcome left) :
    take maxPayload buffer = (outcome, left) := by
  unfold take
  cases h with
  | record hfits rest => rw [decode_eq_record_iff.2 ⟨rfl, hfits⟩]; rfl
  | wait h => rw [decode_eq_none_iff.2 h]; rfl
  | fault h => rw [decode_eq_error_iff.2 h]; rfl

/-- How a call ends is known from the bytes in the buffer. -/
theorem take_eq_iff :
    take maxPayload buffer = (outcome, left) ↔ Takes maxPayload buffer outcome left := by
  constructor
  · intro h
    have htakes := take_takes maxPayload buffer
    rwa [h] at htakes
  · exact Takes.take_eq

/-- Unless the call waits, bytes added to the buffer only stay behind in it. -/
theorem Takes.append (h : Takes maxPayload buffer outcome left) (hwait : outcome ≠ .ok none)
    (more : Bytes) : Takes maxPayload (buffer ++ more) outcome (left ++ more) := by
  cases h with
  | record hfits =>
    rw [List.append_assoc]
    exact .record hfits (left ++ more)
  | wait => contradiction
  | fault h => exact .fault (h.append more)

/-- Without a record the buffer is as it was. -/
theorem Takes.left_eq (h : Takes maxPayload buffer outcome left)
    (hnone : ∀ payload, outcome ≠ .ok (some payload)) : left = buffer := by
  cases h with
  | record => exact absurd rfl (hnone _)
  | wait => rfl
  | fault => rfl

/-- The record taken is the encoding of its payload, at the front. -/
theorem takes_record_iff {payload rest : Bytes} :
    Takes maxPayload buffer (.ok (some payload)) rest
      ↔ ∃ record, encode payload = .ok record ∧ payload.length ≤ maxPayload
        ∧ buffer = record ++ rest := by
  constructor
  · rintro ⟨hfits⟩
    exact ⟨form payload, encode_eq_ok hfits.hword, hfits.hlimit, rfl⟩
  · rintro ⟨record, hencode, hlimit, rfl⟩
    obtain ⟨hfits, rfl⟩ := encode_within_iff.1 ⟨hencode, hlimit⟩
    exact .record hfits rest

/-- What a call returns, without what it leaves. -/
theorem fst_take_eq_iff :
    (take maxPayload buffer).1 = outcome ↔ ∃ left, Takes maxPayload buffer outcome left := by
  constructor
  · rintro rfl
    exact ⟨_, take_takes maxPayload buffer⟩
  · rintro ⟨left, h⟩
    rw [h.take_eq]

/-- A call waits for more if and only if the bytes are unfinished. -/
theorem fst_take_eq_none_iff :
    (take maxPayload buffer).1 = .ok none ↔ Unfinished maxPayload buffer := by
  rw [fst_take_eq_iff]
  constructor
  · rintro ⟨left, htakes⟩
    cases htakes with
    | wait h => exact h
  · intro h
    exact ⟨buffer, .wait h⟩

/-- A call fails if and only if the bytes are malformed. -/
theorem fst_take_eq_error_iff {e : FrameError} :
    (take maxPayload buffer).1 = .error e ↔ Malformed maxPayload e buffer := by
  rw [fst_take_eq_iff]
  constructor
  · rintro ⟨left, htakes⟩
    cases htakes with
    | fault h => exact h
  · intro h
    exact ⟨buffer, .fault h⟩

end Take

/-! ## Many calls -/

section Many

variable {maxPayload : Nat}

/-- An empty buffer makes every call wait. -/
theorem takeMany_nil (maxPayload count : Nat) :
    takeMany maxPayload [] count = (List.replicate count (.ok none), []) := by
  have htake : take maxPayload [] = (.ok none, []) := rfl
  induction count with
  | zero => rfl
  | succ count ih =>
    simp only [takeMany, htake, ih]
    rfl

/-- As many calls as there are records take them all, in order, and further calls wait. -/
theorem takeMany_flatMap_form {payloads : List Bytes}
    (h : ∀ payload ∈ payloads, Fits maxPayload payload) (count : Nat) :
    takeMany maxPayload (payloads.flatMap form) (payloads.length + count)
      = (payloads.map (.ok ∘ some) ++ List.replicate count (.ok none), []) := by
  -- record by record, and the calls that are left wait on an empty buffer
  induction payloads with
  | nil =>
    rw [List.length_nil, Nat.zero_add]
    exact takeMany_nil maxPayload count
  | cons payload payloads ih =>
    obtain ⟨hpayload, hpayloads⟩ := List.forall_mem_cons.1 h
    have htake := (Takes.record hpayload (payloads.flatMap form)).take_eq
    rw [List.flatMap_cons, List.length_cons, Nat.add_right_comm, takeMany, htake]
    simp only [ih hpayloads, List.map_cons, Function.comp_apply, List.cons_append]

/-- **Taking records.** A call takes a record exactly if its encoding stands at the front and is
within the limit, waits exactly if the bytes are the start of such a record, and fails exactly if
their header starts none. It changes the buffer only to take a record, and does the same whatever
bytes follow, unless it waits. So a buffer of records gives them all, and is empty then. -/
theorem buffers_give_their_records (maxPayload : Nat) (buffer : Bytes) :
    (∀ payload rest, take maxPayload buffer = (.ok (some payload), rest)
        ↔ ∃ record, encode payload = .ok record ∧ payload.length ≤ maxPayload
          ∧ buffer = record ++ rest)
      ∧ ((take maxPayload buffer).1 = .ok none ↔ Unfinished maxPayload buffer)
      ∧ (∀ e, (take maxPayload buffer).1 = .error e ↔ Malformed maxPayload e buffer)
      ∧ ((∀ payload, (take maxPayload buffer).1 ≠ .ok (some payload)) →
          (take maxPayload buffer).2 = buffer)
      ∧ (∀ outcome left more, take maxPayload buffer = (outcome, left) → outcome ≠ .ok none →
          take maxPayload (buffer ++ more) = (outcome, left ++ more))
      ∧ ∀ payloads records count, List.Forall₂ (fun payload record =>
            encode payload = .ok record ∧ payload.length ≤ maxPayload) payloads records →
          takeMany maxPayload records.flatten (payloads.length + count)
            = (payloads.map (.ok ∘ some) ++ List.replicate count (.ok none), []) := by
  refine ⟨fun payload rest => take_eq_iff.trans takes_record_iff, fst_take_eq_none_iff,
    fun e => fst_take_eq_error_iff, (take_takes maxPayload buffer).left_eq, ?_, ?_⟩
  · intro outcome left more htake hwait
    exact ((take_eq_iff.1 htake).append hwait more).take_eq
  · intro payloads records count h
    obtain ⟨hfits, rfl⟩ := encoded_within_iff.1 h
    exact takeMany_flatMap_form hfits count

/-- A payload that is itself the magic is taken like any other. -/
theorem magic_is_taken_as_payload :
    let buffer := [0x4C, 0x51, 0, 0, 0, 2, 0x4C, 0x51]
    take 2 buffer = (.ok (some magic), [])
      ∧ take 2 (buffer ++ [0x4C]) = (.ok (some magic), [0x4C])
      ∧ takeMany 2 [buffer, buffer].flatten 3
        = ([.ok (some magic), .ok (some magic), .ok none], []) := by
  intro buffer
  have hencode : encode magic = .ok buffer := by decide
  obtain ⟨hrecord, -, -, -, hmore, hmany⟩ := buffers_give_their_records 2 buffer
  have htake : take 2 buffer = (.ok (some magic), []) :=
    (hrecord magic []).2 ⟨buffer, hencode, by decide, rfl⟩
  refine ⟨htake, hmore _ _ [0x4C] htake nofun, ?_⟩
  refine hmany [magic, magic] [buffer, buffer] 1 ?_
  exact .cons ⟨hencode, by decide⟩ (.cons ⟨hencode, by decide⟩ .nil)

end Many

end CidrLookup.Record.Buffer
