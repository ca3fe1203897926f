import CidrLookup.Record

/-!
# Reading records from a stream

A stream answers each read with some bytes, with none at its end, or with an error. A reader keeps
what it has read and not yet used, so an error or an end of the stream loses nothing, and it looks
at what it keeps before it reads again.
-/

namespace CidrLookup.Record

/-! ## Streams -/

/-- What a stream answers next. No bytes mean the end of the stream, for that one read. -/
inductive Delivery where
  | bytes (chunk : Bytes)
  | failure (error : IoError)
deriving DecidableEq, Repr

/-- A stream to read from: the rest of a delivery that was longer than the read, and the
deliveries to come. After the last one the stream is at its end. -/
structure Source where
  pending : Bytes
  deliveries : List Delivery
deriving DecidableEq, Repr

namespace Source

/-- A stream that has delivered nothing yet. -/
def ofDeliveries (deliveries : List Delivery) : Source :=
  ⟨[], deliveries⟩

/-- One read of at most `size` bytes. -/
def read (size : Nat) : Source → Except IoError Bytes × Source
  | ⟨b :: pending, deliveries⟩ =>
    (.ok ((b :: pending).take size), ⟨(b :: pending).drop size, deliveries⟩)
  | ⟨[], .bytes chunk :: deliveries⟩ => (.ok (chunk.take size), ⟨chunk.drop size, deliveries⟩)
  | ⟨[], .failure e :: deliveries⟩ => (.error e, ⟨[], deliveries⟩)
  | ⟨[], []⟩ => (.ok [], ⟨[], []⟩)

/-- The bytes a delivery holds. -/
def Delivery.size : Delivery → Nat
  | .bytes chunk => chunk.length
  | .failure _ => 0

/-- How much there is to come: bytes and deliveries. -/
def weight (source : Source) : Nat :=
  source.pending.length + source.deliveries.foldr (fun d rest => Delivery.size d + 1 + rest) 0

/-- A read that brings bytes leaves less to come. -/
theorem weight_read_of_bytes {size : Nat} {source next : Source} {chunk : Bytes}
    (h : source.read size = (.ok chunk, next)) (hc : chunk ≠ []) : next.weight < source.weight := by
  obtain ⟨_ | ⟨b, pending⟩, deliveries⟩ := source
  · match deliveries with
    | [] => cases h; contradiction
    | .failure _ :: _ => cases h
    | .bytes chunk :: deliveries =>
      cases h
      simp only [weight, Delivery.size, List.length_drop, List.length_nil, List.foldr_cons]
      omega
  · cases h
    have hsize : size ≠ 0 := by rintro rfl; simp at hc
    simp only [weight, List.length_drop, List.length_cons]
    omega

/-- A read that fails leaves less to come. -/
theorem weight_read_of_error {size : Nat} {source next : Source} {e : IoError}
    (h : source.read size = (.error e, next)) : next.weight < source.weight := by
  obtain ⟨pending, deliveries⟩ := source
  unfold read at h
  split at h <;> simp only [Prod.mk.injEq, Except.error.injEq, reduceCtorEq, false_and] at h
  obtain ⟨rfl, rfl⟩ := h
  simp_all [weight, Delivery.size]

end Source

/-! ## The reader -/

/-- The most bytes that one read asks for. -/
def readSize : Nat := 4096

/-- A reader: the limit on payloads, and the bytes read and not yet used. -/
structure Reader where
  maxPayload : Nat
  buffer : Bytes
deriving DecidableEq, Repr

namespace Reader

/-- A reader that has read nothing. -/
def new (maxPayload : Nat) : Reader :=
  ⟨maxPayload, []⟩

/-- The next record. Reads as often as needed; an interrupted read is made again. -/
def next (reader : Reader) (source : Source) : Except FrameError Bytes × Reader × Source :=
  match decode reader.maxPayload reader.buffer with
  | .error e => (.error e, reader, source)
  | .ok (some (payload, rest)) => (.ok payload, { reader with buffer := rest }, source)
  | .ok none =>
    match h : source.read readSize with
    | (.error e, source') =>
      have := Source.weight_read_of_error h
      if e.isInterrupted then next reader source' else (.error (.io e), reader, source')
    | (.ok [], source') => (.error .connectionClosed, reader, source')
    | (.ok (b :: chunk), source') =>
      have := Source.weight_read_of_bytes h (List.cons_ne_nil b chunk)
      next { reader with buffer := reader.buffer ++ b :: chunk } source'
termination_by source.weight

/-- The outcomes of `count` reads, one after another, with what is left of the stream. -/
def nextMany (reader : Reader) (source : Source) :
    (count : Nat) → List (Except FrameError Bytes) × Reader × Source
  | 0 => ([], reader, source)
  | count + 1 =>
    let (outcome, reader, source) := reader.next source
    let (outcomes, reader, source) := nextMany reader source count
    (outcome :: outcomes, reader, source)

end Reader

end CidrLookup.Record
