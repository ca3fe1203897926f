import CidrLookup.Message.Encode
import CidrLookup.Proofs.Wire
import Mathlib.Tactic.ByContra

/-!
# The written form of a message

`form` is what a message is written as, whatever it holds. Writing adds `form` to what a buffer
holds if the message is `Encodable`, and fails otherwise: a text in it holds a NUL, or it is a
request with too many metadata pairs. `encode_request_eq_error` and `encode_identify` tell the
errors of the two messages that a client sends.
-/

namespace CidrLookup.Message

open Wire (Writes Fails textForm)

/-! ## Forms -/

/-- The metadata of a request. -/
def metadata : Message → Metadata
  | request _ metadata => metadata
  | _ => []

/-- The texts of metadata pairs, in order. -/
def pairTexts (pairs : Metadata) : List String :=
  pairs.flatMap fun (key, value) => [key, value]

/-- The texts in a message, in order. -/
def texts : Message → List String
  | established info => [info.banner]
  | identify token => [token]
  | request _ metadata => pairTexts metadata
  | found .. => []
  | notFound _ => []
  | failure _ text => [text]

/-- Metadata pairs as they are written. -/
def pairsForm (pairs : Metadata) : Bytes :=
  (pairTexts pairs).flatMap textForm

/-- The fields of a message as they are written. -/
def fieldsForm : Message → Bytes
  | established info =>
    Bytes.ofWord info.rateLimit ++ (Bytes.ofWord info.treeSize ++ (Bytes.ofWord info.cacheTtl ++
      (Bytes.ofWord info.peerTtl ++ textForm info.banner)))
  | identify token => textForm token
  | request address metadata =>
    Bytes.ofWord address.bits ++ ([UInt8.ofNat metadata.length] ++ pairsForm metadata)
  | found address range =>
    Bytes.ofWord address.bits ++ (Bytes.ofWord range.network.bits ++ Bytes.ofWord range.maskLen)
  | notFound address => Bytes.ofWord address.bits
  | failure code text => [code] ++ textForm text

/-- A message as it is written. -/
def form (message : Message) : Bytes :=
  header message.kind ++ fieldsForm message

theorem pairsForm_cons (key value : String) (more : Metadata) :
    pairsForm ((key, value) :: more) = textForm key ++ (textForm value ++ pairsForm more) := by
  simp [pairsForm, pairTexts]

/-- A message that has a written form: no text in it holds a NUL, and one byte counts its metadata
pairs. -/
structure Encodable (message : Message) : Prop where
  hnul : ∀ text ∈ message.texts, 0 ∉ Bytes.ofText text
  hpairs : message.metadata.length ≤ maxMetadata

/-! ## Writing -/

/-- Pairs without a zero are written as they are. -/
theorem writes_pairs {pairs : Metadata} (h : ∀ text ∈ pairTexts pairs, 0 ∉ Bytes.ofText text) :
    Writes (writePairs pairs) (pairsForm pairs) := by
  induction pairs with
  | nil => exact Wire.writes_pure
  | cons pair more ih =>
    obtain ⟨key, value⟩ := pair
    have hkey : 0 ∉ Bytes.ofText key := h key (by simp [pairTexts])
    have hvalue : 0 ∉ Bytes.ofText value := h value (by simp [pairTexts])
    have hmore : ∀ text ∈ pairTexts more, 0 ∉ Bytes.ofText text := by
      intro text htext
      exact h text (List.mem_append_right [key, value] htext)
    rw [pairsForm_cons]
    exact (Wire.writes_writeText hkey).seq ((Wire.writes_writeText hvalue).seq (ih hmore))

/-- A zero in one of the texts is found, whatever stands before it. -/
theorem fails_pairs {pairs : Metadata} {text : String} (htext : text ∈ pairTexts pairs)
    (hnul : 0 ∈ Bytes.ofText text) : Fails (writePairs pairs) := by
  -- the writer stops at the first text with a zero, which may stand before the given one
  induction pairs with
  | nil => contradiction
  | cons pair more ih =>
    obtain ⟨key, value⟩ := pair
    by_cases hkey : 0 ∈ Bytes.ofText key
    · exact (Wire.fails_writeText hkey).seq_left _
    refine Fails.seq_right (Wire.writes_writeText hkey) ?_
    by_cases hvalue : 0 ∈ Bytes.ofText value
    · exact (Wire.fails_writeText hvalue).seq_left _
    refine Fails.seq_right (Wire.writes_writeText hvalue) (ih ?_)
    have hcases : text = key ∨ text = value ∨ text ∈ pairTexts more := by
      simpa [pairTexts] using htext
    rcases hcases with rfl | rfl | hmore
    · contradiction
    · contradiction
    · exact hmore

/-- The fields of a message that can be written are written. -/
theorem writes_fields {message : Message} (h : message.Encodable) :
    Writes (writeFields message) (fieldsForm message) := by
  obtain ⟨hnul, hpairs⟩ := h
  cases message with
  | established info =>
    have hbanner : 0 ∉ Bytes.ofText info.banner := hnul info.banner (by simp [texts])
    exact (Wire.writes_write _).seq ((Wire.writes_write _).seq ((Wire.writes_write _).seq
      ((Wire.writes_write _).seq (Wire.writes_writeText hbanner))))
  | identify token => exact Wire.writes_writeText (hnul token (by simp [texts]))
  | request address metadata =>
    have hle : ¬ metadata.length > maxMetadata := Nat.not_lt.2 hpairs
    rw [writeFields, if_neg hle]
    exact (Wire.writes_write _).seq ((Wire.writes_write _).seq (writes_pairs hnul))
  | found address range =>
    exact (Wire.writes_write _).seq ((Wire.writes_write _).seq (Wire.writes_write _))
  | notFound address => exact Wire.writes_write _
  | failure code text =>
    exact (Wire.writes_write _).seq (Wire.writes_writeText (hnul text (by simp [texts])))

/-- The fields of a message that cannot be written are not. -/
theorem fails_fields {message : Message} (h : ¬ message.Encodable) :
    Fails (writeFields message) := by
  have hnul_or : (∃ text ∈ message.texts, 0 ∈ Bytes.ofText text)
      ∨ message.metadata.length > maxMetadata := by
    by_contra hnone
    rw [not_or] at hnone
    refine h ⟨fun text htext hnul => hnone.1 ⟨text, htext, hnul⟩, Nat.not_lt.1 hnone.2⟩
  -- only texts and the number of pairs can fail; the fields before them are written
  cases message with
  | established info =>
    have hbanner : 0 ∈ Bytes.ofText info.banner := by
      simpa [texts, metadata, maxMetadata] using hnul_or
    exact Fails.seq_right (Wire.writes_write _) (Fails.seq_right (Wire.writes_write _)
      (Fails.seq_right (Wire.writes_write _) (Fails.seq_right (Wire.writes_write _)
        (Wire.fails_writeText hbanner))))
  | identify token =>
    have htoken : 0 ∈ Bytes.ofText token := by
      simpa [texts, metadata, maxMetadata] using hnul_or
    exact Wire.fails_writeText htoken
  | request address metadata =>
    rw [writeFields]
    split
    · exact Wire.fails_throw _
    · rcases hnul_or with ⟨text, htext, hnul⟩ | hpairs
      · exact Fails.seq_right (Wire.writes_write _) (Fails.seq_right (Wire.writes_write _)
          (fails_pairs htext hnul))
      · contradiction
  | found address range => simp [texts, metadata, maxMetadata] at hnul_or
  | notFound address => simp [texts, metadata, maxMetadata] at hnul_or
  | failure code text =>
    have htext : 0 ∈ Bytes.ofText text := by
      simpa [texts, metadata, maxMetadata] using hnul_or
    exact Fails.seq_right (Wire.writes_write _) (Wire.fails_writeText htext)

/-- A message that can be written is written in its form. -/
theorem writes_form {message : Message} (h : message.Encodable) :
    Writes message.write message.form :=
  (Wire.writes_write _).seq (writes_fields h)

theorem fails_write {message : Message} (h : ¬ message.Encodable) : Fails message.write :=
  Fails.seq_right (Wire.writes_write _) (fails_fields h)

/-- **Encoding.** The encodable messages are encoded, each as it is written. -/
theorem encode_eq_ok_iff {message : Message} {bytes : Bytes} :
    message.encode = .ok bytes ↔ message.Encodable ∧ bytes = message.form := by
  unfold encode
  by_cases h : message.Encodable
  · rw [writes_form h [], List.nil_append]
    simp [h, eq_comm]
  · obtain ⟨e, part, hfail⟩ := fails_write h []
    rw [hfail]
    simp [h]

/-- A message is added to a buffer as it is encoded. -/
theorem write_eq_ok_iff {message : Message} {dst out : Bytes} :
    message.write.run.run dst = (.ok (), out)
      ↔ ∃ bytes, message.encode = .ok bytes ∧ out = dst ++ bytes := by
  constructor
  · intro hwrite
    by_cases h : message.Encodable
    · rw [writes_form h dst] at hwrite
      cases hwrite
      exact ⟨message.form, encode_eq_ok_iff.2 ⟨h, rfl⟩, rfl⟩
    · obtain ⟨e, part, hfail⟩ := fails_write h dst
      rw [hfail] at hwrite
      cases hwrite
  · rintro ⟨bytes, hencode, rfl⟩
    obtain ⟨h, rfl⟩ := encode_eq_ok_iff.1 hencode
    exact writes_form h dst

/-! ## Messages without a written form -/

open Wire (RaisesOnly)

/-- An error of the encoder is one of its fields. -/
theorem fault_of_encode (fault : ProtocolError → Prop) {message : Message} {e : ProtocolError}
    (hfields : RaisesOnly fault (writeFields message)) (h : message.encode = .error e) :
    fault e := by
  have hwrite : RaisesOnly fault message.write := (Wire.raisesOnly_write _).seq hfields
  unfold encode at h
  rcases hrun : message.write.run.run [] with ⟨e' | ⟨⟨⟩⟩, part⟩
  · rw [hrun] at h
    cases h
    exact hwrite [] e part hrun
  · rw [hrun] at h
    cases h

/-- A message that the encoder refuses cannot be written. -/
theorem not_encodable_of_encode {message : Message} {e : ProtocolError}
    (h : message.encode = .error e) : ¬ message.Encodable := by
  intro hencodable
  rw [encode_eq_ok_iff.2 ⟨hencodable, rfl⟩] at h
  cases h

/-- Pairs are refused for a zero in a key or in a value. -/
theorem raisesOnly_pairs {fault : ProtocolError → Prop} (hkey : fault (.interiorNul "meta key"))
    (hvalue : fault (.interiorNul "meta value")) (pairs : Metadata) :
    RaisesOnly fault (writePairs pairs) := by
  induction pairs with
  | nil => exact Wire.raisesOnly_pure
  | cons pair more ih =>
    obtain ⟨key, value⟩ := pair
    exact (Wire.raisesOnly_writeText hkey key).seq ((Wire.raisesOnly_writeText hvalue value).seq ih)

/-- A request has no written form for one of two reasons: it has too many metadata pairs, or one of
the texts in them holds a NUL. -/
theorem encode_request_eq_error {address : Address} {pairs : Metadata} {e : ProtocolError}
    (h : (request address pairs).encode = .error e) :
    maxMetadata < pairs.length ∧ e = .tooManyPairs pairs.length
      ∨ pairs.length ≤ maxMetadata ∧ (∃ text ∈ pairTexts pairs, '\x00' ∈ text.toList)
        ∧ ∃ field, e = .interiorNul field := by
  -- the number of the pairs is looked at before any text
  by_cases hpairs : maxMetadata < pairs.length
  · refine .inl ⟨hpairs, fault_of_encode (· = .tooManyPairs pairs.length) ?_ h⟩
    rw [writeFields, if_pos hpairs]
    exact Wire.raisesOnly_throw rfl
  · have hfits := Nat.not_lt.1 hpairs
    refine .inr ⟨hfits, ?_, fault_of_encode (fun e => ∃ field, e = .interiorNul field) ?_ h⟩
    · by_contra hnone
      refine not_encodable_of_encode h ⟨fun text htext hnul => hnone ⟨text, htext, ?_⟩, hfits⟩
      exact (Bytes.zero_mem_ofText_iff text).1 hnul
    · rw [writeFields, if_neg hpairs]
      exact (Wire.raisesOnly_write _).seq ((Wire.raisesOnly_write _).seq
        (raisesOnly_pairs ⟨_, rfl⟩ ⟨_, rfl⟩ pairs))

/-- A token can be written if it has no NUL. -/
theorem encodable_identify_iff {token : String} :
    (identify token).Encodable ↔ '\x00' ∉ token.toList := by
  rw [← Bytes.zero_mem_ofText_iff]
  constructor
  · rintro ⟨hnul, -⟩
    exact hnul token (by simp [texts])
  · intro hnul
    exact ⟨by simpa [texts] using hnul, by simp [metadata]⟩

/-- The name of a client has a written form unless there is a NUL in it. -/
theorem encode_identify (token : String) : (identify token).encode
    = if '\x00' ∈ token.toList then .error (.interiorNul "id") else .ok (identify token).form := by
  cases hencode : (identify token).encode with
  | error e =>
    have hfault : RaisesOnly (· = .interiorNul "id") (writeFields (identify token)) :=
      Wire.raisesOnly_writeText (by rfl) token
    have hnul := not_encodable_of_encode hencode
    rw [encodable_identify_iff, not_not] at hnul
    rw [if_pos hnul, fault_of_encode _ hfault hencode]
  | ok bytes =>
    obtain ⟨hencodable, rfl⟩ := encode_eq_ok_iff.1 hencode
    rw [if_neg (encodable_identify_iff.1 hencodable)]

/-- The frame that names the client is longer than the token by the header and the terminator. -/
theorem length_form_identify (token : String) :
    (identify token).form.length = (header .identify).length + token.utf8ByteSize + 1 := by
  simp [form, fieldsForm, Wire.textForm, kind, Nat.add_assoc]

end CidrLookup.Message
