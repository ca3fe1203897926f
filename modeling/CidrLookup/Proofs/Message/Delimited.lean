import CidrLookup.Proofs.Message.Decode
import Mathlib.Data.List.TakeWhile

/-!
# Messages tell where they end

A message has no length in front of it, and the record that carries it is not needed to find its
end. `CutShort` says of a reader that it notices whenever a part of what it reads is missing at the
end; it is closed under sequencing, so it goes from the fields to the whole message along its
written form. What follows a message is not read at all, so it is reported by its length, whatever
it looks like.
-/

namespace CidrLookup

/-- Whether an error says that the input ended too early. -/
def ProtocolError.isCutShort : ProtocolError → Bool
  | truncated .. | unterminatedText .. => true
  | _ => false

/-- A message that is cut short is no reason to give up. -/
theorem ProtocolError.not_isFatal_of_isCutShort {e : ProtocolError} (h : e.isCutShort) :
    ¬ e.isFatal := by
  cases e <;> simp_all [isCutShort, isFatal]

namespace Wire

variable {α β : Type}

/-- A reader that notices when the given bytes are not all there. -/
def CutShort (p : Parser α) (used : Bytes) : Prop :=
  ∀ front, front <+: used → front ≠ used → ∃ e, p front = .error e ∧ e.isCutShort

/-! ## Sequences -/

theorem cutShort_nil (p : Parser α) : CutShort p [] :=
  fun _ hfront hne => absurd (List.prefix_nil.1 hfront) hne

/-- What is missing in the first step is not made good by a later one. -/
theorem CutShort.before {p : Parser α} {used : Bytes} (h : CutShort p used) (q : α → Parser β) :
    CutShort (p >>= q) used := by
  intro front hfront hne
  obtain ⟨e, hread, hcut⟩ := h front hfront hne
  exact ⟨e, bind_eq_error_iff.2 (.inl hread), hcut⟩

/-- Two fields in a row are cut short in the first of them or in the second. -/
theorem CutShort.bind {p : Parser α} {q : α → Parser β} {a : α} {used used' : Bytes}
    (hp : CutShort p used) (hreads : ∀ more, p (used ++ more) = .ok (a, more))
    (hq : CutShort (q a) used') : CutShort (p >>= q) (used ++ used') := by
  intro front hfront hne
  by_cases hwhole : used <+: front
  · -- the first step has all it reads, so the second one misses something
    obtain ⟨part, rfl⟩ := hwhole
    have hpart : part <+: used' := (List.prefix_append_right_inj used).1 hfront
    obtain ⟨e, hread, hcut⟩ := hq part hpart fun heq => hne (congrArg (used ++ ·) heq)
    exact ⟨e, bind_eq_error_iff.2 (.inr ⟨a, part, hreads part, hread⟩), hcut⟩
  · have hbefore : front <+: used :=
      (List.prefix_or_prefix_of_prefix hfront (List.prefix_append used used')).resolve_right hwhole
    have hne' : front ≠ used := fun heq => hwhole (heq ▸ List.prefix_rfl)
    exact hp.before q front hbefore hne'

/-! ## Fields -/

theorem cutShort_byte (field : String) (n : UInt8) : CutShort (byte field) [n] := by
  intro front hfront hne
  rcases List.prefix_cons_iff.1 hfront with rfl | ⟨more, rfl, hmore⟩
  · exact ⟨.truncated field 1 0, rfl, rfl⟩
  · rw [List.prefix_nil.1 hmore] at hne
    contradiction

theorem cutShort_word (field : String) (n : UInt32) : CutShort (word field) (Bytes.ofWord n) := by
  intro front hfront hne
  have hlt : front.length < 4 := by
    refine Nat.lt_of_le_of_ne hfront.length_le fun hlength => hne ?_
    exact hfront.eq_of_length hlength
  refine ⟨.truncated field 4 front.length, ?_, rfl⟩
  unfold word
  split
  · simp only [List.length_cons] at hlt
    omega
  · rfl

/-- The bytes of a text end at the first zero, so a part of them has no end. -/
theorem cutShort_text {text : String} (limit : Nat) (field : String)
    (hnul : 0 ∉ Bytes.ofText text) : CutShort (Wire.text limit field) (textForm text) := by
  intro front hfront hne
  have hbody : front <+: Bytes.ofText text :=
    (List.prefix_concat_iff.1 hfront).resolve_left hne
  have hzero : front.takeWhile (· ≠ 0) = front := by
    refine List.takeWhile_eq_self_iff.2 fun b hb => ?_
    have hb' : b ≠ 0 := fun heq => hnul (hbody.subset (heq ▸ hb))
    simpa using hb'
  refine ⟨.unterminatedText field (min front.length (scanWindow limit)), ?_, rfl⟩
  unfold Wire.text
  simp only [hzero, List.drop_length]

end Wire

namespace Message

open Wire (CutShort Fits byte_eq_ok_iff word_eq_ok_iff text_eq_ok_iff lift_eq_ok_iff
  bind_eq_error_iff)

/-! ## Parts of a message -/

theorem cutShort_header (kind : Kind) : CutShort readHeader (header kind) := by
  show CutShort readHeader ([protocolVersion] ++ [kind.tag])
  refine (Wire.cutShort_byte _ protocolVersion).bind (fun more => byte_eq_ok_iff.2 rfl) ?_
  exact (Wire.cutShort_byte _ kind.tag).before _

/-- Pairs are texts one after the other. -/
theorem cutShort_pairs {limit : Nat} {pairs : Metadata}
    (h : ∀ text ∈ pairTexts pairs, Fits limit text) :
    CutShort (readPairs limit pairs.length) (pairsForm pairs) := by
  -- pair by pair: the key, the value, and the pairs behind
  induction pairs with
  | nil => exact Wire.cutShort_nil _
  | cons pair more ih =>
    obtain ⟨key, value⟩ := pair
    have hkey : Fits limit key := h key (by simp [pairTexts])
    have hvalue : Fits limit value := h value (by simp [pairTexts])
    have hmore : ∀ text ∈ pairTexts more, Fits limit text :=
      fun text htext => h text (List.mem_append_right [key, value] htext)
    rw [pairsForm_cons]
    refine (Wire.cutShort_text limit _ hkey.hnul).bind
      (fun rest => text_eq_ok_iff.2 ⟨hkey, rfl⟩) ?_
    refine (Wire.cutShort_text limit _ hvalue.hnul).bind
      (fun rest => text_eq_ok_iff.2 ⟨hvalue, rfl⟩) ?_
    exact (ih hmore).before _

theorem cutShort_range (range : Cidr) :
    CutShort readRange (Bytes.ofWord range.network.bits ++ Bytes.ofWord range.maskLen) := by
  refine (Wire.cutShort_word _ _).bind (fun rest => word_eq_ok_iff.2 rfl) ?_
  exact (Wire.cutShort_word _ _).before _

/-- The fields of a message are cut short in one of them. -/
theorem cutShort_fields {limit : Nat} {message : Message} (h : Readable limit message) :
    CutShort (readFields limit message.kind) (fieldsForm message) := by
  obtain ⟨hfits, hpairs, hmask⟩ := h
  have hword (field : String) (n : UInt32) (rest : Bytes) :
      Wire.word field (Bytes.ofWord n ++ rest) = .ok (n, rest) := word_eq_ok_iff.2 rfl
  have hbyte (field : String) (n : UInt8) (rest : Bytes) :
      Wire.byte field ([n] ++ rest) = .ok (n, rest) := byte_eq_ok_iff.2 rfl
  cases message with
  | established info =>
    have hbanner : Fits limit info.banner := hfits info.banner (by simp [texts])
    refine (Wire.cutShort_word _ _).bind (hword _ _) ?_
    refine (Wire.cutShort_word _ _).bind (hword _ _) ?_
    refine (Wire.cutShort_word _ _).bind (hword _ _) ?_
    refine (Wire.cutShort_word _ _).bind (hword _ _) ?_
    exact (Wire.cutShort_text limit _ hbanner.hnul).before _
  | identify token =>
    have htoken : Fits limit token := hfits token (by simp [texts])
    exact (Wire.cutShort_text limit _ htoken.hnul).before _
  | request address pairs =>
    refine (Wire.cutShort_word _ _).bind (hword _ _) ?_
    refine (Wire.cutShort_byte _ _).bind (hbyte _ _) ?_
    -- the count that is read back is the number of pairs that were written
    have hcount : (UInt8.ofNat pairs.length).toNat = pairs.length :=
      UInt8.toNat_ofNat_of_lt' (Nat.lt_succ_of_le hpairs)
    rw [hcount]
    exact (cutShort_pairs hfits).before _
  | found address range =>
    refine (Wire.cutShort_word _ _).bind (hword _ _) ?_
    exact (cutShort_range range).before _
  | notFound address => exact (Wire.cutShort_word _ _).before _
  | failure code text =>
    have htext : Fits limit text := hfits text (by simp [texts])
    refine (Wire.cutShort_byte _ _).bind (hbyte _ _) ?_
    exact (Wire.cutShort_text limit _ htext.hnul).before _

/-! ## Messages -/

/-- **Messages tell where they end.** Where bytes are decoded to a message, a part of them from the
front is refused because the input ends too early, and never as another version or as another
message; and where more bytes follow, all of them are reported as trailing, whatever they are. -/
theorem messages_tell_where_they_end {limit : Nat} {bytes : Bytes} {message : Message}
    (h : decode limit bytes = .ok message) :
    (∀ front, front <+: bytes → front ≠ bytes →
        ∃ e, decode limit front = .error e ∧ e.isCutShort ∧ ¬ e.isFatal)
      ∧ ∀ more, more ≠ [] → decode limit (bytes ++ more) = .error (.trailingBytes more.length) := by
  obtain ⟨hreadable, rfl⟩ := decode_eq_ok_iff.1 h
  have hheader (rest : Bytes) :
      readHeader (header message.kind ++ rest) = .ok (message.kind, rest) :=
    readHeader_eq_ok_iff.2 rfl
  have hfields (rest : Bytes) :
      readFields limit message.kind (fieldsForm message ++ rest) = .ok (message, rest) :=
    readFields_eq_ok_iff.2 ⟨rfl, hreadable, rfl⟩
  constructor
  · intro front hfront hne
    -- what is missing is missing before the end is looked at
    have hwhole : CutShort (do let kind ← readHeader; let message ← readFields limit kind
                               Wire.finish; return message) message.form :=
      (cutShort_header message.kind).bind hheader ((cutShort_fields hreadable).before _)
    obtain ⟨e, hread, hcut⟩ := hwhole front hfront hne
    refine ⟨e, ?_, hcut, ProtocolError.not_isFatal_of_isCutShort hcut⟩
    exact congrArg (Prod.fst <$> ·) hread
  · intro more hmore
    have hfinish : Wire.finish more = .error (.trailingBytes more.length) := by
      cases more with
      | nil => contradiction
      | cons => rfl
    have hread : (do let kind ← readHeader; let message ← readFields limit kind
                     Wire.finish; return message) (message.form ++ more)
        = .error (.trailingBytes more.length) := by
      rw [form, List.append_assoc]
      refine bind_eq_error_iff.2 (.inr ⟨_, _, hheader _, ?_⟩)
      refine bind_eq_error_iff.2 (.inr ⟨_, _, hfields _, ?_⟩)
      exact bind_eq_error_iff.2 (.inl hfinish)
    exact congrArg (Prod.fst <$> ·) hread

/-- A request with one pair of metadata, cut within a character of two bytes, and followed by bytes
that look like one more pair. -/
theorem cut_character_is_noticed :
    let bytes : Bytes := [1, 2, 10, 0, 0, 1, 1, 107, 0, 0xC3, 0xA9, 0]
    decode 2 bytes = .ok (.request ⟨0x0A000001⟩ [("k", "é")])
      ∧ bytes.take 10 <+: bytes ∧ bytes.take 10 ≠ bytes
      ∧ (∃ e, decode 2 (bytes.take 10) = .error e ∧ e.isCutShort ∧ ¬ e.isFatal)
      ∧ decode 2 (bytes ++ [107, 0, 118, 0]) = .error (.trailingBytes 4) := by
  intro bytes
  have hdecode : decode 2 bytes = .ok (.request ⟨0x0A000001⟩ [("k", "é")]) := by rfl
  have hfront : bytes.take 10 <+: bytes := List.take_prefix 10 bytes
  have hne : bytes.take 10 ≠ bytes := by decide
  obtain ⟨hcut, htrailing⟩ := messages_tell_where_they_end hdecode
  exact ⟨hdecode, hfront, hne, hcut _ hfront hne, htrailing [107, 0, 118, 0] (by decide)⟩

end Message

end CidrLookup
