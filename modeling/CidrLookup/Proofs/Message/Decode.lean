import CidrLookup.Message.Decode
import CidrLookup.Proofs.Message.Encode

/-!
# Decoding is the converse of encoding

Each reader accepts exactly the forms of `form`, so a message is decoded from one string of bytes
only, the one it is encoded to. The limit decides which texts are accepted and nothing else, and a
limit that is no shorter than the input decides nothing.
-/

namespace CidrLookup.Message

open Wire (AgreeUpTo Fits textForm bind_eq_ok_iff pure_eq_ok_iff lift_eq_ok_iff byte_eq_ok_iff
  word_eq_ok_iff text_eq_ok_iff finish_eq_ok_iff)

/-! ## Parts -/

/-- The header of a message is read where it stands, and only there. -/
theorem readHeader_eq_ok_iff {kind : Kind} {input rest : Bytes} :
    readHeader input = .ok (kind, rest) ↔ input = header kind ++ rest := by
  -- a tag that is known has one kind
  have htag {tag : UInt8} (h : Kind.ofTag tag = .ok kind) : tag = kind.tag := by
    unfold Kind.ofTag at h
    split at h <;> cases h <;> rfl
  unfold readHeader
  simp only [bind_eq_ok_iff, byte_eq_ok_iff]
  constructor
  · rintro ⟨version, mid, rfl, h⟩
    by_cases hversion : version = protocolVersion
    · subst hversion
      obtain ⟨tag, mid', hmid, hlift⟩ := bind_eq_ok_iff.1 h
      obtain ⟨hkind, rfl⟩ := lift_eq_ok_iff.1 hlift
      rw [byte_eq_ok_iff.1 hmid, htag hkind]
      rfl
    · rw [if_pos hversion] at h
      contradiction
  · rintro rfl
    refine ⟨protocolVersion, kind.tag :: rest, rfl, ?_⟩
    refine bind_eq_ok_iff.2 ⟨kind.tag, rest, byte_eq_ok_iff.2 rfl, ?_⟩
    exact lift_eq_ok_iff.2 ⟨Kind.ofTag_tag kind, rfl⟩

/-- So many pairs are read where they stand, with texts that fit. -/
theorem readPairs_eq_ok_iff {limit count : Nat} {pairs : Metadata} {input rest : Bytes} :
    readPairs limit count input = .ok (pairs, rest)
      ↔ pairs.length = count ∧ (∀ text ∈ pairTexts pairs, Fits limit text)
        ∧ input = pairsForm pairs ++ rest := by
  -- pair by pair; what a pair leaves is the input of the rest
  induction count generalizing pairs input rest with
  | zero =>
    rw [readPairs, pure_eq_ok_iff]
    constructor
    · rintro ⟨rfl, rfl⟩
      exact ⟨rfl, by simp [pairTexts], rfl⟩
    · rintro ⟨hlength, -, rfl⟩
      rw [List.length_eq_zero_iff.1 hlength]
      exact ⟨rfl, rfl⟩
  | succ count ih =>
    simp only [readPairs, bind_eq_ok_iff, text_eq_ok_iff, pure_eq_ok_iff, ih]
    constructor
    · rintro ⟨key, mid, ⟨hkey, rfl⟩, value, mid', ⟨hvalue, rfl⟩, more, _, ⟨hlength, hmore, rfl⟩,
        rfl, rfl⟩
      refine ⟨by rw [List.length_cons, hlength], ?_, ?_⟩
      · intro text htext
        have hcases : text = key ∨ text = value ∨ text ∈ pairTexts more := by
          simpa [pairTexts] using htext
        rcases hcases with rfl | rfl | hin
        · exact hkey
        · exact hvalue
        · exact hmore text hin
      · simp only [pairsForm_cons, List.append_assoc]
    · rintro ⟨hlength, hfits, rfl⟩
      obtain ⟨⟨key, value⟩, more, rfl⟩ := List.exists_cons_of_length_eq_add_one hlength
      have hkey : Fits limit key := hfits key (by simp [pairTexts])
      have hvalue : Fits limit value := hfits value (by simp [pairTexts])
      have hmore : ∀ text ∈ pairTexts more, Fits limit text :=
        fun text htext => hfits text (List.mem_append_right [key, value] htext)
      simp only [pairsForm_cons, List.append_assoc]
      exact ⟨key, _, ⟨hkey, rfl⟩, value, _, ⟨hvalue, rfl⟩, more, rest,
        ⟨Nat.succ.inj hlength, hmore, rfl⟩, rfl, rfl⟩

/-- A range is read where it stands, with a mask that an address can have. -/
theorem readRange_eq_ok_iff {range : Cidr} {input rest : Bytes} :
    readRange input = .ok (range, rest)
      ↔ range.maskLen ≤ 32
        ∧ input = Bytes.ofWord range.network.bits ++ (Bytes.ofWord range.maskLen ++ rest) := by
  have hmake {network : UInt32} {maskLen : UInt32} :
      Cidr.make ⟨network⟩ maskLen = .ok range ↔ maskLen ≤ 32 ∧ ⟨⟨network⟩, maskLen⟩ = range := by
    unfold Cidr.make
    by_cases h : maskLen > 32
    · rw [if_pos h]
      simp [UInt32.not_le.2 h]
    · rw [if_neg h]
      simp [UInt32.not_lt.1 h]
  simp only [readRange, bind_eq_ok_iff, word_eq_ok_iff, lift_eq_ok_iff, hmake]
  constructor
  · rintro ⟨network, mid, rfl, maskLen, mid', rfl, ⟨hmask, rfl⟩, rfl⟩
    exact ⟨hmask, rfl⟩
  · rintro ⟨hmask, rfl⟩
    exact ⟨_, _, rfl, _, _, rfl, ⟨hmask, rfl⟩, rfl⟩

/-- A message that a reader with the given limit accepts. -/
structure Readable (limit : Nat) (message : Message) : Prop where
  hfits : ∀ text ∈ message.texts, Fits limit text
  hpairs : message.metadata.length ≤ maxMetadata
  hmask : ∀ address range, message = .found address range → range.maskLen ≤ 32

/-! ## Messages -/

/-- The fields of a message are read where they stand. -/
theorem readFields_eq_ok_iff {limit : Nat} {kind : Kind} {message : Message} {input rest : Bytes} :
    readFields limit kind input = .ok (message, rest)
      ↔ message.kind = kind ∧ Readable limit message ∧ input = fieldsForm message ++ rest := by
  constructor
  · intro h
    cases kind with
    | established =>
      simp only [readFields, bind_eq_ok_iff, word_eq_ok_iff, text_eq_ok_iff, pure_eq_ok_iff] at h
      obtain ⟨rateLimit, _, rfl, treeSize, _, rfl, cacheTtl, _, rfl, peerTtl, _, rfl, banner, _,
        ⟨hbanner, rfl⟩, rfl, rfl⟩ := h
      refine ⟨rfl, ⟨by simpa [texts] using hbanner, Nat.zero_le _, by simp⟩, ?_⟩
      simp only [fieldsForm, List.append_assoc]
    | identify =>
      simp only [readFields, bind_eq_ok_iff, text_eq_ok_iff, pure_eq_ok_iff] at h
      obtain ⟨token, _, ⟨htoken, rfl⟩, rfl, rfl⟩ := h
      exact ⟨rfl, ⟨by simpa [texts] using htoken, Nat.zero_le _, by simp⟩, rfl⟩
    | request =>
      simp only [readFields, bind_eq_ok_iff, word_eq_ok_iff, byte_eq_ok_iff, readPairs_eq_ok_iff,
        pure_eq_ok_iff] at h
      obtain ⟨address, _, rfl, count, _, rfl, pairs, _, ⟨hlength, hpairs, rfl⟩, rfl, rfl⟩ := h
      -- a count that was read is one byte, so there are no more pairs than one byte counts
      have hcount : UInt8.ofNat pairs.length = count := by rw [hlength, UInt8.ofNat_toNat]
      have hle : pairs.length ≤ maxMetadata := by
        rw [hlength]
        exact Nat.le_of_lt_succ count.toNat_lt
      refine ⟨rfl, ⟨hpairs, hle, by simp⟩, ?_⟩
      simp only [fieldsForm, List.append_assoc, hcount, List.cons_append, List.nil_append]
    | found =>
      simp only [readFields, bind_eq_ok_iff, word_eq_ok_iff, readRange_eq_ok_iff,
        pure_eq_ok_iff] at h
      obtain ⟨address, _, rfl, range, _, ⟨hmask, rfl⟩, rfl, rfl⟩ := h
      refine ⟨rfl, ⟨by simp [texts], Nat.zero_le _, ?_⟩, ?_⟩
      · intro address' range' heq
        cases heq
        exact hmask
      · simp only [fieldsForm, List.append_assoc]
    | notFound =>
      simp only [readFields, bind_eq_ok_iff, word_eq_ok_iff, pure_eq_ok_iff] at h
      obtain ⟨address, _, rfl, rfl, rfl⟩ := h
      exact ⟨rfl, ⟨by simp [texts], Nat.zero_le _, by simp⟩, rfl⟩
    | failure =>
      simp only [readFields, bind_eq_ok_iff, byte_eq_ok_iff, text_eq_ok_iff, pure_eq_ok_iff] at h
      obtain ⟨code, _, rfl, text, _, ⟨htext, rfl⟩, rfl, rfl⟩ := h
      exact ⟨rfl, ⟨by simpa [texts] using htext, Nat.zero_le _, by simp⟩, rfl⟩
  · rintro ⟨rfl, ⟨hfits, hpairs, hmask⟩, rfl⟩
    cases message with
    | established info =>
      simp only [kind, readFields, bind_eq_ok_iff, word_eq_ok_iff, text_eq_ok_iff, pure_eq_ok_iff,
        fieldsForm, List.append_assoc]
      have hbanner : Fits limit info.banner := hfits info.banner (by simp [texts])
      exact ⟨_, _, rfl, _, _, rfl, _, _, rfl, _, _, rfl, _, _, ⟨hbanner, rfl⟩, rfl, rfl⟩
    | identify token =>
      simp only [kind, readFields, bind_eq_ok_iff, text_eq_ok_iff, pure_eq_ok_iff, fieldsForm]
      have htoken : Fits limit token := hfits token (by simp [texts])
      exact ⟨_, _, ⟨htoken, rfl⟩, rfl, rfl⟩
    | request address pairs =>
      simp only [kind, readFields, bind_eq_ok_iff, word_eq_ok_iff, byte_eq_ok_iff,
        readPairs_eq_ok_iff, pure_eq_ok_iff, fieldsForm, List.append_assoc]
      have hcount : (UInt8.ofNat pairs.length).toNat = pairs.length := by
        rw [UInt8.toNat_ofNat']
        exact Nat.mod_eq_of_lt (Nat.lt_succ_of_le hpairs)
      exact ⟨_, _, rfl, _, _, rfl, pairs, _, ⟨hcount.symm, hfits, rfl⟩, rfl, rfl⟩
    | found address range =>
      simp only [kind, readFields, bind_eq_ok_iff, word_eq_ok_iff, readRange_eq_ok_iff,
        pure_eq_ok_iff, fieldsForm, List.append_assoc]
      exact ⟨_, _, rfl, range, _, ⟨hmask _ _ rfl, rfl⟩, rfl, rfl⟩
    | notFound address =>
      simp only [kind, readFields, bind_eq_ok_iff, word_eq_ok_iff, pure_eq_ok_iff, fieldsForm]
      exact ⟨_, _, rfl, rfl, rfl⟩
    | failure code text =>
      simp only [kind, readFields, bind_eq_ok_iff, byte_eq_ok_iff, text_eq_ok_iff, pure_eq_ok_iff,
        fieldsForm]
      have htext : Fits limit text := hfits text (by simp [texts])
      exact ⟨_, _, rfl, _, _, ⟨htext, rfl⟩, rfl, rfl⟩

/-- **Decoding.** A message is decoded from its form, if the reader accepts it. -/
theorem decode_eq_ok_iff {limit : Nat} {bytes : Bytes} {message : Message} :
    decode limit bytes = .ok message ↔ Readable limit message ∧ bytes = message.form := by
  -- the parsers are characterised one by one, so the decoder is the conjunction of what they say
  have hfst {result : Except ProtocolError (Message × Bytes)} :
      Prod.fst <$> result = .ok message ↔ ∃ rest, result = .ok (message, rest) := by
    cases result <;> simp [Functor.map, Except.map, Prod.ext_iff]
  unfold decode
  rw [hfst]
  simp only [StateT.run, bind_eq_ok_iff, readHeader_eq_ok_iff, readFields_eq_ok_iff,
    finish_eq_ok_iff, pure_eq_ok_iff]
  constructor
  · rintro ⟨_, _, _, rfl, message', _, ⟨rfl, hreadable, rfl⟩, _, _, ⟨rfl, rfl⟩, rfl, rfl⟩
    exact ⟨hreadable, by rw [form, List.append_nil]⟩
  · rintro ⟨hreadable, rfl⟩
    refine ⟨[], message.kind, message.fieldsForm, rfl, message, [], ⟨rfl, hreadable, ?_⟩, (), [],
      ⟨rfl, rfl⟩, rfl, rfl⟩
    rw [List.append_nil]

/-! ## Limits -/

/-- Pairs are read alike under limits that are not below the input. -/
theorem agree_pairs {n limit limit' : Nat} (hlimit : n ≤ limit) (hlimit' : n ≤ limit')
    (hn : n ≤ Numeral.maxLong) (count : Nat) :
    AgreeUpTo n (readPairs limit count) (readPairs limit' count) := by
  induction count with
  | zero => exact Wire.agree_pure n []
  | succ count ih =>
    refine (Wire.agree_text _ hlimit hlimit' hn).bind fun key => ?_
    refine (Wire.agree_text _ hlimit hlimit' hn).bind fun value => ?_
    exact ih.bind fun more => Wire.agree_pure n _

theorem agree_header (n : Nat) : AgreeUpTo n readHeader readHeader := by
  refine .refl n fun input kind rest h => ?_
  rw [readHeader_eq_ok_iff.1 h, List.length_append]
  omega

theorem agree_range (n : Nat) : AgreeUpTo n readRange readRange := by
  refine (Wire.agree_word n _).bind fun network => ?_
  exact (Wire.agree_word n _).bind fun maskLen => Wire.agree_lift n _

/-- Fields are read alike under limits that are not below the input. -/
theorem agree_fields {n limit limit' : Nat} (hlimit : n ≤ limit) (hlimit' : n ≤ limit')
    (hn : n ≤ Numeral.maxLong) (kind : Kind) :
    AgreeUpTo n (readFields limit kind) (readFields limit' kind) := by
  have htext (field : String) := Wire.agree_text field hlimit hlimit' hn
  cases kind with
  | established =>
    refine (Wire.agree_word n _).bind fun rateLimit => ?_
    refine (Wire.agree_word n _).bind fun treeSize => ?_
    refine (Wire.agree_word n _).bind fun cacheTtl => ?_
    refine (Wire.agree_word n _).bind fun peerTtl => ?_
    exact (htext _).bind fun banner => Wire.agree_pure n _
  | identify => exact (htext _).bind fun token => Wire.agree_pure n _
  | request =>
    refine (Wire.agree_word n _).bind fun address => ?_
    refine (Wire.agree_byte n _).bind fun count => ?_
    exact (agree_pairs hlimit hlimit' hn _).bind fun pairs => Wire.agree_pure n _
  | found =>
    refine (Wire.agree_word n _).bind fun address => ?_
    exact (agree_range n).bind fun range => Wire.agree_pure n _
  | notFound => exact (Wire.agree_word n _).bind fun address => Wire.agree_pure n _
  | failure =>
    refine (Wire.agree_byte n _).bind fun code => ?_
    exact (htext _).bind fun text => Wire.agree_pure n _

/-- Limits that are no shorter than the input make no difference. -/
theorem decode_eq_decode {limit limit' : Nat} {bytes : Bytes} (hlimit : bytes.length ≤ limit)
    (hlimit' : bytes.length ≤ limit') (hsize : bytes.length ≤ Numeral.maxLong) :
    decode limit bytes = decode limit' bytes := by
  have hagree : AgreeUpTo bytes.length
      (do let kind ← readHeader; let message ← readFields limit kind; Wire.finish; return message)
      (do let kind ← readHeader; let message ← readFields limit' kind; Wire.finish; return message)
      := by
    refine (agree_header _).bind fun kind => ?_
    refine (agree_fields hlimit hlimit' hsize kind).bind fun message => ?_
    refine (Wire.agree_finish _).bind fun _ => Wire.agree_pure _ message
  exact congrArg (Prod.fst <$> ·) (hagree bytes (Nat.le_refl _)).1

/-! ## The image of the encoder -/

/-- A text of a message is shorter than its written form. -/
theorem size_lt_of_mem_texts {message : Message} {text : String} (h : text ∈ message.texts) :
    text.utf8ByteSize < message.form.length := by
  have hfields : (textForm text).length ≤ (fieldsForm message).length := by
    cases message with
    | established info =>
      rw [List.mem_singleton.1 h]
      simp only [fieldsForm, List.length_append]
      omega
    | identify token =>
      rw [List.mem_singleton.1 h]
      exact Nat.le_refl _
    | request address pairs =>
      have hmem : textForm text ∈ (pairTexts pairs).map textForm := List.mem_map_of_mem h
      have hle := (List.sublist_flatten_of_mem hmem).length_le
      simp only [fieldsForm, pairsForm, List.flatMap, List.length_append]
      omega
    | found address range => contradiction
    | notFound address => contradiction
    | failure code message =>
      rw [List.mem_singleton.1 h]
      simp only [fieldsForm, List.length_append]
      omega
  rw [textForm, List.length_append, Bytes.length_ofText] at hfields
  rw [form, List.length_append]
  simp only [List.length_singleton] at hfields
  omega

/-- Bytes that 64 bits can count are decoded to the message they are the encoding of, if its texts
are within the limit and its mask fits an address. -/
theorem decode_eq_ok_iff_encode {limit : Nat} {bytes : Bytes} {message : Message}
    (hsize : bytes.length ≤ Numeral.maxLong) :
    decode limit bytes = .ok message
      ↔ message.encode = .ok bytes ∧ (∀ text ∈ message.texts, text.utf8ByteSize ≤ limit)
        ∧ ∀ address range, message = .found address range → range.maskLen ≤ 32 := by
  -- a text in the message is shorter than the input, so the window is the limit for it
  rw [decode_eq_ok_iff, encode_eq_ok_iff]
  constructor
  · rintro ⟨hreadable, rfl⟩
    refine ⟨⟨⟨fun text htext => (hreadable.hfits text htext).hnul, hreadable.hpairs⟩, rfl⟩, ?_,
      hreadable.hmask⟩
    intro text htext
    have hlt := Nat.lt_of_lt_of_le (size_lt_of_mem_texts htext) hsize
    exact (Wire.lt_scanWindow_iff hlt).1 (hreadable.hfits text htext).hsize
  · rintro ⟨⟨⟨hnul, hpairs⟩, rfl⟩, hlimit, hmask⟩
    refine ⟨⟨fun text htext => ⟨hnul text htext, ?_⟩, hpairs, hmask⟩, rfl⟩
    have hlt := Nat.lt_of_lt_of_le (size_lt_of_mem_texts htext) hsize
    exact (Wire.lt_scanWindow_iff hlt).2 (hlimit text htext)

/-- **The decoder accepts exactly the image of the encoder.** Under a limit, bytes are decoded to
the message they are the encoding of, provided that no text in it is longer than the limit and no
mask is longer than an address. A message is encoded unless a text in it holds a NUL or there are
more metadata pairs than one byte counts, and writing it adds its encoding to what is there. So no
two strings of bytes are decoded to one message, and a limit no shorter than the input does not
matter. No string of bytes is longer than 64 bits can count. -/
theorem decoder_accepts_encoder_image (limit : Nat) (bytes : Bytes)
    (hsize : bytes.length ≤ Numeral.maxLong) (message : Message) :
    (decode limit bytes = .ok message
        ↔ message.encode = .ok bytes ∧ (∀ text ∈ message.texts, text.utf8ByteSize ≤ limit)
          ∧ ∀ address range, message = .found address range → range.maskLen ≤ 32)
      ∧ ((∃ form, message.encode = .ok form)
        ↔ (∀ text ∈ message.texts, '\x00' ∉ text.toList) ∧ message.metadata.length ≤ 255)
      ∧ (∀ dst out, message.write.run.run dst = (.ok (), out)
        ↔ ∃ form, message.encode = .ok form ∧ out = dst ++ form)
      ∧ (∀ limit' bytes', decode limit bytes = .ok message → decode limit' bytes' = .ok message →
          bytes = bytes')
      ∧ ∀ limit', bytes.length ≤ limit → bytes.length ≤ limit' →
          decode limit bytes = decode limit' bytes := by
  refine ⟨decode_eq_ok_iff_encode hsize, ?_, ?_, ?_, ?_⟩
  · constructor
    · rintro ⟨form, hencode⟩
      obtain ⟨⟨hnul, hpairs⟩, -⟩ := encode_eq_ok_iff.1 hencode
      exact ⟨fun text htext => mt (Bytes.zero_mem_ofText_iff text).2 (hnul text htext), hpairs⟩
    · rintro ⟨hnul, hpairs⟩
      refine ⟨message.form, encode_eq_ok_iff.2 ⟨⟨fun text htext => ?_, hpairs⟩, rfl⟩⟩
      exact mt (Bytes.zero_mem_ofText_iff text).1 (hnul text htext)
  · intro dst out
    exact write_eq_ok_iff
  · intro limit' bytes' hdecode hdecode'
    rw [(decode_eq_ok_iff.1 hdecode).2, (decode_eq_ok_iff.1 hdecode').2]
  · intro limit' hlimit hlimit'
    exact decode_eq_decode hlimit hlimit' hsize

/-- A request with one pair of metadata, under the least limit that lets its texts through. -/
theorem request_is_decoded :
    let bytes : Bytes := [1, 2, 10, 0, 0, 1, 1, 107, 0, 118, 118, 0]
    bytes.length ≤ Numeral.maxLong
      ∧ decode 2 bytes = .ok (.request ⟨0x0A000001⟩ [("k", "vv")]) := by
  intro bytes
  have hsize : bytes.length ≤ Numeral.maxLong := by decide
  refine ⟨hsize, ?_⟩
  refine (decoder_accepts_encoder_image 2 bytes hsize _).1.2 ⟨by rfl, by decide, ?_⟩
  intro address range h
  contradiction

end CidrLookup.Message
