/-!
# Bytes

Byte strings as lists, the big-endian form of a 32-bit word, and the UTF-8 form of a text.
Everything that travels — message bodies, records, what a socket carries — is a `Bytes`.
-/

namespace CidrLookup

/-- A string of bytes. -/
abbrev Bytes := List UInt8

namespace Bytes

/-! ## Words -/

/-- The four bytes of a word, most significant first. -/
def ofWord (n : UInt32) : Bytes :=
  [.ofNat (n.toNat / 16777216), .ofNat (n.toNat / 65536), .ofNat (n.toNat / 256), .ofNat n.toNat]

/-- The number that bytes spell, most significant first. -/
def bigEndian (bytes : Bytes) : Nat :=
  bytes.foldl (fun n b => n * 256 + b.toNat) 0

/-- The word that four bytes spell, most significant first. -/
def word (a b c d : UInt8) : UInt32 :=
  .ofNat (a.toNat * 16777216 + b.toNat * 65536 + c.toNat * 256 + d.toNat)

/-- A word is the number that its bytes spell. -/
theorem ofNat_bigEndian (a b c d : UInt8) : .ofNat (bigEndian [a, b, c, d]) = word a b c d := by
  have hvalue : bigEndian [a, b, c, d]
      = a.toNat * 16777216 + b.toNat * 65536 + c.toNat * 256 + d.toNat := by
    simp only [bigEndian, List.foldl_cons, List.foldl_nil]
    omega
  rw [hvalue, word]

@[simp] theorem length_ofWord (n : UInt32) : (ofWord n).length = 4 := rfl

/-- Taking a word apart and putting it together again gives the word. -/
theorem word_ofWord (n : UInt32) :
    word (.ofNat (n.toNat / 16777216)) (.ofNat (n.toNat / 65536)) (.ofNat (n.toNat / 256))
      (.ofNat n.toNat) = n := by
  have h := n.toNat_lt
  apply UInt32.toNat_inj.1
  simp only [word, UInt32.toNat_ofNat', UInt8.toNat_ofNat']
  omega

/-- Every four bytes are the bytes of the word they spell. -/
theorem ofWord_word (a b c d : UInt8) : ofWord (word a b c d) = [a, b, c, d] := by
  have ha := a.toNat_lt
  have hb := b.toNat_lt
  have hc := c.toNat_lt
  have hd := d.toNat_lt
  simp only [ofWord, word, UInt32.toNat_ofNat', List.cons.injEq, ← UInt8.toNat_inj,
    UInt8.toNat_ofNat', and_true]
  omega

/-! ## Text -/

/-- The UTF-8 form of a text. -/
def ofText (text : String) : Bytes :=
  text.toByteArray.data.toList

/-- The text whose UTF-8 form these bytes are, if they are one. -/
def text? (bytes : Bytes) : Option String :=
  String.fromUTF8? ⟨bytes.toArray⟩

@[simp] theorem text?_ofText (text : String) : text? (ofText text) = some text := by
  have h : (⟨(ofText text).toArray⟩ : ByteArray) = text.toByteArray := by simp [ofText]
  rw [text?, h, String.fromUTF8?, dif_pos text.isValidUTF8]
  rfl

theorem ofText_of_text? {bytes : Bytes} {text : String} (h : text? bytes = some text) :
    ofText text = bytes := by
  unfold text? String.fromUTF8? at h
  split at h
  · cases h; simp [ofText, String.fromUTF8]
  · contradiction

end Bytes

end CidrLookup
