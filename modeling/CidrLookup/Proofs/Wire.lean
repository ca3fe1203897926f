import CidrLookup.Wire

/-!
# Fields, read and written

What a reader accepts and what a writer adds, for each kind of field. A reader is stated by an
equivalence: it yields a value and a rest exactly if the input is the written form of the value and
then the rest. A writer either adds one form to whatever was there, or fails whatever was there.
Both are closed under sequencing, so a message is read and written field by field.
-/

namespace CidrLookup

/-! ## Texts -/

namespace Bytes

/-- A text is as long as its encoding. -/
@[simp] theorem length_ofText (text : String) : (ofText text).length = text.utf8ByteSize := by
  simp [ofText]

/-- Only NUL has a zero among its bytes: the bytes of a longer character have their high bit set. -/
theorem zero_mem_utf8EncodeChar_iff (c : Char) : 0 ∈ String.utf8EncodeChar c ↔ c = '\x00' := by
  have hlong (h : c.utf8Size ≠ 1) : c ≠ '\x00' := by
    rintro rfl
    exact h rfl
  -- a character of one byte is that byte; each byte of a longer one has its high bit set
  rcases c.utf8Size_eq with hsize | hsize | hsize | hsize
  · have hlt : c.toNat < 128 := by
      have hle := Char.utf8Size_eq_one_iff.1 hsize
      rw [UInt32.le_iff_toNat_le] at hle
      exact Nat.lt_succ_of_le hle
    rw [String.utf8EncodeChar_eq_singleton hsize, List.mem_singleton, ← UInt8.toNat_inj,
      ← Char.toNat_inj]
    show 0 = c.val.toUInt8.toNat ↔ c.toNat = 0
    rw [UInt32.toNat_toUInt8]
    show 0 = c.toNat % 256 ↔ c.toNat = 0
    omega
  · simp [String.utf8EncodeChar_eq_cons_cons hsize, hlong (by omega), @eq_comm UInt8 0]
  · simp [String.utf8EncodeChar_eq_cons_cons_cons hsize, hlong (by omega), @eq_comm UInt8 0]
  · simp [String.utf8EncodeChar_eq_cons_cons_cons_cons hsize, hlong (by omega), @eq_comm UInt8 0]

/-- A text has a NUL among its bytes if and only if it has one among its characters. -/
theorem zero_mem_ofText_iff (text : String) : 0 ∈ ofText text ↔ '\x00' ∈ text.toList := by
  -- by the characters: only the character NUL is written with a zero
  have hlist (chars : List Char) : 0 ∈ chars.utf8Encode.data.toList ↔ '\x00' ∈ chars := by
    induction chars with
    | nil => simp
    | cons c more ih =>
      rw [List.utf8Encode_cons, List.utf8Encode_singleton, List.mem_cons, ← ih, eq_comm,
        ← zero_mem_utf8EncodeChar_iff]
      simp
  rw [← hlist, String.utf8Encode_toList]
  rfl

end Bytes

namespace Wire

/-! ## Reading -/

section Reading

variable {α β : Type}

/-- A sequence succeeds if both parts do, the second on what the first has left. -/
theorem bind_eq_ok_iff {p : Parser α} {q : α → Parser β} {input rest : Bytes} {b : β} :
    (p >>= q) input = .ok (b, rest)
      ↔ ∃ a mid, p input = .ok (a, mid) ∧ q a mid = .ok (b, rest) := by
  show (p input >>= fun x => q x.1 x.2) = .ok (b, rest) ↔ _
  cases h : p input with
  | error e => simp [bind, Except.bind]
  | ok x =>
    obtain ⟨a, mid⟩ := x
    constructor
    · intro hq
      exact ⟨a, mid, rfl, hq⟩
    · rintro ⟨a', mid', heq, hq⟩
      cases heq
      exact hq

/-- A sequence fails with the error of its first part, or of the second after the first. -/
theorem bind_eq_error_iff {p : Parser α} {q : α → Parser β} {input : Bytes} {e : ProtocolError} :
    (p >>= q) input = .error e
      ↔ p input = .error e ∨ ∃ a mid, p input = .ok (a, mid) ∧ q a mid = .error e := by
  show (p input >>= fun x => q x.1 x.2) = .error e ↔ _
  cases p input with
  | error e' => simp [bind, Except.bind]
  | ok x =>
    obtain ⟨a, mid⟩ := x
    constructor
    · intro h
      exact .inr ⟨a, mid, rfl, h⟩
    · rintro (h | ⟨a', mid', heq, h⟩)
      · contradiction
      · cases heq
        exact h

/-- A reader that reads nothing leaves everything. -/
theorem pure_eq_ok_iff {a b : α} {input rest : Bytes} :
    (pure a : Parser α) input = .ok (b, rest) ↔ a = b ∧ input = rest := by
  show Except.ok (a, input) = .ok (b, rest) ↔ _
  simp

/-- A check reads nothing. -/
theorem lift_eq_ok_iff {check : Except ProtocolError α} {a : α} {input rest : Bytes} :
    (liftM check : Parser α) input = .ok (a, rest) ↔ check = .ok a ∧ input = rest := by
  show (check >>= fun a => .ok (a, input)) = .ok (a, rest) ↔ _
  cases check with
  | error e => simp [bind, Except.bind]
  | ok a' => simp [bind, Except.bind]

/-- A byte is read if one is there. -/
theorem byte_eq_ok_iff {field : String} {n : UInt8} {input rest : Bytes} :
    byte field input = .ok (n, rest) ↔ input = n :: rest := by
  unfold byte
  cases input <;> simp

/-- A word is read if its four bytes are there, the most significant first. -/
theorem word_eq_ok_iff {field : String} {n : UInt32} {input rest : Bytes} :
    word field input = .ok (n, rest) ↔ input = Bytes.ofWord n ++ rest := by
  constructor
  · intro h
    unfold word at h
    split at h
    · cases h
      rw [Bytes.ofWord_word]
      rfl
    · contradiction
  · rintro rfl
    show Except.ok (Bytes.word _ _ _ _, rest) = _
    rw [Bytes.word_ofWord]

/-- The written form of a text. -/
def textForm (text : String) : Bytes :=
  Bytes.ofText text ++ [0]

/-- A text that a reader with the given limit accepts. -/
structure Fits (limit : Nat) (text : String) : Prop where
  hnul : 0 ∉ Bytes.ofText text
  hsize : text.utf8ByteSize < scanWindow limit

/-- No NUL stands in front of the first one. -/
theorem zero_notMem_takeWhile (input : Bytes) : 0 ∉ input.takeWhile (· ≠ 0) := by
  intro h
  have hall := List.all_eq_true.1 (List.all_takeWhile (p := (· ≠ 0)) (l := input)) 0 h
  contradiction

/-- What stands in front of the first NUL is found again. -/
theorem takeWhile_append_zero {body : Bytes} (h : 0 ∉ body) (rest : Bytes) :
    (body ++ 0 :: rest).takeWhile (· ≠ 0) = body := by
  rw [List.takeWhile_append_of_pos]
  · simp
  · intro b hb
    have hne : b ≠ 0 := fun heq => h (heq ▸ hb)
    simpa using hne

/-- What follows the bytes before the first zero starts with that zero. -/
theorem eq_append_zero {input rest : Bytes} {b : UInt8}
    (h : input.drop (input.takeWhile (· ≠ 0)).length = b :: rest) :
    input = input.takeWhile (· ≠ 0) ++ 0 :: rest := by
  induction input with
  | nil => contradiction
  | cons c more ih =>
    by_cases hc : c = 0
    · subst hc
      simp only [List.takeWhile_cons, ne_eq, not_true_eq_false, decide_false, Bool.false_eq_true,
        if_false, List.length_nil, List.drop_zero] at h ⊢
      cases h
      rfl
    · have htake : (c :: more).takeWhile (· ≠ 0) = c :: more.takeWhile (· ≠ 0) :=
        List.takeWhile_cons_of_pos (by simpa using hc)
      rw [htake] at h ⊢
      exact congrArg (c :: ·) (ih h)

/-- **Texts.** A text is read if its written form is there and within the limit. -/
theorem text_eq_ok_iff {limit : Nat} {field text : String} {input rest : Bytes} :
    Wire.text limit field input = .ok (text, rest)
      ↔ Fits limit text ∧ input = textForm text ++ rest := by
  constructor
  · intro h
    unfold Wire.text at h
    simp only at h
    -- a zero in the input, within the window, behind bytes that are UTF-8
    split at h
    · rename_i b rest' hdrop
      split at h
      · rename_i hlt
        split at h
        · rename_i text' htext
          cases h
          have hform := Bytes.ofText_of_text? htext
          refine ⟨⟨?_, ?_⟩, ?_⟩
          · rw [hform]
            exact zero_notMem_takeWhile input
          · rwa [← Bytes.length_ofText, hform]
          · rw [textForm, hform, List.append_assoc]
            exact eq_append_zero hdrop
        · contradiction
      · contradiction
    · contradiction
  · rintro ⟨⟨hnul, hsize⟩, rfl⟩
    have hinput : textForm text ++ rest = Bytes.ofText text ++ 0 :: rest := by
      rw [textForm, List.append_assoc]
      rfl
    unfold Wire.text
    simp only [hinput, takeWhile_append_zero hnul, List.drop_left, Bytes.text?_ofText]
    rw [Bytes.length_ofText, if_pos hsize]

/-- The end is read if nothing is left. -/
theorem finish_eq_ok_iff {done : Unit} {input rest : Bytes} :
    finish input = .ok (done, rest) ↔ input = [] ∧ rest = [] := by
  unfold finish
  cases input <;> simp [eq_comm]

/-! ## Limits -/

/-- No input is longer than 64 bits can count, so the window reaches past every text that is no
longer than the limit. -/
theorem lt_scanWindow_iff {limit size : Nat} (h : size < Numeral.maxLong) :
    size < scanWindow limit ↔ size ≤ limit := by
  unfold scanWindow
  omega

/-- Two readers do the same on inputs of at most `n` bytes, and leave no more than that. -/
def AgreeUpTo (n : Nat) (p q : Parser α) : Prop :=
  ∀ input, input.length ≤ n →
    p input = q input ∧ ∀ a rest, p input = .ok (a, rest) → rest.length ≤ n

/-- Readers that agree on short inputs make sequences that do: what the first leaves is not
longer. -/
theorem AgreeUpTo.bind {n : Nat} {p p' : Parser α} {q q' : α → Parser β} (hp : AgreeUpTo n p p')
    (hq : ∀ a, AgreeUpTo n (q a) (q' a)) : AgreeUpTo n (p >>= q) (p' >>= q') := by
  -- what the first parser leaves is short enough for the second
  intro input hinput
  obtain ⟨heq, hrest⟩ := hp input hinput
  constructor
  · show (p input >>= fun x => q x.1 x.2) = (p' input >>= fun x => q' x.1 x.2)
    rw [← heq]
    cases hread : p input with
    | error e => rfl
    | ok x =>
      obtain ⟨a, mid⟩ := x
      exact (hq a mid (hrest a mid hread)).1
  · intro b rest hread
    obtain ⟨a, mid, hfirst, hsecond⟩ := bind_eq_ok_iff.1 hread
    exact (hq a mid (hrest a mid hfirst)).2 b rest hsecond

/-- A reader that leaves no more than it is given agrees with itself. -/
theorem AgreeUpTo.refl (n : Nat) {p : Parser α}
    (h : ∀ input a rest, p input = .ok (a, rest) → rest.length ≤ input.length) :
    AgreeUpTo n p p :=
  fun input hinput => ⟨rfl, fun a rest hread => Nat.le_trans (h input a rest hread) hinput⟩

/-- A reader that reads nothing does not depend on the limit. -/
theorem agree_pure (n : Nat) (a : α) : AgreeUpTo n (pure a) (pure a) := by
  refine .refl n fun input b rest h => ?_
  exact Nat.le_of_eq (congrArg List.length (pure_eq_ok_iff.1 h).2.symm)

/-- Nor does a check of what was read. -/
theorem agree_lift (n : Nat) (check : Except ProtocolError α) :
    AgreeUpTo n (liftM check) (liftM check) := by
  refine .refl n fun input b rest h => ?_
  exact Nat.le_of_eq (congrArg List.length (lift_eq_ok_iff.1 h).2.symm)

/-- Nor does a byte. -/
theorem agree_byte (n : Nat) (field : String) : AgreeUpTo n (byte field) (byte field) := by
  refine .refl n fun input b rest h => ?_
  rw [byte_eq_ok_iff.1 h]
  exact Nat.le_succ _

/-- Nor does a word. -/
theorem agree_word (n : Nat) (field : String) : AgreeUpTo n (word field) (word field) := by
  refine .refl n fun input b rest h => ?_
  rw [word_eq_ok_iff.1 h, List.length_append]
  omega

/-- Nor does the end. -/
theorem agree_finish (n : Nat) : AgreeUpTo n finish finish := by
  refine .refl n fun input done rest h => ?_
  rw [(finish_eq_ok_iff.1 h).2]
  exact Nat.zero_le _

/-- A limit that is no shorter than the input makes no difference. -/
theorem agree_text {n limit limit' : Nat} (field : String) (hlimit : n ≤ limit)
    (hlimit' : n ≤ limit') (hn : n ≤ Numeral.maxLong) :
    AgreeUpTo n (Wire.text limit field) (Wire.text limit' field) := by
  intro input hinput
  have hwindow : input.length ≤ scanWindow limit := by unfold scanWindow; omega
  have hwindow' : input.length ≤ scanWindow limit' := by unfold scanWindow; omega
  constructor
  · unfold Wire.text
    simp only
    split
    · rename_i b rest hdrop
      -- both windows reach past the zero
      have hlt : (input.takeWhile (· ≠ 0)).length < input.length := by
        have hlength := congrArg List.length hdrop
        rw [List.length_drop, List.length_cons] at hlength
        omega
      rw [if_pos (by omega), if_pos (by omega)]
    · rw [Nat.min_eq_left hwindow, Nat.min_eq_left hwindow']
  · intro text rest h
    have hlength := congrArg List.length (text_eq_ok_iff.1 h).2
    rw [List.length_append] at hlength
    omega

end Reading

/-! ## Writing -/

/-- A writer that adds the given bytes to whatever is there. -/
def Writes (w : Writer Unit) (form : Bytes) : Prop :=
  ∀ dst, w.run.run dst = (.ok (), dst ++ form)

/-- A writer that fails whatever is there, and leaves what is there as it is. -/
def Fails (w : Writer Unit) : Prop :=
  ∀ dst, ∃ e part, w.run.run dst = (.error e, dst ++ part)

/-- A writer that does nothing writes nothing. -/
theorem writes_pure : Writes (pure ()) [] := by
  intro dst
  rw [List.append_nil]
  rfl

/-- A writer of bytes writes them. -/
theorem writes_write (bytes : Bytes) : Writes (write bytes) bytes :=
  fun _ => rfl

/-- A writer that raises an error fails. -/
theorem fails_throw (e : ProtocolError) : Fails (throw e) :=
  fun dst => ⟨e, [], by rw [List.append_nil]; rfl⟩

/-- The second part of a sequence goes on where the first has stopped, if it has not failed. -/
theorem seq_run (v w : Writer Unit) (dst : Bytes) :
    (do v; w : Writer Unit).run.run dst = match v.run.run dst with
      | (.ok (), mid) => w.run.run mid
      | (.error e, mid) => (.error e, mid) := by
  show (match v.run.run dst with
    | (result, mid) => (ExceptT.bindCont (fun _ => w) result : StateM Bytes _).run mid) = _
  rcases v.run.run dst with ⟨e | ⟨⟨⟩⟩, mid⟩ <;> rfl

/-- A sequence writes what its parts write. -/
theorem Writes.seq {v w : Writer Unit} {a b : Bytes} (hv : Writes v a) (hw : Writes w b) :
    Writes (do v; w) (a ++ b) := by
  intro dst
  rw [seq_run, hv dst]
  show w.run.run (dst ++ a) = _
  rw [hw, List.append_assoc]

/-- A sequence fails with its first part. -/
theorem Fails.seq_left {v : Writer Unit} (hv : Fails v) (w : Writer Unit) :
    Fails (do v; w) := by
  intro dst
  obtain ⟨e, part, h⟩ := hv dst
  exact ⟨e, part, by rw [seq_run, h]⟩

/-- It fails with its second part where the first one writes. -/
theorem Fails.seq_right {v w : Writer Unit} {a : Bytes} (hv : Writes v a) (hw : Fails w) :
    Fails (do v; w) := by
  intro dst
  obtain ⟨e, part, h⟩ := hw (dst ++ a)
  refine ⟨e, a ++ part, ?_⟩
  rw [seq_run, hv dst, ← List.append_assoc]
  exact h

/-- A text without a NUL is written with one behind it. -/
theorem writes_writeText {field text : String} (h : 0 ∉ Bytes.ofText text) :
    Writes (writeText field text) (textForm text) := by
  rw [writeText, putText, if_neg h]
  exact writes_write _

/-- A text with a NUL in it cannot be written. -/
theorem fails_writeText {field text : String} (h : 0 ∈ Bytes.ofText text) :
    Fails (writeText field text) := by
  rw [writeText, putText, if_pos h]
  exact fails_throw _

/-! ### Errors of a writer -/

/-- A writer that raises no other errors than these. -/
def RaisesOnly (fault : ProtocolError → Prop) (w : Writer Unit) : Prop :=
  ∀ dst e part, w.run.run dst = (.error e, part) → fault e

section Raises

variable {fault : ProtocolError → Prop}

/-- A writer that does nothing raises nothing. -/
theorem raisesOnly_pure : RaisesOnly fault (pure ()) := by
  intro dst e part h
  cases h

/-- Nor does a writer of bytes. -/
theorem raisesOnly_write (bytes : Bytes) : RaisesOnly fault (write bytes) := by
  intro dst e part h
  cases h

/-- A writer that raises an error raises this one. -/
theorem raisesOnly_throw {e : ProtocolError} (h : fault e) : RaisesOnly fault (throw e) := by
  intro dst e' part heq
  cases heq
  exact h

/-- The error of a sequence is that of one of its parts. -/
theorem RaisesOnly.seq {v w : Writer Unit} (hv : RaisesOnly fault v) (hw : RaisesOnly fault w) :
    RaisesOnly fault (do v; w) := by
  intro dst e part h
  rw [seq_run] at h
  rcases hrun : v.run.run dst with ⟨e' | ⟨⟨⟩⟩, mid⟩
  · rw [hrun] at h
    cases h
    exact hv dst e part hrun
  · rw [hrun] at h
    exact hw mid e part h

/-- A text raises one error, which names the field. -/
theorem raisesOnly_writeText {field : String} (h : fault (.interiorNul field)) (text : String) :
    RaisesOnly fault (writeText field text) := by
  unfold writeText putText
  by_cases hnul : 0 ∈ Bytes.ofText text
  · rw [if_pos hnul]
    exact raisesOnly_throw h
  · rw [if_neg hnul]
    exact raisesOnly_write _

end Raises

end Wire

end CidrLookup
