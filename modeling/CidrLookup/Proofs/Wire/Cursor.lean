import CidrLookup.Proofs.Wire

/-!
# Reads that go on after an error

A cursor keeps what a failed read has done to it, so nothing but the order of its steps says that a
failed read does nothing. `Reads` lists the ways a read can end, with the bytes it takes; every
failure takes none. A run of reads is then the reads that succeed and nothing else:
`failed_reads_leave_no_trace`.

The readers of messages stop at the first error instead. They are the same readers up to there:
`takeByte_run`, `takeWord_run` and `takeText_run`.
-/

namespace CidrLookup.Wire

/-! ## Steps of a cursor -/

section Steps

variable {α β : Type}

/-- Where the first of two steps fails, the second does not happen, and what the first has done
stays. -/
theorem bind_run (p : Cursor α) (q : α → Cursor β) (unread : Bytes) :
    (p >>= q).run.run unread = match p.run.run unread with
      | (.ok a, rest) => (q a).run.run rest
      | (.error e, rest) => (.error e, rest) := by
  show (match p.run.run unread with
    | (result, rest) => (ExceptT.bindCont q result : StateM Bytes _).run rest) = _
  rcases p.run.run unread with ⟨e | a, rest⟩ <;> rfl

/-- What is made of a value is no matter of the cursor. -/
theorem map_run (g : α → β) (p : Cursor α) (unread : Bytes) :
    (g <$> p).run.run unread = ((p.run.run unread).1.map g, (p.run.run unread).2) := by
  rw [map_eq_pure_bind, bind_run]
  rcases p.run.run unread with ⟨e | a, rest⟩ <;> rfl

/-- A look at the bytes moves nothing. -/
theorem get_run (unread : Bytes) : (get : Cursor Bytes).run.run unread = (.ok unread, unread) :=
  rfl

/-- The check that bytes are there moves nothing, whatever it finds. -/
theorem ensure_run (field : String) (needed : Nat) (unread : Bytes) :
    (ensure field needed).run.run unread
      = (if unread.length < needed then .error (.truncated field needed unread.length)
          else .ok (), unread) := by
  show (if unread.length < needed then throw _ else pure () : Cursor Unit).run.run unread = _
  split <;> rfl

/-- Bytes that are taken are gone. -/
theorem take_run (count : Nat) (unread : Bytes) :
    (take count).run.run unread = (.ok (unread.take count), unread.drop count) := by
  show (Except.ok (unread.splitAt count).1, (unread.splitAt count).2) = _
  rw [List.splitAt_eq]

/-- What a reader that stops at an error does to a cursor: where it fails, it does nothing. -/
def attempt (p : Parser α) (unread : Bytes) : Except ProtocolError α × Bytes :=
  match p unread with
  | .ok (a, rest) => (.ok a, rest)
  | .error e => (.error e, unread)

/-- The cursor reads a byte as the reader of messages does, and stays where it was if there is
none. -/
theorem takeByte_run (field : String) (unread : Bytes) :
    (takeByte field).run.run unread = attempt (byte field) unread := by
  rw [takeByte, bind_run, ensure_run]
  cases unread with
  | nil => rfl
  | cons b rest =>
    rw [if_neg (by simp)]
    simp only [bind_run, take_run]
    show (Except.ok (UInt8.ofNat (Bytes.bigEndian [b])), rest) = (.ok b, rest)
    simp [Bytes.bigEndian]

/-- The error of a word tells how many bytes there are. -/
theorem word_of_length_lt {field : String} {unread : Bytes} (h : unread.length < 4) :
    word field unread = .error (.truncated field 4 unread.length) := by
  unfold word
  split
  · simp only [List.length_cons] at h
    omega
  · rfl

/-- The cursor reads a word as the reader of messages does, and stays where it was if it is cut
short. -/
theorem takeWord_run (field : String) (unread : Bytes) :
    (takeWord field).run.run unread = attempt (word field) unread := by
  rw [takeWord, bind_run, ensure_run]
  by_cases h : unread.length < 4
  · rw [if_pos h, attempt, word_of_length_lt h]
  · rw [if_neg h]
    match unread, h with
    | a :: b :: c :: d :: rest, _ =>
      simp only [bind_run, take_run]
      show (Except.ok (UInt32.ofNat (Bytes.bigEndian [a, b, c, d])), rest) = _
      rw [Bytes.ofNat_bigEndian]
      rfl
    | [], h | [_], h | [_, _], h | [_, _, _], h => exact absurd (by simp) h

end Steps

/-! ## Texts

Whether a text ends within the window is a matter of the bytes alone, and each reader is computed on
either shape of them. -/

/-- The bytes have no NUL in the window, or they are split at the first one. -/
theorem window_cases (limit : Nat) (unread : Bytes) :
    0 ∉ unread.take (scanWindow limit)
      ∨ ∃ body rest, unread = body ++ 0 :: rest ∧ 0 ∉ body ∧ body.length < scanWindow limit := by
  by_cases hzero : 0 ∈ unread.take (scanWindow limit)
  · obtain ⟨body, rest, hsplit, hbody⟩ := List.eq_append_cons_of_mem hzero
    refine .inr ⟨body, rest ++ unread.drop (scanWindow limit), ?_, hbody, ?_⟩
    · rw [← List.cons_append, ← List.append_assoc, ← hsplit, List.take_append_drop]
    · have hlength := congrArg List.length hsplit
      simp only [List.length_take, List.length_append, List.length_cons] at hlength
      omega
  · exact .inl hzero

/-- A window that is wide enough has all of a text with its NUL. -/
theorem take_append_zero {body rest : Bytes} {window : Nat} (h : body.length < window) :
    (body ++ 0 :: rest).take window = body ++ 0 :: rest.take (window - body.length - 1) := by
  rw [List.take_append, List.take_of_length_le (by omega), List.take_cons (by omega)]

/-- The first NUL stands behind the text. -/
theorem idxOf?_append_zero {body : Bytes} (h : 0 ∉ body) (rest : Bytes) :
    (body ++ 0 :: rest).idxOf? 0 = some body.length := by
  induction body with
  | nil => rfl
  | cons b more ih =>
    rw [List.mem_cons, not_or] at h
    rw [List.cons_append, List.idxOf?_cons, ih h.2]
    simp [Ne.symm h.1]

section Text

variable {limit : Nat} {field : String} {unread body rest : Bytes}

/-- A text is looked for in the window, and taken only when it is found and can be read. -/
theorem takeText_eq (limit : Nat) (field : String) (unread : Bytes) :
    (takeText limit field).run.run unread
      = match (unread.take (scanWindow limit)).idxOf? 0 with
        | none =>
          (.error (.unterminatedText field (min unread.length (scanWindow limit))), unread)
        | some size =>
          match Bytes.text? (unread.take size) with
          | none => (.error (.invalidUtf8 field), unread)
          | some text => (.ok text, unread.drop (size + 1)) := by
  rw [List.take_eq_take_min, Nat.min_comm, takeText, bind_run]
  simp only [get_run]
  cases (unread.take (min unread.length (scanWindow limit))).idxOf? 0 with
  | none => rfl
  | some size =>
    simp only
    cases Bytes.text? (unread.take size) with
    | none => rfl
    | some text =>
      simp only [bind_run, take_run]
      rfl

/-- Without a NUL in the window nothing is taken. -/
theorem takeText_of_open (h : 0 ∉ unread.take (scanWindow limit)) :
    (takeText limit field).run.run unread
      = (.error (.unterminatedText field (min unread.length (scanWindow limit))), unread) := by
  rw [takeText_eq, List.idxOf?_eq_none_iff.2 h]

/-- With one, the text is taken with its NUL, unless its bytes are no text. -/
theorem takeText_of_terminated (hbody : 0 ∉ body) (hlength : body.length < scanWindow limit) :
    (takeText limit field).run.run (body ++ 0 :: rest)
      = match Bytes.text? body with
        | none => (.error (.invalidUtf8 field), body ++ 0 :: rest)
        | some text => (.ok text, rest) := by
  have hrest : (body ++ 0 :: rest).drop (body.length + 1) = rest := by
    simp [← List.drop_drop]
  rw [takeText_eq, take_append_zero hlength, idxOf?_append_zero hbody]
  simp only [List.take_left, hrest]

/-- The reader of messages looks through the same window. -/
theorem text_of_open (h : 0 ∉ unread.take (scanWindow limit)) :
    text limit field unread
      = .error (.unterminatedText field (min unread.length (scanWindow limit))) := by
  -- a terminator that the parser finds would be beyond the window
  have hlong (b : UInt8) (rest : Bytes)
      (hdrop : unread.drop (unread.takeWhile (· ≠ 0)).length = b :: rest) :
      ¬ (unread.takeWhile (· ≠ 0)).length < scanWindow limit := by
    intro hlt
    rw [eq_append_zero hdrop, take_append_zero hlt] at h
    exact h (by simp)
  unfold text
  simp only
  split
  · rename_i hdrop
    rw [if_neg (hlong _ _ hdrop)]
  · rfl

/-- It finds the same text in it. -/
theorem text_of_terminated (hbody : 0 ∉ body) (hlength : body.length < scanWindow limit) :
    text limit field (body ++ 0 :: rest)
      = match Bytes.text? body with
        | none => .error (.invalidUtf8 field)
        | some text => .ok (text, rest) := by
  unfold text
  simp only [takeWhile_append_zero hbody, List.drop_left, if_pos hlength]
  cases Bytes.text? body <;> rfl

/-- The cursor reads a text as the reader of messages does, and stays where it was if it fails. -/
theorem takeText_run (limit : Nat) (field : String) (unread : Bytes) :
    (takeText limit field).run.run unread = attempt (text limit field) unread := by
  obtain hopen | ⟨body, rest, rfl, hbody, hlength⟩ := window_cases limit unread
  · rw [takeText_of_open hopen, attempt, text_of_open hopen]
  · rw [takeText_of_terminated hbody hlength, attempt, text_of_terminated hbody hlength]
    cases Bytes.text? body <;> rfl

end Text

/-! ## The ways a read can end -/

/-- How many bytes the written form of a value has. -/
def Value.width : Value → Nat
  | .byte _ => 1
  | .word _ => 4
  | .text value => value.utf8ByteSize + 1

/-- How a read of a field ends, and the bytes that it takes. -/
inductive Reads (limit : Nat) (unread : Bytes) :
    Field → Except ProtocolError Value → Bytes → Prop where
  | byte {name : String} (b : UInt8) : Reads limit unread (.byte name) (.ok (.byte b)) [b]
  | word {name : String} (n : UInt32) :
      Reads limit unread (.word name) (.ok (.word n)) (Bytes.ofWord n)
  | text {name text : String} {form : Bytes} (hnul : '\x00' ∉ text.toList)
      (hsize : text.utf8ByteSize ≤ limit) (hform : putText name text = .ok form) :
      Reads limit unread (.text name) (.ok (.text text)) form
  | noByte {name : String} (hshort : unread.length < 1) :
      Reads limit unread (.byte name) (.error (.truncated name 1 unread.length)) []
  | shortWord {name : String} (hshort : unread.length < 4) :
      Reads limit unread (.word name) (.error (.truncated name 4 unread.length)) []
  /-- No NUL stands in the window. -/
  | unterminated {name : String} (hopen : 0 ∉ unread.take (scanWindow limit)) :
      Reads limit unread (.text name)
        (.error (.unterminatedText name (min unread.length (scanWindow limit)))) []
  /-- The bytes before the NUL are no text. -/
  | notUtf8 {name : String} {body rest : Bytes} (hunread : unread = body ++ 0 :: rest)
      (hbody : 0 ∉ body) (hsize : body.length ≤ limit) (htext : Bytes.text? body = none) :
      Reads limit unread (.text name) (.error (.invalidUtf8 name)) []

/-- The window has room for the NUL behind the longest text. -/
theorem le_of_lt_scanWindow {limit size : Nat} (h : size < scanWindow limit) : size ≤ limit := by
  unfold scanWindow at h
  omega

/-- **One read.** -/
theorem takeField_reads (limit : Nat) (f : Field) (unread : Bytes) :
    ∃ got taken rest, (takeField limit f).run.run unread = (got, rest) ∧ unread = taken ++ rest
      ∧ Reads limit unread f got taken := by
  -- one case for each kind of field, and in each the ways in which the read may end
  cases f with
  | byte name =>
    rw [takeField, map_run, takeByte_run]
    cases unread with
    | nil => exact ⟨_, [], [], rfl, rfl, .noByte (by simp)⟩
    | cons b rest => exact ⟨_, [b], rest, rfl, rfl, .byte b⟩
  | word name =>
    rw [takeField, map_run, takeWord_run, attempt]
    by_cases hshort : unread.length < 4
    · rw [word_of_length_lt hshort]
      exact ⟨_, [], unread, rfl, rfl, .shortWord hshort⟩
    · match unread, hshort with
      | a :: b :: c :: d :: rest, _ =>
        refine ⟨_, Bytes.ofWord (Bytes.word a b c d), rest, rfl, ?_, .word _⟩
        rw [Bytes.ofWord_word]
        rfl
      | [], h | [_], h | [_, _], h | [_, _, _], h => exact absurd (by simp) h
  | text name =>
    rw [takeField, map_run]
    obtain hopen | ⟨body, rest, rfl, hbody, hlength⟩ := window_cases limit unread
    · rw [takeText_of_open hopen]
      exact ⟨_, [], unread, rfl, rfl, .unterminated hopen⟩
    · rw [takeText_of_terminated hbody hlength]
      have hsize := le_of_lt_scanWindow hlength
      cases htext : Bytes.text? body with
      | none => exact ⟨_, [], _, rfl, rfl, .notUtf8 rfl hbody hsize htext⟩
      | some text =>
        obtain rfl := Bytes.ofText_of_text? htext
        rw [Bytes.length_ofText] at hsize
        rw [Bytes.zero_mem_ofText_iff] at hbody
        refine ⟨_, textForm text, rest, rfl, ?_, .text hbody hsize ?_⟩
        · rw [textForm, List.append_assoc]
          rfl
        · rw [putText, if_neg (mt (Bytes.zero_mem_ofText_iff text).1 hbody)]
          rfl

namespace Reads

variable {limit : Nat} {unread taken : Bytes} {f : Field}

/-- **Failed reads.** A read that fails takes nothing. -/
theorem eq_nil_of_error {e : ProtocolError} (h : Reads limit unread f (.error e) taken) :
    taken = [] := by
  cases h <;> rfl

/-- A read that succeeds takes as many bytes as its value has. -/
theorem length_of_ok {value : Value} (h : Reads limit unread f (.ok value) taken) :
    taken.length = value.width := by
  cases h with
  | byte | word => rfl
  | text hnul _ hform =>
    rw [putText, if_neg (mt (Bytes.zero_mem_ofText_iff _).1 hnul)] at hform
    cases hform
    simp [Value.width]

end Reads

/-! ## Runs -/

/-- A read is followed by those behind it, on what it has left. -/
theorem fields_cons {limit : Nat} {f : Field} {unread rest : Bytes}
    {got : Except ProtocolError Value} (h : (takeField limit f).run.run unread = (got, rest))
    (more : List Field) :
    fields limit (f :: more) unread
      = (⟨got, rest.length⟩ :: (fields limit more rest).1, (fields limit more rest).2) := by
  rw [fields, h]

/-- A run of reads may be cut anywhere. -/
theorem fields_append (limit : Nat) (front back : List Field) (unread : Bytes) :
    fields limit (front ++ back) unread
      = ((fields limit front unread).1 ++ (fields limit back (fields limit front unread).2).1,
          (fields limit back (fields limit front unread).2).2) := by
  induction front generalizing unread with
  | nil => rfl
  | cons f more ih =>
    rw [List.cons_append, fields_cons rfl, fields_cons rfl, ih]
    rfl

/-- Every read has an outcome. -/
theorem length_fields (limit : Nat) (reads : List Field) (unread : Bytes) :
    (fields limit reads unread).1.length = reads.length := by
  induction reads generalizing unread with
  | nil => rfl
  | cons f more ih => rw [fields_cons rfl, List.length_cons, ih, List.length_cons]

/-- What is left is the end of what there was. -/
theorem fields_suffix (limit : Nat) (reads : List Field) (unread : Bytes) :
    (fields limit reads unread).2 <:+ unread := by
  induction reads generalizing unread with
  | nil => exact List.suffix_rfl
  | cons f more ih =>
    obtain ⟨got, taken, rest, hread, rfl, -⟩ := takeField_reads limit f unread
    rw [fields_cons hread]
    exact (ih rest).trans (List.suffix_append taken rest)

/-- Whether a read gave a value. -/
def Outcome.succeeds (outcome : Outcome) : Bool :=
  outcome.got.isOk

/-- Reads that fail can be left out. -/
theorem fields_filter (limit : Nat) {keep : Field × Outcome → Bool}
    (hkeep : ∀ read, read.2.succeeds → keep read) (reads : List Field) (unread : Bytes) :
    let kept := (reads.zip (fields limit reads unread).1).filter keep
    fields limit (kept.map Prod.fst) unread
      = (kept.map Prod.snd, (fields limit reads unread).2) := by
  induction reads generalizing unread with
  | nil => rfl
  | cons f more ih =>
    obtain ⟨got, taken, rest, hread, hunread, hreads⟩ := takeField_reads limit f unread
    rw [fields_cons hread]
    simp only [List.zip_cons_cons, List.filter_cons]
    by_cases hkept : keep (f, ⟨got, rest.length⟩)
    · rw [if_pos hkept]
      rw [List.map_cons, fields_cons hread, ih rest]
      rfl
    · rw [if_neg hkept]
      -- a read that is left out failed, and so took nothing
      cases got with
      | ok value => exact absurd (hkeep _ rfl) hkept
      | error e =>
        obtain rfl := hreads.eq_nil_of_error
        obtain rfl : unread = rest := hunread
        exact ih unread

/-- **Failed reads leave no trace.** Whatever is read from whatever bytes, with whatever limit: each
read finds a suffix of the input and ends in one of the ways that `Reads` lists. A value takes its
written form off the front, so many bytes as it is wide, and an error takes nothing. So reads that
fail can be left out, all of them or some: the other reads come to the same, and the same bytes are
left to `finish`. -/
theorem failed_reads_leave_no_trace (limit : Nat) (reads : List Field) (input : Bytes) :
    (∀ front f back, reads = front ++ f :: back →
      let unread := (fields limit front input).2
      let rest := (fields limit (front ++ [f]) input).2
      ∃ got taken, (fields limit reads input).1[front.length]? = some ⟨got, rest.length⟩
        ∧ unread <:+ input ∧ unread = taken ++ rest ∧ Reads limit unread f got taken
        ∧ (∀ value, got = .ok value → taken.length = value.width)
        ∧ ∀ e, got = .error e → rest = unread)
      ∧ (fields limit reads input).1.length = reads.length
      ∧ (fields limit reads input).2 <:+ input
      ∧ ∀ keep : Field × Outcome → Bool, (∀ read, read.2.succeeds → keep read) →
          let kept := (reads.zip (fields limit reads input).1).filter keep
          fields limit (kept.map Prod.fst) input
            = (kept.map Prod.snd, (fields limit reads input).2) := by
  refine ⟨?_, length_fields limit reads input, fields_suffix limit reads input,
    fun keep hkeep => fields_filter limit hkeep reads input⟩
  rintro front f back rfl unread rest
  -- what is left by the reads in front decides this read, and those behind do not
  obtain ⟨got, taken, rest', hread, hunread, hreads⟩ := takeField_reads limit f unread
  have hrest : rest = rest' := by
    show (fields limit (front ++ [f]) input).2 = rest'
    rw [fields_append, fields_cons hread]
    rfl
  rw [hrest]
  refine ⟨got, taken, ?_, fields_suffix limit front input, hunread, hreads, ?_, ?_⟩
  · rw [fields_append, fields_cons hread, ← length_fields limit front input,
      List.getElem?_append_right (Nat.le_refl _), Nat.sub_self]
    rfl
  · rintro value rfl
    exact hreads.length_of_ok
  · rintro e rfl
    rw [hunread, hreads.eq_nil_of_error, List.nil_append]

/-- A text that is no text and a byte past the end: what is read around them is read without
them. -/
theorem unreadable_fields_are_invisible :
    let input : Bytes := [7, 255, 0, 97, 98, 0]
    let reads : List Field := [.byte "a", .text "b", .word "c", .text "d", .byte "e"]
    (fields 1 reads input).1.map Outcome.remaining = [5, 5, 1, 0, 0]
      ∧ (fields 1 [.byte "a", .word "c", .text "d"] input).1.map Outcome.remaining = [5, 1, 0] := by
  intro input reads
  obtain ⟨-, -, -, hdrop⟩ := failed_reads_leave_no_trace 1 reads input
  have hkept := hdrop (fun read => read.2.succeeds) fun _ h => h
  simp only at hkept
  have hreads : ((reads.zip (fields 1 reads input).1).filter
      fun read => read.2.succeeds).map Prod.fst = [.byte "a", .word "c", .text "d"] := by
    decide +kernel
  rw [hreads] at hkept
  refine ⟨by decide +kernel, ?_⟩
  rw [hkept]
  decide +kernel

end CidrLookup.Wire
