import CidrLookup.Bytes
import CidrLookup.Numeral
import CidrLookup.ProtocolError

/-!
# Message fields

Reading and writing the three kinds of field a message is made of: bytes, big-endian words and
texts that end in a NUL. A reader works on the bytes not read yet; a read that fails consumes
nothing. A text may be bounded: its terminator must then stand within the first `limit + 1` bytes.
A writer adds to the bytes written so far; a field that has no written form adds nothing.
-/

namespace CidrLookup.Wire

/-- A step that reads from the front of some bytes and says what is left of them. -/
abbrev Parser := StateT Bytes (Except ProtocolError)

/-- A step that adds to the end of some bytes. What was added before an error stays. -/
abbrev Writer := ExceptT ProtocolError (StateM Bytes)

/-- The longest text a message can hold by default; no record is longer. -/
def defaultTextLimit : Nat := 65536

/-- How many bytes are looked at for the end of a text: the limit and its terminator, as far as
64 bits can count. -/
def scanWindow (limit : Nat) : Nat :=
  min (limit + 1) Numeral.maxLong

/-! ## Reading -/

/-- One byte. -/
def byte (field : String) : Parser UInt8 := fun
  | b :: rest => .ok (b, rest)
  | [] => .error (.truncated field 1 0)

/-- Four bytes as a word. -/
def word (field : String) : Parser UInt32 := fun
  | a :: b :: c :: d :: rest => .ok (Bytes.word a b c d, rest)
  | input => .error (.truncated field 4 input.length)

/-- The bytes before the first NUL as a text, and the NUL with them. The end is looked for before
the bytes are checked to be UTF-8. -/
def text (limit : Nat) (field : String) : Parser String := fun input =>
  let body := input.takeWhile (· ≠ 0)
  match input.drop body.length with
  | _ :: rest =>
    if body.length < scanWindow limit then
      match Bytes.text? body with
      | some text => .ok (text, rest)
      | none => .error (.invalidUtf8 field)
    else .error (.unterminatedText field (min input.length (scanWindow limit)))
  | [] => .error (.unterminatedText field (min input.length (scanWindow limit)))

/-- Nothing may be left. -/
def finish : Parser Unit := fun
  | [] => .ok ((), [])
  | input => .error (.trailingBytes input.length)

/-! ## Writing -/

/-- A text and its terminator; a text that holds a NUL has no written form. -/
def putText (field : String) (text : String) : Except ProtocolError Bytes :=
  let bytes := Bytes.ofText text
  if 0 ∈ bytes then .error (.interiorNul field) else .ok (bytes ++ [0])

/-- Adds bytes at the end. -/
def write (bytes : Bytes) : Writer Unit :=
  modify (· ++ bytes)

/-- Adds the written form of a text at the end. -/
def writeText (field text : String) : Writer Unit :=
  match putText field text with
  | .ok bytes => write bytes
  | .error e => throw e

/-! ## Many reads

A cursor goes on after an error. What a read has taken off the front before it fails stays taken. -/

/-- A read at the front of the bytes not read yet. -/
abbrev Cursor := ExceptT ProtocolError (StateM Bytes)

/-- At least so many bytes must be left. -/
def ensure (field : String) (needed : Nat) : Cursor Unit := do
  let remaining := (← get).length
  if remaining < needed then throw (.truncated field needed remaining)

/-- Takes bytes off the front. -/
def take (count : Nat) : Cursor Bytes :=
  modifyGet (List.splitAt count)

/-- Takes one byte. -/
def takeByte (field : String) : Cursor UInt8 := do
  ensure field 1
  return .ofNat (Bytes.bigEndian (← take 1))

/-- Takes four bytes as a word. -/
def takeWord (field : String) : Cursor UInt32 := do
  ensure field 4
  return .ofNat (Bytes.bigEndian (← take 4))

/-- Takes a text and its NUL, which must stand in the window; the bytes before it are checked to be
UTF-8 before anything is taken. -/
def takeText (limit : Nat) (field : String) : Cursor String := do
  let unread ← get
  let window := min unread.length (scanWindow limit)
  match (unread.take window).idxOf? 0 with
  | none => throw (.unterminatedText field window)
  | some size =>
    match Bytes.text? (unread.take size) with
    | none => throw (.invalidUtf8 field)
    | some text =>
      let _ ← take (size + 1)
      return text

/-- A field to read, with the name that errors call it by. -/
inductive Field where
  | byte (name : String)
  | word (name : String)
  | text (name : String)
deriving DecidableEq, Repr

/-- What was read. -/
inductive Value where
  | byte (value : UInt8)
  | word (value : UInt32)
  | text (value : String)
deriving DecidableEq, Repr

/-- Takes one field. -/
def takeField (limit : Nat) : Field → Cursor Value
  | .byte name => Value.byte <$> takeByte name
  | .word name => Value.word <$> takeWord name
  | .text name => Value.text <$> takeText limit name

/-- The outcome of one read: the value or the error, and how many bytes are left after it. -/
structure Outcome where
  got : Except ProtocolError Value
  remaining : Nat

/-- Reads the fields one after another, going on after an error, and says what is left. -/
def fields (limit : Nat) : List Field → Bytes → List Outcome × Bytes
  | [], unread => ([], unread)
  | f :: more, unread =>
    let (got, rest) := (takeField limit f).run.run unread
    let (outcomes, left) := fields limit more rest
    (⟨got, rest.length⟩ :: outcomes, left)

end CidrLookup.Wire
