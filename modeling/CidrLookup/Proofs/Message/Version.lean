import CidrLookup.Message.Decode
import CidrLookup.Proofs.Wire

/-!
# Messages of another version

The version is the first byte of a message and is looked at before anything else. A fatal error
therefore says one thing: `decode_fatal_iff` is the equivalence with a first byte that is not the
version of this library, whatever follows it. Every other reader is `Mild`.
-/

namespace CidrLookup

namespace Wire

variable {α β : Type}

/-- A reader whose errors leave the rest of the connection readable. -/
def Mild (p : Parser α) : Prop :=
  ∀ input e, p input = .error e → ¬ e.isFatal

/-- What follows a mild parser mildly is mild. -/
theorem Mild.bind {p : Parser α} {q : α → Parser β} (hp : Mild p) (hq : ∀ a, Mild (q a)) :
    Mild (p >>= q) := by
  intro input e h
  rcases bind_eq_error_iff.1 h with hfirst | ⟨a, mid, -, hsecond⟩
  · exact hp input e hfirst
  · exact hq a mid e hsecond

theorem mild_pure (a : α) : Mild (pure a) := by
  intro input e h
  contradiction

/-- A check is mild if its errors are. -/
theorem mild_lift {check : Except ProtocolError α} (h : ∀ e, check = .error e → ¬ e.isFatal) :
    Mild (liftM check) := by
  intro input e hread
  cases hcheck : check with
  | error e' =>
    rw [hcheck] at hread
    have heq : e' = e := Except.error.inj hread
    exact heq ▸ h e' hcheck
  | ok a =>
    rw [hcheck] at hread
    contradiction

theorem mild_byte (field : String) : Mild (byte field) := by
  intro input e h
  cases input with
  | nil =>
    cases h
    exact Bool.false_ne_true
  | cons => contradiction

theorem mild_word (field : String) : Mild (word field) := by
  intro input e h
  unfold word at h
  split at h
  · contradiction
  · cases h; exact Bool.false_ne_true

theorem mild_text (limit : Nat) (field : String) : Mild (text limit field) := by
  intro input e h
  unfold text at h
  simp only at h
  split at h
  · split at h
    · split at h
      · contradiction
      · cases h; exact Bool.false_ne_true
    · cases h; exact Bool.false_ne_true
  · cases h; exact Bool.false_ne_true

theorem mild_finish : Mild finish := by
  intro input e h
  cases input with
  | nil => contradiction
  | cons => cases h; exact Bool.false_ne_true

end Wire

namespace Message

open Wire (Mild)

/-- A frame of another protocol version: there is a first byte, and it is another one. -/
def IsForeign (frame : Bytes) : Prop :=
  ∃ version rest, frame = version :: rest ∧ version ≠ protocolVersion

/-! ## The header -/

/-- A tag that is not known is no reason to give up. -/
theorem mild_ofTag (tag : UInt8) : ∀ e, Kind.ofTag tag = .error e → ¬ e.isFatal := by
  intro e h
  unfold Kind.ofTag at h
  split at h <;> cases h
  exact Bool.false_ne_true

/-- A foreign version is refused before anything else is read. -/
theorem readHeader_of_version_ne {version : UInt8} (h : version ≠ protocolVersion) (rest : Bytes) :
    readHeader (version :: rest) = .error (.versionMismatch version) := by
  show (if version ≠ protocolVersion then throw (.versionMismatch version) else _ : Wire.Parser _)
    rest = _
  rw [if_pos h]
  rfl

/-- The only fatal error of the header is a foreign version. -/
theorem isForeign_of_readHeader {input : Bytes} {e : ProtocolError}
    (h : readHeader input = .error e) (hfatal : e.isFatal) : IsForeign input := by
  cases input with
  | nil =>
    cases h
    contradiction
  | cons version rest =>
    refine ⟨version, rest, rfl, ?_⟩
    rintro rfl
    -- after the right version only the kind can be wrong
    have hkind : Mild (Wire.byte "variant" >>= fun tag => liftM (Kind.ofTag tag)) :=
      (Wire.mild_byte _).bind fun tag => Wire.mild_lift (mild_ofTag tag)
    exact hkind rest e h hfatal

/-! ## The fields -/

theorem mild_pairs (limit count : Nat) : Mild (readPairs limit count) := by
  induction count with
  | zero => exact Wire.mild_pure []
  | succ count ih =>
    refine (Wire.mild_text limit _).bind fun key => ?_
    refine (Wire.mild_text limit _).bind fun value => ?_
    exact ih.bind fun more => Wire.mild_pure _

theorem mild_range : Mild readRange := by
  refine (Wire.mild_word _).bind fun network => ?_
  refine (Wire.mild_word _).bind fun maskLen => Wire.mild_lift fun e h => ?_
  unfold Cidr.make at h
  split at h <;> cases h
  exact Bool.false_ne_true

theorem mild_fields (limit : Nat) (kind : Kind) : Mild (readFields limit kind) := by
  cases kind with
  | established =>
    refine (Wire.mild_word _).bind fun rateLimit => ?_
    refine (Wire.mild_word _).bind fun treeSize => ?_
    refine (Wire.mild_word _).bind fun cacheTtl => ?_
    refine (Wire.mild_word _).bind fun peerTtl => ?_
    exact (Wire.mild_text limit _).bind fun banner => Wire.mild_pure _
  | identify => exact (Wire.mild_text limit _).bind fun token => Wire.mild_pure _
  | request =>
    refine (Wire.mild_word _).bind fun address => ?_
    refine (Wire.mild_byte _).bind fun count => ?_
    exact (mild_pairs limit _).bind fun pairs => Wire.mild_pure _
  | found =>
    refine (Wire.mild_word _).bind fun address => ?_
    exact mild_range.bind fun range => Wire.mild_pure _
  | notFound => exact (Wire.mild_word _).bind fun address => Wire.mild_pure _
  | failure =>
    refine (Wire.mild_byte _).bind fun code => ?_
    exact (Wire.mild_text limit _).bind fun text => Wire.mild_pure _

/-! ## Messages -/

/-- A message of a foreign version is refused for it. -/
theorem decode_of_version_ne (limit : Nat) {version : UInt8} (h : version ≠ protocolVersion)
    (rest : Bytes) : decode limit (version :: rest) = .error (.versionMismatch version) := by
  rw [decode, StateT.run, Wire.bind_eq_error_iff.2 (.inl (readHeader_of_version_ne h rest))]
  rfl

/-- **Only another version is fatal.** A message is refused with a fatal error if and only if its
first byte is another version, whatever follows that byte and whatever the limit is. -/
theorem decode_fatal_iff (limit : Nat) {frame : Bytes} :
    (∃ e, decode limit frame = .error e ∧ e.isFatal) ↔ IsForeign frame := by
  have hfst {result : Except ProtocolError (Message × Bytes)} {e : ProtocolError} :
      Prod.fst <$> result = .error e ↔ result = .error e := by
    cases result <;> simp [Functor.map, Except.map]
  constructor
  -- the error comes from the header or from what follows, which is mild
  · rintro ⟨e, hdecode, hfatal⟩
    rw [decode, hfst] at hdecode
    rcases Wire.bind_eq_error_iff.1 hdecode with hheader | ⟨kind, rest, -, hbody⟩
    · exact isForeign_of_readHeader hheader hfatal
    · have hmild : Mild (do let message ← readFields limit kind; Wire.finish; return message) :=
        (mild_fields limit kind).bind fun message =>
          Wire.mild_finish.bind fun _ => Wire.mild_pure message
      exact absurd hfatal (hmild rest e hbody)
  · rintro ⟨version, rest, rfl, hversion⟩
    exact ⟨.versionMismatch version, decode_of_version_ne limit hversion rest, rfl⟩

end Message

end CidrLookup
