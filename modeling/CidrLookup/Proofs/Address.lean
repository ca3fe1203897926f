import CidrLookup.Address
import CidrLookup.Proofs.Numeral

/-!
# Addresses and their texts

The text of an address has the four groups of the address in it, so no two addresses have the same
text. `Spells` is the grammar of the texts that are read as addresses, stated without the reader; an
address has several of them, and the one that is written for it is `format`.
-/

namespace CidrLookup.Address

/-- A number is known from its digits. -/
theorem digits_injective {m n : Nat} (h : Numeral.digits m = Numeral.digits n) : m = n := by
  have hvalue := congrArg (fun digits => Nat.ofDigitChars 10 digits 0) h
  simpa [Numeral.digits, Nat.ofDigitChars_ten_toDigits] using hvalue

/-- A dot is no digit. -/
theorem dot_notMem_digits (n : Nat) : '.' ∉ Numeral.digits n := by
  intro h
  have hdigit := Nat.isDigit_of_mem_toDigits (by decide) (by decide) h
  contradiction

/-- The groups of the text are the digits of the octets. -/
theorem groups_format (address : Address) :
    address.format.toList.splitOn '.' = address.octets.map fun o => Numeral.digits o.toNat := by
  rw [format, String.toList_ofList]
  apply List.splitOn_intercalate
  · intro group hgroup
    obtain ⟨octet, -, rfl⟩ := List.mem_map.1 hgroup
    exact dot_notMem_digits _
  · simp [octets, Bytes.ofWord]

/-- An address has four octets, which make it up. -/
theorem exists_octets (address : Address) :
    ∃ a b c d, address.octets = [a, b, c, d] ∧ ofOctets a b c d = address :=
  ⟨_, _, _, _, rfl, congrArg mk (Bytes.word_ofWord address.bits)⟩

/-- An address is known from its octets. -/
theorem octets_injective {a b : Address} (h : a.octets = b.octets) : a = b := by
  obtain ⟨x, y, z, w, ha, haddress⟩ := exists_octets a
  obtain ⟨x', y', z', w', hb, haddress'⟩ := exists_octets b
  rw [ha, hb] at h
  cases h
  exact haddress.symm.trans haddress'

/-- No two addresses have the same text. -/
theorem format_injective {a b : Address} (h : a.format = b.format) : a = b := by
  have hgroups : a.octets.map (fun o => Numeral.digits o.toNat)
      = b.octets.map fun o => Numeral.digits o.toNat := by
    rw [← groups_format, ← groups_format, h]
  have hoctet (x y : UInt8) (hdigits : Numeral.digits x.toNat = Numeral.digits y.toNat) : x = y :=
    UInt8.toNat_inj.1 (digits_injective hdigits)
  exact octets_injective ((List.map_inj_right hoctet).1 hgroups)

/-! ## The grammar -/

/-- A group of a dotted quad: one to three digits with a value of at most 255. -/
structure IsGroup (group : List Char) (value : Nat) : Prop where
  hdenotes : Numeral.Denotes group value
  hlength : group.length ≤ 3
  hvalue : value ≤ 255

/-- The texts of an address: four groups, a dot between each two, the first group in the highest
eight bits. -/
inductive Spells : String → Address → Prop where
  | quad {a b c d : List Char} {w x y z : Nat} {address : Address} (ha : IsGroup a w)
      (hb : IsGroup b x) (hc : IsGroup c y) (hd : IsGroup d z)
      (hbits : address.bits.toNat = ((w * 256 + x) * 256 + y) * 256 + z) :
      Spells (.ofList (a ++ '.' :: b ++ '.' :: c ++ '.' :: d)) address

/-- There is no dot in a group. -/
theorem IsGroup.dot_notMem {group : List Char} {value : Nat} (h : IsGroup group value) :
    '.' ∉ group := by
  intro hdot
  have hdigit := h.hdenotes.hdigits '.' hdot
  contradiction

/-- The digits of an octet are a group. -/
theorem isGroup_digits (octet : UInt8) : IsGroup (Numeral.digits octet.toNat) octet.toNat := by
  have hlt := octet.toNat_lt
  refine ⟨Numeral.denotes_digits _, ?_, by omega⟩
  apply (Nat.length_toDigits_le_iff (by decide) (by decide)).2
  omega

/-- The reader of a group takes the groups, and nothing else. -/
theorem octet?_eq_some_iff {group : List Char} {octet : UInt8} :
    octet? group = some octet ↔ IsGroup group octet.toNat := by
  unfold octet?
  constructor
  · intro h
    split at h
    · rename_i hlength
      split at h
      · rename_i n hn
        obtain ⟨hdenotes, hmax⟩ := Numeral.unsigned_eq_ok_iff.1 hn
        cases h
        -- the bound that the reader has checked is that of an octet
        have hoctet : (UInt8.ofNat n).toNat = n := by
          rw [UInt8.toNat_ofNat']
          omega
        rw [hoctet]
        exact ⟨hdenotes, hlength, hmax⟩
      · contradiction
    · contradiction
  · rintro ⟨hdenotes, hlength, hvalue⟩
    rw [if_pos hlength, Numeral.unsigned_eq_ok_iff.2 ⟨hdenotes, hvalue⟩]
    simp

/-- The value of a group is an octet. -/
theorem IsGroup.exists_octet {group : List Char} {value : Nat} (h : IsGroup group value) :
    ∃ octet, octet? group = some octet ∧ octet.toNat = value := by
  have hvalue : (UInt8.ofNat value).toNat = value := by
    have hmax := h.hvalue
    rw [UInt8.toNat_ofNat']
    omega
  refine ⟨.ofNat value, ?_, hvalue⟩
  rw [octet?_eq_some_iff, hvalue]
  exact h

/-- The number of an address is written by its octets to base 256. -/
theorem ofOctets_eq_iff {a b c d : UInt8} {address : Address} :
    ofOctets a b c d = address
      ↔ address.bits.toNat = ((a.toNat * 256 + b.toNat) * 256 + c.toNat) * 256 + d.toNat := by
  have ha := a.toNat_lt
  have hb := b.toNat_lt
  have hc := c.toNat_lt
  have hd := d.toNat_lt
  obtain ⟨bits⟩ := address
  simp only [ofOctets, Bytes.word, mk.injEq, ← UInt32.toNat_inj, UInt32.toNat_ofNat']
  omega

/-! ## Reading -/

/-- Four groups with dots between them. -/
theorem intercalate_dot (a b c d : List Char) :
    List.intercalate ['.'] [a, b, c, d] = a ++ '.' :: b ++ '.' :: c ++ '.' :: d := by
  simp [List.intercalate]

/-- A text has four given parts between its dots if it is these parts with dots between them. -/
theorem splitOn_eq_iff {text a b c d : List Char} (ha : '.' ∉ a) (hb : '.' ∉ b) (hc : '.' ∉ c)
    (hd : '.' ∉ d) :
    text.splitOn '.' = [a, b, c, d] ↔ text = a ++ '.' :: b ++ '.' :: c ++ '.' :: d := by
  constructor
  · intro h
    have htext : List.intercalate ['.'] (text.splitOn '.') = text := List.intercalate_splitOn '.'
    rw [h, intercalate_dot] at htext
    exact htext.symm
  · rintro rfl
    rw [← intercalate_dot]
    exact List.splitOn_intercalate '.' (by simp [ha, hb, hc, hd]) (by simp)

/-- The reader takes the texts that spell an address, and reads that address. -/
theorem parse?_eq_some_iff {text : String} {address : Address} :
    parse? text = some address ↔ Spells text address := by
  unfold parse?
  constructor
  · intro h
    split at h
    -- four groups that all were read: the dots stand between them and nowhere in them
    · rename_i w x y z hgroups
      cases h
      obtain ⟨a, _, hsplit, ha, hgroups⟩ := List.map_eq_cons_iff.1 hgroups
      obtain ⟨b, _, rfl, hb, hgroups⟩ := List.map_eq_cons_iff.1 hgroups
      obtain ⟨c, _, rfl, hc, hgroups⟩ := List.map_eq_cons_iff.1 hgroups
      obtain ⟨d, _, rfl, hd, hgroups⟩ := List.map_eq_cons_iff.1 hgroups
      obtain rfl := List.map_eq_nil_iff.1 hgroups
      rw [octet?_eq_some_iff] at ha hb hc hd
      rw [splitOn_eq_iff ha.dot_notMem hb.dot_notMem hc.dot_notMem hd.dot_notMem] at hsplit
      rw [← text.ofList_toList, hsplit]
      exact .quad ha hb hc hd (ofOctets_eq_iff.1 rfl)
    · contradiction
  -- four groups with dots between them: split at the dots, each has its octet
  · rintro @⟨a, b, c, d, _, _, _, _, address, ha, hb, hc, hd, hbits⟩
    have hsplit := (splitOn_eq_iff ha.dot_notMem hb.dot_notMem hc.dot_notMem hd.dot_notMem).2 rfl
    obtain ⟨w, hw, rfl⟩ := ha.exists_octet
    obtain ⟨x, hx, rfl⟩ := hb.exists_octet
    obtain ⟨y, hy, rfl⟩ := hc.exists_octet
    obtain ⟨z, hz, rfl⟩ := hd.exists_octet
    rw [String.toList_ofList, hsplit]
    simp only [List.map_cons, List.map_nil, hw, hx, hy, hz, ofOctets_eq_iff.2 hbits]

/-- A text is read as the address that it spells. -/
theorem parse_eq_ok_iff {text : String} {address : Address} :
    parse text = .ok address ↔ Spells text address := by
  rw [← parse?_eq_some_iff, parse]
  cases parse? text <;> simp

/-- A text that spells no address is refused, and the error has the text in it. -/
theorem parse_eq_error_iff {text : String} {e : ProtocolError} :
    parse text = .error e ↔ (∀ address, ¬ Spells text address) ∧ e = .invalidAddress text := by
  simp only [← parse?_eq_some_iff, parse]
  cases parse? text <;> simp [eq_comm]

/-! ## Writing and reading again -/

/-- The text written for an address spells it. -/
theorem spells_format (address : Address) : Spells address.format address := by
  obtain ⟨a, b, c, d, hoctets, haddress⟩ := exists_octets address
  rw [format, hoctets]
  simp only [List.map_cons, List.map_nil, intercalate_dot]
  exact .quad (isGroup_digits a) (isGroup_digits b) (isGroup_digits c) (isGroup_digits d)
    (ofOctets_eq_iff.1 haddress)

/-- An address is read back from its text. -/
theorem parse_format (address : Address) : parse address.format = .ok address :=
  parse_eq_ok_iff.2 (spells_format address)

/-- The normal form of a text is the text of its address. -/
theorem normalize_of_parse {text : String} {address : Address} (h : parse text = .ok address) :
    normalize text = .ok address.format := by
  rw [normalize, h]
  rfl

/-- **Dotted quads.** A text is read as an address exactly if it spells it, and refused with the
text itself exactly if it spells none. Every address is read back from the text written for it, so
normalizing once is enough, and two texts are normalized alike exactly if they spell one address. -/
theorem dotted_quads_are_read (text : String) :
    (∀ address, parse text = .ok address ↔ Spells text address)
      ∧ (∀ e, parse text = .error e
          ↔ (∀ address, ¬ Spells text address) ∧ e = .invalidAddress text)
      ∧ (∀ address, parse (format address) = .ok address)
      ∧ (normalize text).bind normalize = normalize text
      ∧ ∀ other a b, parse text = .ok a → parse other = .ok b →
          (normalize text = normalize other ↔ a = b) := by
  refine ⟨fun _ => parse_eq_ok_iff, fun _ => parse_eq_error_iff, parse_format, ?_, ?_⟩
  -- what has no normal form has none twice; a normal form is the text of an address
  · cases hparse : parse text with
    | error e =>
      rw [normalize, hparse]
      rfl
    | ok address =>
      rw [normalize_of_parse hparse]
      exact normalize_of_parse (parse_format address)
  · intro other a b ha hb
    rw [normalize_of_parse ha, normalize_of_parse hb, Except.ok.injEq]
    exact ⟨format_injective, congrArg format⟩

/-- Leading zeros make another text of the same address. -/
theorem leading_zeros_are_dropped :
    Spells "010.001.000.007" ⟨0x0A010007⟩ ∧ normalize "010.001.000.007" = .ok "10.1.0.7"
      ∧ normalize "010.001.000.007" = normalize "10.1.0.7" := by
  have hpadded : parse "010.001.000.007" = .ok ⟨0x0A010007⟩ := by rfl
  have hplain : parse "10.1.0.7" = .ok ⟨0x0A010007⟩ := by rfl
  obtain ⟨hread, -, -, -, halike⟩ := dotted_quads_are_read "010.001.000.007"
  refine ⟨(hread _).1 hpadded, ?_, (halike _ _ _ hpadded hplain).2 rfl⟩
  rw [normalize_of_parse hpadded]
  rfl

end CidrLookup.Address
