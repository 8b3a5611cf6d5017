import Mathlib.Algebra.Group.Nat.Defs
import Mathlib.Data.List.Basic
import StateExplorer.Proofs.Text.Utf8
import StateExplorer.State.Fingerprint

/-!
# What a fingerprint is taken of

The bytes that a digest is taken of can be read back where no text holds the zero character: a zero
byte then ends each name and each value, and eight bytes in between tell how many values there are.
So fields with the same bytes are the same, and states of different content share a fingerprint only
where the digest of different bytes is the same. With a zero character in a value the bytes do not
tell where the value ends.
-/

namespace StateExplorer.Fingerprint

/-- Whether zero bytes mark the ends of a field's name and of its values, and eight bytes can tell how
many values there are. -/
structure Delimited (entry : String × List String) : Prop where
  name : '\x00' ∉ entry.1.toList
  values : ∀ v ∈ entry.2, '\x00' ∉ v.toList
  count : entry.2.length < 2 ^ 64

instance (entry : String × List String) : Decidable (Delimited entry) :=
  decidable_of_iff ('\x00' ∉ entry.1.toList ∧ (∀ v ∈ entry.2, '\x00' ∉ v.toList) ∧
      entry.2.length < 2 ^ 64)
    ⟨fun ⟨hname, hvalues, hcount⟩ => ⟨hname, hvalues, hcount⟩,
      fun ⟨hname, hvalues, hcount⟩ => ⟨hname, hvalues, hcount⟩⟩

/-- The end of a text without the zero character is found, whatever follows it. -/
theorem terminated_append_injective {a b : String} {more others : List UInt8}
    (ha : '\x00' ∉ a.toList) (hb : '\x00' ∉ b.toList)
    (h : terminated a ++ more = terminated b ++ others) : a = b ∧ more = others := by
  have hstart {text : String} (htext : '\x00' ∉ text.toList) (after : List UInt8) :
      (Text.bytes text ++ 0 :: after).takeWhile (· != 0) = Text.bytes text := by
    rw [List.takeWhile_append_of_pos]
    · simp
    · intro byte hbyte
      simp only [bne_iff_ne, ne_eq]
      intro hzero
      exact Text.zero_not_mem_bytes htext (hzero ▸ hbyte)
  simp only [terminated, List.append_assoc, List.singleton_append] at h
  have hbytes := congrArg (List.takeWhile (· != 0)) h
  rw [hstart ha, hstart hb] at hbytes
  obtain rfl := Text.bytes_injective hbytes
  exact ⟨rfl, by simpa using h⟩

/-- The bytes of a number are its digits to the base of 256. -/
theorem littleEndian64_eq (n : Nat) :
    littleEndian64 n = (List.range 8).map fun i => UInt8.ofNat (n / 256 ^ i) := by
  simp [littleEndian64, List.range, List.range.loop, Nat.shiftRight_eq_div_pow]

/-- Eight bytes tell a number that fits into them. -/
theorem littleEndian64_injective {m n : Nat} (hm : m < 2 ^ 64) (hn : n < 2 ^ 64)
    (h : littleEndian64 m = littleEndian64 n) : m = n := by
  rw [littleEndian64_eq, littleEndian64_eq, List.map_inj_left] at h
  have hdigits : ∀ k ≤ 8, m % 256 ^ k = n % 256 ^ k := by
    intro k hk
    induction k with
    | zero => simp [Nat.mod_one]
    | succ k ih =>
      have hdigit := congrArg UInt8.toNat (h k (List.mem_range.2 hk))
      rw [UInt8.toNat_ofNat', UInt8.toNat_ofNat'] at hdigit
      rw [Nat.mod_pow_succ, Nat.mod_pow_succ, ih (by omega), hdigit]
  have hlow := hdigits 8 (Nat.le_refl 8)
  rwa [Nat.mod_eq_of_lt (by omega), Nat.mod_eq_of_lt (by omega)] at hlow

/-- A number is told by as many bytes as any other. -/
theorem length_littleEndian64 (n : Nat) : (littleEndian64 n).length = 8 := rfl

/-- As many values as are known to follow are read back, whatever follows them. -/
theorem flatMap_terminated_append_injective {values others : List String} {more rest : List UInt8}
    (hvalues : ∀ v ∈ values, '\x00' ∉ v.toList) (hothers : ∀ v ∈ others, '\x00' ∉ v.toList)
    (hlength : values.length = others.length)
    (h : values.flatMap terminated ++ more = others.flatMap terminated ++ rest) :
    values = others ∧ more = rest := by
  induction values generalizing others with
  | nil =>
    cases others with
    | nil => exact ⟨rfl, h⟩
    | cons w others => simp at hlength
  | cons v values ih =>
    cases others with
    | nil => simp at hlength
    | cons w others =>
      simp only [List.forall_mem_cons] at hvalues hothers
      simp only [List.flatMap_cons, List.append_assoc] at h
      obtain ⟨rfl, hrest⟩ := terminated_append_injective hvalues.1 hothers.1 h
      obtain ⟨rfl, hmore⟩ := ih hvalues.2 hothers.2 (by simpa using hlength) hrest
      exact ⟨rfl, hmore⟩

/-- A field is read back, whatever follows it. -/
theorem encodeField_append_injective {a b : String × List String} {more rest : List UInt8}
    (ha : Delimited a) (hb : Delimited b)
    (h : encodeField a.1 a.2 ++ more = encodeField b.1 b.2 ++ rest) : a = b ∧ more = rest := by
  simp only [encodeField, List.append_assoc] at h
  obtain ⟨hname, h⟩ := terminated_append_injective ha.name hb.name h
  obtain ⟨hcount, h⟩ := List.append_inj h (by rw [length_littleEndian64, length_littleEndian64])
  have hlength := littleEndian64_injective ha.count hb.count hcount
  obtain ⟨hvalues, hmore⟩ := flatMap_terminated_append_injective ha.values hb.values hlength h
  exact ⟨Prod.ext hname hvalues, hmore⟩

/-- Fields are read back one after another. -/
theorem flatMap_encodeField_injective {entries others : List (String × List String)}
    (hentries : ∀ entry ∈ entries, Delimited entry) (hothers : ∀ entry ∈ others, Delimited entry)
    (h : (entries.flatMap fun entry => encodeField entry.1 entry.2) =
      others.flatMap fun entry => encodeField entry.1 entry.2) : entries = others := by
  have hne (entry : String × List String) (rest : List UInt8) :
      encodeField entry.1 entry.2 ++ rest ≠ [] := by
    simp [encodeField, terminated]
  induction entries generalizing others with
  | nil =>
    cases others with
    | nil => rfl
    | cons entry others => exact absurd h.symm (hne entry _)
  | cons entry entries ih =>
    cases others with
    | nil => exact absurd h (hne entry _)
    | cons other others =>
      rw [List.forall_mem_cons] at hentries hothers
      obtain ⟨rfl, hrest⟩ := encodeField_append_injective hentries.1 hothers.1 h
      rw [ih hentries.2 hothers.2 hrest]

/-- Fields with the same bytes are the same, where the bytes can be read back. -/
theorem encode_injective {a b : NameMap (List String)} (ha : ∀ entry ∈ a.entries, Delimited entry)
    (hb : ∀ entry ∈ b.entries, Delimited entry) (h : encode a = encode b) : a = b :=
  NameMap.ext (flatMap_encodeField_injective ha hb h)

/-! ### Shared fingerprints -/

/-- Whether the digest takes two byte lists for one. -/
def Collide (a b : List UInt8) : Prop :=
  a ≠ b ∧ Sha256.digest a = Sha256.digest b

/-- Fingerprints are equal if what is hashed is the same or collides. -/
theorem ofFields_eq_iff {a b : NameMap (List String)} :
    ofFields a = ofFields b ↔ encode a = encode b ∨ Collide (encode a) (encode b) := by
  rw [ofFields, ofFields, Fingerprint.mk.injEq, Collide]
  constructor
  · intro hdigest
    by_cases hbytes : encode a = encode b
    · exact .inl hbytes
    · exact .inr ⟨hbytes, hdigest⟩
  · rintro (hbytes | hcollide)
    · exact congrArg Sha256.digest hbytes
    · exact hcollide.2

/-- Where no text holds the zero character and a word can tell how many values each field has, in
whatever order they are, fields have the same bytes exactly if they are the same. So fields have the
same fingerprint, and states have, only if they are the same or their bytes collide. -/
theorem encode_eq_encode_iff {a b : NameMap (List String)}
    (ha : ∀ entry ∈ a.entries, Delimited entry) (hb : ∀ entry ∈ b.entries, Delimited entry) :
    (encode a = encode b ↔ a = b) ∧
      (ofFields a = ofFields b ↔ a = b ∨ Collide (encode a) (encode b)) ∧
      ∀ s t : State, s.fields = a → t.fields = b →
        (s.fingerprint = t.fingerprint ↔ s = t ∨ Collide (encode a) (encode b)) := by
  have hbytes : encode a = encode b ↔ a = b := ⟨encode_injective ha hb, congrArg encode⟩
  have hprint : ofFields a = ofFields b ↔ a = b ∨ Collide (encode a) (encode b) := by
    rw [ofFields_eq_iff, hbytes]
  refine ⟨hbytes, hprint, ?_⟩
  rintro s t rfl rfl
  rw [State.fingerprint, State.fingerprint, hprint]
  exact or_congr_left ⟨State.ext, congrArg State.fields⟩

/-- A state with the letters of a name and its value, and an empty field. -/
def splitEarly : State :=
  .ofFields (.ofList [("a", ["c", "bc"]), ("b", [])])

/-- A state with the same letters, of which the name has one more. -/
def splitLate : State :=
  .ofFields (.ofList [("ab", ["c", "c"]), ("b", [])])

/-- The boundary between a name and its values is told, so only a collision of the digest could give
the two states one fingerprint. -/
theorem encode_eq_encode_iff_split :
    (∀ entry ∈ splitEarly.fields.entries, Delimited entry) ∧
      (∀ entry ∈ splitLate.fields.entries, Delimited entry) ∧
      encode splitEarly.fields ≠ encode splitLate.fields ∧
      (splitEarly.fingerprint = splitLate.fingerprint ↔
        Collide (encode splitEarly.fields) (encode splitLate.fields)) := by
  have hearly : ∀ entry ∈ splitEarly.fields.entries, Delimited entry := by decide +kernel
  have hlate : ∀ entry ∈ splitLate.fields.entries, Delimited entry := by decide +kernel
  have hfields : splitEarly.fields ≠ splitLate.fields := by decide +kernel
  obtain ⟨hbytes, -, hstates⟩ := encode_eq_encode_iff hearly hlate
  refine ⟨hearly, hlate, mt hbytes.1 hfields, ?_⟩
  rw [hstates splitEarly splitLate rfl rfl]
  exact or_iff_right (mt (congrArg State.fields) hfields)

end StateExplorer.Fingerprint
