import Mathlib.Tactic.SplitIfs
import StateExplorer.Text.Utf8

/-!
# Texts and their bytes

A text is known by its bytes, and texts are in the order of their bytes. The zero character is the only
one with a zero byte, so a zero byte after a text without that character marks its end. An offset that
counts the bytes of a start of a text lies between two of its characters.
-/

namespace StateExplorer.Text

/-- The bytes of a text are those that the text is stored as. -/
theorem toByteArray_eq_bytes (text : String) : text.toByteArray = (bytes text).toByteArray := by
  rw [← String.utf8Encode_toList, bytes, List.utf8Encode]

/-- Texts with the same bytes are the same. -/
theorem bytes_injective : Function.Injective bytes := by
  intro a b h
  apply String.toByteArray_inj.1
  rw [toByteArray_eq_bytes, toByteArray_eq_bytes, h]

/-- No other character than the zero character has a zero byte. -/
theorem zero_not_mem_utf8EncodeChar {c : Char} (h : c ≠ '\x00') :
    (0 : UInt8) ∉ String.utf8EncodeChar c := by
  have hpos : 0 < c.val.toNat := by
    apply Nat.pos_of_ne_zero
    intro hzero
    apply h
    exact Char.ext (UInt32.toNat_inj.1 hzero)
  have hbyte (n : Nat) : (0 : UInt8) = UInt8.ofNat n ↔ n % 256 = 0 := by
    rw [← UInt8.toNat_inj, UInt8.toNat_ofNat']
    simp [eq_comm]
  -- Each length of the encoding has leading bits of its own, none of which are all zero.
  fun_cases String.utf8EncodeChar c with
  | case1 v hv =>
    simp only [List.mem_singleton, hbyte]
    omega
  | case2 v =>
    simp only [List.mem_cons, List.not_mem_nil, or_false, hbyte]
    omega
  | case3 v =>
    simp only [List.mem_cons, List.not_mem_nil, or_false, hbyte]
    omega
  | case4 v =>
    simp only [List.mem_cons, List.not_mem_nil, or_false, hbyte]
    omega

/-- A text without the zero character has no zero byte. -/
theorem zero_not_mem_bytes {text : String} (h : '\x00' ∉ text.toList) : (0 : UInt8) ∉ bytes text := by
  intro hmem
  obtain ⟨c, hc, hbyte⟩ := List.mem_flatMap.1 hmem
  apply zero_not_mem_utf8EncodeChar _ hbyte
  intro hzero
  exact h (hzero ▸ hc)

/-! ### Order -/

/-- Of two numbers the smaller one has the smaller digits to the base of 64. -/
theorem digits_lt {m n : Nat} (h : m < n) :
    m / 262144 < n / 262144 ∨ m / 262144 = n / 262144 ∧
      (m / 4096 % 64 < n / 4096 % 64 ∨ m / 4096 % 64 = n / 4096 % 64 ∧
        (m / 64 % 64 < n / 64 % 64 ∨ m / 64 % 64 = n / 64 % 64 ∧ m % 64 < n % 64)) := by
  rcases Nat.lt_or_ge (m / 262144) (n / 262144) with hlt | hge
  · exact .inl hlt
  refine .inr ⟨by omega, ?_⟩
  rcases Nat.lt_or_ge (m / 4096) (n / 4096) with hlt | hge
  · exact .inl (by omega)
  refine .inr ⟨by omega, ?_⟩
  rcases Nat.lt_or_ge (m / 64) (n / 64) with hlt | hge
  · exact .inl (by omega)
  · exact .inr ⟨by omega, by omega⟩

/-- Of two characters the smaller one has the smaller bytes, whatever follows them. -/
theorem utf8EncodeChar_append_lt {c d : Char} (h : c < d) (before after : List UInt8) :
    String.utf8EncodeChar c ++ before < String.utf8EncodeChar d ++ after := by
  have hlt : c.val.toNat < d.val.toNat := h
  have hbound : d.val.toNat < 0x110000 := by
    rcases d.valid with hlow | hhigh <;> omega
  have hbyte (m n : Nat) (hm : m < 256) (hn : n < 256) : UInt8.ofNat m < UInt8.ofNat n ↔ m < n := by
    rw [UInt8.lt_iff_toNat_lt, UInt8.toNat_ofNat_of_lt' hm, UInt8.toNat_ofNat_of_lt' hn]
  have hsame (m n : Nat) (hm : m < 256) (hn : n < 256) : UInt8.ofNat m = UInt8.ofNat n ↔ m = n := by
    rw [← UInt8.toNat_inj, UInt8.toNat_ofNat_of_lt' hm, UInt8.toNat_ofNat_of_lt' hn]
  have hdigits := digits_lt hlt
  simp only [String.utf8EncodeChar]
  generalize c.val.toNat = m at hlt hdigits ⊢
  generalize d.val.toNat = n at hlt hbound hdigits ⊢
  -- The longer of two encodings begins with the greater byte; those of one length go by the digits.
  split_ifs
  all_goals
    simp (disch := omega) only [List.cons_append, List.nil_append, List.cons_lt_cons_iff, hbyte,
      hsame, Nat.mod_eq_of_lt]
    omega

/-- Of two texts the smaller one has the smaller bytes. -/
theorem bytes_lt_bytes {a b : String} (h : a < b) : bytes a < bytes b := by
  have hchars {cs ds : List Char} (hlt : List.Lex (· < ·) cs ds) :
      cs.flatMap String.utf8EncodeChar < ds.flatMap String.utf8EncodeChar := by
    induction hlt with
    | nil =>
      rename_i d rest
      obtain ⟨byte, more, hd⟩ := List.exists_cons_of_ne_nil (String.utf8EncodeChar_ne_nil (c := d))
      rw [List.flatMap_cons, hd]
      exact List.nil_lt_cons _ _
    | cons _ ih =>
      rw [List.flatMap_cons, List.flatMap_cons]
      exact List.append_left_lt ih
    | rel hlt =>
      rw [List.flatMap_cons, List.flatMap_cons]
      exact utf8EncodeChar_append_lt hlt _ _
  exact hchars h

/-- Texts are in the order of their bytes. -/
theorem bytes_le_bytes_iff {a b : String} : bytes a ≤ bytes b ↔ a ≤ b := by
  constructor
  · intro h
    rw [← String.not_lt]
    exact fun hlt => List.not_lt.2 h (bytes_lt_bytes hlt)
  · intro h
    rcases Decidable.em (a < b) with hlt | hge
    · exact List.le_of_lt (bytes_lt_bytes hlt)
    · rw [String.le_antisymm h (String.not_lt.1 hge)]
      exact List.le_refl _

/-! ### Offsets -/

@[simp] theorem byteLength_nil : byteLength [] = 0 := rfl

@[simp] theorem byteLength_cons (c : Char) (text : List Char) :
    byteLength (c :: text) = c.utf8Size + byteLength text := rfl

/-- The bytes of two texts after one another add up. -/
@[simp] theorem byteLength_append (before after : List Char) :
    byteLength (before ++ after) = byteLength before + byteLength after := by
  induction before with
  | nil => simp
  | cons c before ih => simp [ih, Nat.add_assoc]

/-- Only the empty text has no bytes. -/
theorem byteLength_pos {text : List Char} (h : text ≠ []) : 0 < byteLength text := by
  cases text with
  | nil => exact absurd rfl h
  | cons c rest => exact Nat.lt_of_lt_of_le c.utf8Size_pos (Nat.le_add_right _ _)

/-- Of two starts of a text, one with fewer bytes is a start of the other. -/
theorem exists_append_of_byteLength_lt {before other after more : List Char}
    (htext : before ++ after = other ++ more) (h : byteLength before < byteLength other) :
    ∃ part, part ≠ [] ∧ other = before ++ part ∧ after = part ++ more := by
  rcases List.append_eq_append_iff.1 htext with ⟨part, rfl, hafter⟩ | ⟨part, rfl, -⟩
  · refine ⟨part, ?_, rfl, hafter⟩
    rintro rfl
    simp at h
  · rw [byteLength_append] at h
    omega

/-- The bytes of a text are counted character by character. -/
theorem utf8ByteSize_ofList (text : List Char) :
    (String.ofList text).utf8ByteSize = byteLength text := by
  induction text with
  | nil => rfl
  | cons c rest ih =>
    rw [String.ofList_cons, String.utf8ByteSize_append, ih, String.utf8ByteSize_singleton,
      byteLength_cons]

/-- The end of a start of a text lies between two characters. -/
theorem isValid_byteLength {text : String} {before after : List Char}
    (h : text.toList = before ++ after) : (⟨byteLength before⟩ : String.Pos.Raw).IsValid text := by
  rw [String.Pos.Raw.isValid_iff_exists_append]
  refine ⟨String.ofList before, String.ofList after, ?_, ?_⟩
  · rw [← String.ofList_append, ← h, String.ofList_toList]
  · rw [String.rawEndPos, utf8ByteSize_ofList]

end StateExplorer.Text
