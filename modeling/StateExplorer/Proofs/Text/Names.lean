import StateExplorer.Proofs.Text.Lines
import StateExplorer.Text.Columns
import StateExplorer.Text.Letter

/-!
# Names

A name is a text of letters, digits and underscores of ASCII. No character of a name is blank or
means anything in a query, so names come out of trimming, cutting and splitting as they went in.
A plain word is a name that conditions do not reserve.
-/

namespace StateExplorer.Text

/-- Whether a character is a letter, a digit or an underscore of ASCII. -/
def isNameChar (c : Char) : Bool :=
  c.isAlphanum || c == '_'

/-- Whether a text is one or more letters, digits and underscores. -/
def isName (text : String) : Bool :=
  !text.toList.isEmpty && text.toList.all isNameChar

/-- The names that conditions reserve. -/
def reservedWords : List String := ["none", "and", "or"]

/-- Whether a text is a name that conditions do not reserve. -/
def isPlain (text : String) : Bool :=
  isName text && !reservedWords.contains text

/-- What is checked of every character of a text holds of each of them. To decide it of all characters
that are in the text would be to go through all characters there are. -/
@[elab_as_elim]
theorem of_mem_of_all {p : Char → Prop} [DecidablePred p] {text : List Char}
    (h : (text.all fun c => decide (p c)) = true) {c : Char} (hc : c ∈ text) : p c :=
  of_decide_eq_true (List.all_eq_true.1 h c hc)

/-- A character of a name is none that cannot be in one. -/
theorem ne_of_isNameChar {c d : Char} (hc : isNameChar c = true) (hd : isNameChar d = false) :
    c ≠ d := by
  rintro rfl
  rw [hc] at hd
  cases hd

/-- The code points of the characters of names. -/
theorem toNat_of_isNameChar {c : Char} (h : isNameChar c = true) :
    48 ≤ c.toNat ∧ c.toNat ≤ 57 ∨ 65 ≤ c.toNat ∧ c.toNat ≤ 90 ∨ c.toNat = 95 ∨
      97 ≤ c.toNat ∧ c.toNat ≤ 122 := by
  rcases Bool.or_eq_true_iff.1 h with halphanum | hmark
  · rcases Bool.or_eq_true_iff.1 halphanum with halpha | hdigit
    · rcases Bool.or_eq_true_iff.1 halpha with hupper | hlower
      · exact .inr (.inl (of_decide_eq_true hupper))
      · obtain ⟨ha, hz⟩ := Bool.and_eq_true_iff.1 hlower
        exact .inr (.inr (.inr ⟨of_decide_eq_true ha, of_decide_eq_true hz⟩))
    · obtain ⟨hzero, hnine⟩ := Bool.and_eq_true_iff.1 hdigit
      exact .inl ⟨of_decide_eq_true hzero, of_decide_eq_true hnine⟩
  · obtain rfl : c = '_' := eq_of_beq hmark
    exact .inr (.inr (.inl rfl))

/-- No character of a name is blank. -/
theorem isBlank_of_isNameChar {c : Char} (h : isNameChar c = true) : isBlank c = false := by
  have hcode := toNat_of_isNameChar h
  simp only [isBlank, Bool.or_eq_false_iff, Bool.and_eq_false_iff, decide_eq_false_iff_not,
    beq_eq_false_iff_ne]
  omega

/-- No blank is part of a word. -/
theorem isWordChar_of_isBlank {c : Char} (h : isBlank c = true) : isWordChar c = false := by
  have hcode : c.toNat ∈ [9, 10, 11, 12, 13, 0x20, 0x85, 0xA0, 0x1680, 0x2000, 0x2001, 0x2002,
      0x2003, 0x2004, 0x2005, 0x2006, 0x2007, 0x2008, 0x2009, 0x200A, 0x2028, 0x2029, 0x202F,
      0x205F, 0x3000] := by
    simp only [isBlank, Bool.or_eq_true, Bool.and_eq_true, decide_eq_true_eq, beq_iff_eq] at h
    simp only [List.mem_cons, List.not_mem_nil, or_false]
    omega
  have hranges : ∀ n ∈ [9, 10, 11, 12, 13, 0x20, 0x85, 0xA0, 0x1680, 0x2000, 0x2001, 0x2002,
      0x2003, 0x2004, 0x2005, 0x2006, 0x2007, 0x2008, 0x2009, 0x200A, 0x2028, 0x2029, 0x202F,
      0x205F, 0x3000], inRanges alphanumericRanges n = false := by
    decide +kernel
  have hmark : c ≠ '_' := by
    rintro rfl
    exact absurd h (by decide)
  simp [isWordChar, isAlphanumeric, hranges _ hcode, hmark]

/-- The characters of a name. -/
theorem isNameChar_of_isName {text : String} (h : isName text = true) :
    ∀ c ∈ text.toList, isNameChar c = true := by
  simp only [isName, Bool.and_eq_true, List.all_eq_true] at h
  exact h.2

/-- No character of a name is one of two that cannot be in one. -/
theorem ne_and_ne_of_isName {text : String} (h : isName text = true) {d e : Char}
    (hd : isNameChar d = false) (he : isNameChar e = false) : ∀ c ∈ text.toList, c ≠ d ∧ c ≠ e :=
  fun c hc => ⟨ne_of_isNameChar (isNameChar_of_isName h c hc) hd,
    ne_of_isNameChar (isNameChar_of_isName h c hc) he⟩

/-- A name is not empty. -/
theorem ne_nil_of_isName {text : String} (h : isName text = true) : text.toList ≠ [] := by
  simp only [isName, Bool.and_eq_true, Bool.not_eq_true', List.isEmpty_eq_false_iff] at h
  exact h.1

/-- A plain word is a name. -/
theorem isName_of_isPlain {text : String} (h : isPlain text = true) : isName text = true := by
  simp only [isPlain, Bool.and_eq_true] at h
  exact h.1

/-- A plain word is not reserved. -/
theorem not_mem_reservedWords {text : String} (h : isPlain text = true) :
    text ∉ reservedWords := by
  simp only [isPlain, Bool.and_eq_true, Bool.not_eq_true', List.contains_eq_mem,
    decide_eq_false_iff_not] at h
  exact h.2

/-! ### Names pass through -/

/-- There is nothing to trim where no character is blank. -/
theorem trim_eq_self {text : List Char} (h : ∀ c ∈ text, isBlank c = false) : trim text = text :=
  trim_eq_self_iff.2
    ⟨fun c hc => h c (List.mem_of_mem_head? hc), fun c hc => h c (List.mem_of_mem_getLast? hc)⟩

/-- A text without arrows is one column. -/
theorem columns_of_not_arrow {text : List Char} (h : ¬['-', '>'] <:+: text) :
    columns text = [text] := by
  induction text with
  | nil => rfl
  | cons c rest ih =>
    rw [List.infix_cons_iff, not_or] at h
    rw [columns.eq_3 c rest, ih h.2]
    intro after hc hrest
    exact h.1 ⟨after, by rw [hc, hrest]; rfl⟩

/-- A text without dashes is one column. -/
theorem columns_eq_singleton {text : List Char} (h : '-' ∉ text) : columns text = [text] :=
  columns_of_not_arrow fun harrow => h (harrow.subset List.mem_cons_self)

/-- A text without arrows is the first column before an arrow. -/
theorem columns_append_arrow {text : List Char} (h : ¬['-', '>'] <:+: text) (rest : List Char) :
    columns (text ++ '-' :: '>' :: rest) = text :: columns rest := by
  induction text with
  | nil => exact columns.eq_2 rest
  | cons c text ih =>
    rw [List.infix_cons_iff, not_or] at h
    rw [List.cons_append, columns.eq_3, ih h.2]
    intro after hc hrest
    cases text with
    | nil => simp at hrest
    | cons d text =>
      obtain ⟨rfl, -⟩ := List.cons.inj hrest
      exact h.1 ⟨text, by rw [hc]; rfl⟩

/-- The needle is cut out where it comes first, if the text before it has not its first
character. -/
theorem cut?_append {first : Char} {needle before after : List Char} (h : first ∉ before) :
    cut? (first :: needle) (before ++ (first :: needle) ++ after) = some (before, after) := by
  induction before with
  | nil =>
    have hdrop : dropStart? (first :: needle) (first :: needle ++ after) = some after :=
      dropStart?_eq_some_iff.2 rfl
    rw [List.nil_append, List.cons_append, cut?, ← List.cons_append, hdrop]
  | cons c before ih =>
    rw [List.mem_cons, not_or] at h
    have hdrop (rest : List Char) : dropStart? (first :: needle) (c :: rest) = none := by
      rw [dropStart?, if_neg h.1]
    rw [List.cons_append, List.cons_append, cut?, hdrop, ih h.2]
    rfl

/-- The text is cut at its last mark. -/
theorem cutLast?_append {mark : Char} (before : List Char) {after : List Char} (h : mark ∉ after) :
    cutLast? mark (before ++ mark :: after) = some (before, after) := by
  have hnone (t : List Char) (ht : mark ∉ t) : cutLast? mark t = none := by
    induction t with
    | nil => rfl
    | cons c rest ih =>
      rw [List.mem_cons, not_or] at ht
      rw [cutLast?, ih ht.2]
      exact if_neg (Ne.symm ht.1)
  induction before with
  | nil =>
    rw [List.nil_append, cutLast?, hnone after h]
    exact if_pos rfl
  | cons c before ih =>
    rw [List.cons_append, cutLast?, ih]

end StateExplorer.Text
