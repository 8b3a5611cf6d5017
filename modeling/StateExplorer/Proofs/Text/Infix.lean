import Mathlib.Data.List.Infix
import StateExplorer.Text.Search

/-!
# Texts in other texts

A needle that lacks some character is found on one side of that character or the other, never
across it. So a long text is searched piece by piece, and a needle is cut out of the first piece
that holds it.
-/

namespace StateExplorer.Text

variable {needle : List Char} {c : Char}

/-- A needle that lacks a character begins no text across that character. -/
theorem prefix_append_cons_iff (hc : c ∉ needle) (before after : List Char) :
    needle <+: before ++ c :: after ↔ needle <+: before := by
  refine ⟨fun h => ?_, fun h => h.trans (List.prefix_append before _)⟩
  induction before generalizing needle with
  | nil =>
    cases needle with
    | nil => exact List.nil_prefix
    | cons d needle =>
      obtain ⟨rfl, -⟩ := List.cons_prefix_cons.1 h
      exact absurd List.mem_cons_self hc
  | cons e before ih =>
    cases needle with
    | nil => exact List.nil_prefix
    | cons d needle =>
      obtain ⟨rfl, hrest⟩ := List.cons_prefix_cons.1 h
      have hneedle : c ∉ needle := fun hmem => hc (List.mem_cons_of_mem _ hmem)
      exact List.cons_prefix_cons.2 ⟨rfl, ih hneedle hrest⟩

/-- A needle that lacks a character occurs before or after that character. -/
theorem infix_append_cons_iff (hc : c ∉ needle) {before after : List Char} :
    needle <:+: before ++ c :: after ↔ needle <:+: before ∨ needle <:+: after := by
  induction before with
  | nil =>
    have hfirst := prefix_append_cons_iff hc [] after
    rw [List.nil_append] at hfirst
    rw [List.nil_append, List.infix_cons_iff, hfirst, List.prefix_nil, List.infix_nil]
  | cons d before ih =>
    have hfirst := prefix_append_cons_iff hc (d :: before) after
    rw [List.cons_append] at hfirst
    rw [List.cons_append, List.infix_cons_iff, hfirst, ih, List.infix_cons_iff, or_assoc]

/-- A needle that begins otherwise occurs after the first character only. -/
theorem infix_cons_iff_of_ne {d : Char} (h : d ≠ c) {rest text : List Char} :
    d :: rest <:+: c :: text ↔ d :: rest <:+: text := by
  simp [List.infix_cons_iff, h]

/-- A needle that ends otherwise occurs before the last character only. -/
theorem infix_concat_iff_of_ne {d : Char} (h : d ≠ c) {start text : List Char} :
    start ++ [d] <:+: text ++ [c] ↔ start ++ [d] <:+: text := by
  rw [List.infix_concat_iff, or_iff_right_iff_imp]
  rintro ⟨before, hbefore⟩
  rw [← List.append_assoc] at hbefore
  exact absurd (by simpa using (List.append_inj' hbefore rfl).2) h

/-- A text with fewer occurrences of a character does not hold the needle. -/
theorem not_infix_of_count_lt (c : Char) {text : List Char} (h : text.count c < needle.count c) :
    ¬needle <:+: text :=
  fun hoccurs => absurd (hoccurs.sublist.count_le c) (by omega)

/-- A text without a character of the needle does not hold the needle. -/
theorem not_infix_of_not_mem (hc : c ∈ needle) {text : List Char} (h : c ∉ text) :
    ¬needle <:+: text :=
  fun hoccurs => h (hoccurs.subset hc)

/-! ### Searching -/

/-- A start is dropped from the texts that begin with it. -/
theorem dropStart?_eq_none_iff {start text : List Char} :
    dropStart? start text = none ↔ ¬start <+: text := by
  rw [Option.eq_none_iff_forall_ne_some]
  constructor
  · rintro h ⟨rest, hrest⟩
    exact h rest (dropStart?_eq_some_iff.2 hrest.symm)
  · rintro h rest hrest
    exact h ⟨rest, (dropStart?_eq_some_iff.1 hrest).symm⟩

/-- A search finds a needle where it occurs. -/
theorem hasInfix_iff {text : List Char} : hasInfix needle text = true ↔ needle <:+: text := by
  induction text with
  | nil =>
    rw [hasInfix, cut?, List.infix_nil]
    cases needle <;> simp
  | cons c rest ih =>
    rw [hasInfix] at ih ⊢
    rw [cut?, List.infix_cons_iff, ← ih]
    cases hdrop : dropStart? needle (c :: rest) with
    | some after =>
      have hfirst : needle <+: c :: rest := ⟨after, (dropStart?_eq_some_iff.1 hdrop).symm⟩
      simp [hfirst]
    | none => simp [dropStart?_eq_none_iff.1 hdrop]

/-- A search finds nothing where the needle does not occur. -/
theorem hasInfix_eq_false_iff {text : List Char} :
    hasInfix needle text = false ↔ ¬needle <:+: text := by
  rw [← hasInfix_iff, Bool.not_eq_true]

/-- Where the needle does not occur before a character that it lacks, it is cut out after that
character. -/
theorem cut?_append_cons (hc : c ∉ needle) {before : List Char} (h : ¬needle <:+: before)
    (after : List Char) :
    cut? needle (before ++ c :: after) =
      (cut? needle after).map fun (b, a) => (before ++ c :: b, a) := by
  induction before with
  | nil =>
    have hfirst : ¬needle <+: c :: after := fun hfirst =>
      h (((prefix_append_cons_iff hc [] after).1 hfirst).isInfix)
    rw [List.nil_append, cut?, dropStart?_eq_none_iff.2 hfirst]
    rfl
  | cons d before ih =>
    have hfirst : ¬needle <+: (d :: before) ++ c :: after := fun hfirst =>
      h (((prefix_append_cons_iff hc (d :: before) after).1 hfirst).isInfix)
    have hbefore : ¬needle <:+: before := fun hbefore => h (List.infix_cons hbefore)
    rw [List.cons_append] at hfirst ⊢
    rw [cut?, dropStart?_eq_none_iff.2 hfirst, ih hbefore]
    cases cut? needle after <;> rfl

end StateExplorer.Text
