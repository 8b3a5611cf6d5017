/-!
# Finding one text in another

`cut?` splits a text around the first occurrence of a needle and `cutLast?` around the last
occurrence of a character. Both return the pieces, so an offset is the length of a piece and
never leaves the text.
-/

namespace StateExplorer.Text

/-- The text after a given start, if the text starts so. -/
def dropStart? : List Char → List Char → Option (List Char)
  | [], text => some text
  | _ :: _, [] => none
  | s :: start, c :: text => if s = c then dropStart? start text else none

/-- A start is dropped exactly from the texts that have it. -/
theorem dropStart?_eq_some_iff {start text rest : List Char} :
    dropStart? start text = some rest ↔ text = start ++ rest := by
  induction start generalizing text with
  | nil => simp [dropStart?]
  | cons s start ih =>
    cases text with
    | nil => simp [dropStart?]
    | cons c text =>
      by_cases h : s = c
      · simp [dropStart?, h, ih]
      · simp [dropStart?, h, Ne.symm h]

/-- The text before a given end, if the text ends so. -/
def dropEnd? (ending text : List Char) : Option (List Char) :=
  (dropStart? ending.reverse text.reverse).map List.reverse

/-- What stands before and after the first occurrence of the needle. -/
def cut? (needle : List Char) : List Char → Option (List Char × List Char)
  | [] => if needle.isEmpty then some ([], []) else none
  | c :: rest =>
    match dropStart? needle (c :: rest) with
    | some after => some ([], after)
    | none => (cut? needle rest).map fun (before, after) => (c :: before, after)

/-- Cutting loses nothing but the needle. -/
theorem eq_of_cut? {needle text before after : List Char}
    (h : cut? needle text = some (before, after)) : text = before ++ needle ++ after := by
  induction text generalizing before after with
  | nil =>
    simp only [cut?] at h
    split at h <;> simp_all
  | cons c rest ih =>
    simp only [cut?] at h
    split at h
    · rename_i found hfound
      have hsplit := dropStart?_eq_some_iff.1 hfound
      simp_all
    · obtain ⟨⟨b, a⟩, hcut, heq⟩ := Option.map_eq_some_iff.1 h
      simp only [Prod.mk.injEq] at heq
      obtain ⟨rfl, rfl⟩ := heq
      simp [ih hcut]

/-- Whether the needle occurs in the text. -/
def hasInfix (needle text : List Char) : Bool :=
  (cut? needle text).isSome

/-- What stands before and after the last occurrence of the character. -/
def cutLast? (mark : Char) : List Char → Option (List Char × List Char)
  | [] => none
  | c :: rest =>
    match cutLast? mark rest with
    | some (before, after) => some (c :: before, after)
    | none => if c = mark then some ([], rest) else none

/-- Cutting at the last mark loses nothing but the mark. -/
theorem eq_of_cutLast? {mark : Char} {text before after : List Char}
    (h : cutLast? mark text = some (before, after)) : text = before ++ mark :: after := by
  induction text generalizing before after with
  | nil => simp [cutLast?] at h
  | cons c rest ih =>
    simp only [cutLast?] at h
    split at h
    · rename_i b a hcut
      simp only [Option.some.injEq, Prod.mk.injEq] at h
      obtain ⟨rfl, rfl⟩ := h
      simp [ih hcut]
    · split at h <;> simp_all

end StateExplorer.Text
