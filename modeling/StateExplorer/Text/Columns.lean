/-!
# Columns of a value

A value of a relation has several columns with an arrow between them, as in `A->B`.
-/

namespace StateExplorer.Text

/-- The columns of a value. A value without arrows has one. -/
def columns : List Char → List (List Char)
  | [] => [[]]
  | '-' :: '>' :: rest => [] :: columns rest
  | c :: rest =>
    match columns rest with
    | [] => [[c]]
    | column :: more => (c :: column) :: more

/-- There is always a first column. -/
theorem columns_ne_nil (value : List Char) : columns value ≠ [] := by
  fun_induction columns value <;> simp

/-- The columns of a value, written with arrows between them, are the value. -/
theorem intercalate_columns (value : List Char) :
    ['-', '>'].intercalate (columns value) = value := by
  fun_induction columns value with
  | case1 => rfl
  | case2 rest ih =>
    obtain ⟨column, more, h⟩ := List.exists_cons_of_ne_nil (columns_ne_nil rest)
    rw [h] at ih ⊢
    simp [List.intercalate_cons_cons, ih]
  | case3 c rest _ h => exact absurd h (columns_ne_nil rest)
  | case4 c rest _ column more h ih =>
    rw [h] at ih
    cases more with
    | nil => simpa [List.intercalate] using ih
    | cons next more =>
      rw [List.intercalate_cons_cons] at ih ⊢
      simp [← ih]

end StateExplorer.Text
