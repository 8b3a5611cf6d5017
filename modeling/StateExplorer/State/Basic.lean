import StateExplorer.NameMap

/-!
# States of a transition system

A state gives each field of its schema a list of values. The list is kept in ascending order, so
states that hold the same values are equal however the values came in. Adding a value to a field
that the state does not have changes nothing.
-/

namespace StateExplorer

/-- A field of the state signature; one of arity two holds pairs, and so on. -/
structure Field where
  name : String
  arity : Nat
deriving DecidableEq

/-- A field declared with an arity, which is at least one. -/
def Field.declare (name : String) (arity : Nat) : Field :=
  ⟨name, max arity 1⟩

/-- The fields that the states of a system have, in declaration order. -/
abbrev Schema := List Field

namespace Schema

/-- The first field of the name. -/
def field? (schema : Schema) (name : String) : Option Field :=
  schema.find? (·.name == name)

/-- Whether a field of the name is declared. -/
def declares (schema : Schema) (name : String) : Bool :=
  schema.any (·.name == name)

/-- The names of the fields. -/
def names (schema : Schema) : List String :=
  schema.map (·.name)

/-- A name is declared if it is that of a field. -/
theorem declares_iff {schema : Schema} {name : String} :
    schema.declares name = true ↔ name ∈ schema.names := by
  simp [declares, names]

end Schema

/-- Puts a value before the first one that is not smaller. -/
def insertValue (value : String) : List String → List String
  | [] => [value]
  | v :: rest => if v < value then v :: insertValue value rest else value :: v :: rest

/-- Insertion adds the value and loses none. -/
theorem insertValue_perm (value : String) (values : List String) :
    (insertValue value values).Perm (value :: values) := by
  induction values with
  | nil => exact .refl _
  | cons v rest ih =>
    simp only [insertValue]
    split
    · exact (ih.cons v).trans (.swap ..)
    · exact .refl _

/-- Insertion keeps the order. -/
theorem insertValue_sorted {value : String} {values : List String}
    (h : values.Pairwise (· ≤ ·)) : (insertValue value values).Pairwise (· ≤ ·) := by
  induction values with
  | nil => simp [insertValue]
  | cons v rest ih =>
    have ⟨hall, hrest⟩ := List.pairwise_cons.1 h
    simp only [insertValue]
    split
    · rename_i hlt
      refine List.pairwise_cons.2 ⟨fun x hx => ?_, ih hrest⟩
      rcases List.mem_cons.1 ((insertValue_perm value rest).mem_iff.1 hx) with rfl | hx
      · exact String.not_lt.1 (String.lt_asymm hlt)
      · exact hall x hx
    · rename_i hlt
      have hle : value ≤ v := String.not_lt.1 hlt
      refine List.pairwise_cons.2 ⟨fun x hx => ?_, h⟩
      rcases List.mem_cons.1 hx with rfl | hx
      · exact hle
      · exact String.le_trans hle (hall x hx)

/-- The values in ascending order. -/
def sortValues (values : List String) : List String :=
  values.foldr insertValue []

/-- Sorting puts the values in order. -/
theorem sortValues_sorted (values : List String) : (sortValues values).Pairwise (· ≤ ·) := by
  induction values with
  | nil => exact .nil
  | cons v rest ih => exact insertValue_sorted ih

/-- Sorting loses no value and adds none. -/
theorem sortValues_perm (values : List String) : (sortValues values).Perm values := by
  induction values with
  | nil => exact .refl _
  | cons v rest ih => exact (insertValue_perm _ _).trans (ih.cons v)

/-- A list in which each run of equal neighbours is cut to one. -/
def dropRepeats : List String → List String
  | [] => []
  | v :: rest =>
    match dropRepeats rest with
    | [] => [v]
    | w :: more => if v = w then w :: more else v :: w :: more

/-- The values as a set: in ascending order and without repetition. -/
def valueSet (values : List String) : List String :=
  dropRepeats (sortValues values)

/-- What one point of a transition system holds: values for each field, in ascending order. -/
structure State where
  fields : NameMap (List String)
  sorted : ∀ entry ∈ fields.entries, entry.2.Pairwise (· ≤ ·)

namespace State

/-- States with the same fields are equal. -/
theorem ext {a b : State} (h : a.fields = b.fields) : a = b := by
  cases a; cases b; cases h; rfl

instance : DecidableEq State := fun a b =>
  decidable_of_iff (a.fields = b.fields) ⟨ext, congrArg fields⟩

/-- The state of the given fields, each with its values put in order. -/
def ofFields (fields : NameMap (List String)) : State :=
  ⟨fields.map fun _ values => sortValues values, by
    intro entry h
    simp only [NameMap.map, List.mem_map] at h
    obtain ⟨e, -, rfl⟩ := h
    exact sortValues_sorted e.2⟩

/-- The state with every field of the schema and no values. -/
def blank (schema : Schema) : State :=
  ofFields (.ofList (schema.names.map fun name => (name, [])))

/-- The state with one more value in a field; a field that the state lacks is ignored. -/
def add (state : State) (field value : String) : State :=
  ⟨state.fields.modify field (insertValue value), by
    intro entry h
    simp only [NameMap.modify, NameMap.map, List.mem_map] at h
    obtain ⟨e, he, rfl⟩ := h
    simp only
    split
    · exact insertValue_sorted (state.sorted e he)
    · exact state.sorted e he⟩

/-- The values of a field, if the state has it. -/
def values? (state : State) (field : String) : Option (List String) :=
  state.fields.get? field

/-- Whether the state has the field. -/
def hasField (state : State) (field : String) : Bool :=
  state.fields.contains field

/-- Whether the state has no fields at all. -/
def isEmpty (state : State) : Bool :=
  state.fields.isEmpty

/-- The fields whose values differ from those in the other state, which must have the field. -/
def changedFields (state other : State) : List (String × List String) :=
  state.fields.entries.filter fun (name, values) =>
    match other.values? name with
    | some theirs => theirs != values
    | none => false

end State

end StateExplorer
