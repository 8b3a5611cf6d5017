import StateExplorer.State.Basic

/-!
# States as text

Every listing of a state begins on a new line, so listings can be put one after another. A state
can also be written as a predicate that holds of no other state: one equation for each field.
-/

namespace StateExplorer

/-- The empty relation of the field's arity. -/
def Field.emptyRelation (field : Field) : String :=
  " -> ".intercalate (List.replicate (max field.arity 1) "none")

/-- A predicate over one state, with its body as given. -/
def statePredicate (name signature body : String) : String :=
  "pred " ++ name ++ "[s: " ++ signature ++ "] \x7b\n" ++ body ++ "\x7d\n"

/-- Values between braces. -/
def valueBlock (values : List String) : String :=
  "\x7b " ++ ", ".intercalate values ++ " \x7d"

namespace State

/-- One line for each of the given fields, and the line end after them. -/
def fieldLines (fields : List (String × List String)) : String :=
  String.join (fields.map fun (name, values) => "\n" ++ name ++ ": " ++ valueBlock values) ++ "\n"

/-- Every field on a line of its own. -/
def listing (state : State) : String :=
  fieldLines state.fields.entries

/-- The fields that differ from those of the other state, one on each line. -/
def diffAgainst (state other : State) : String :=
  fieldLines (state.changedFields other)

/-- The text of a field's values in an equation: their union, or the empty relation. -/
def valueTerm (schema : Schema) (name : String) : List String → String
  | [] => ((schema.field? name).map Field.emptyRelation).getD "none"
  | values => " + ".intercalate values

/-- One equation for each field. -/
def equations (state : State) (schema : Schema) : String :=
  String.join (state.fields.entries.map fun (name, values) =>
    "\ts." ++ name ++ " = " ++ valueTerm schema name values ++ "\n")

/-- The predicate that holds exactly of this state. -/
def constraint (state : State) (schema : Schema) (name signature : String) : String :=
  statePredicate name signature (state.equations schema)

/-- A state under the number it is shown by. -/
def display (id : Nat) (state : State) : String :=
  "\nS" ++ toString id ++ "\n----" ++ state.listing

/-- A state in a history, some steps behind the current one. -/
def historyEntry (id : Nat) (state : State) (age : Nat) : String :=
  "\nS" ++ toString id ++ " (-" ++ toString age ++ ")\n---------" ++ state.listing

/-- What changed from one state to another. -/
def displayDiff (beforeId : Nat) (before : State) (afterId : Nat) (after : State) : String :=
  "\nS" ++ toString beforeId ++ " -> S" ++ toString afterId ++ "\n------------" ++
    after.diffAgainst before

/-- What changed from one state to another, in a history. -/
def historyDiff (beforeId : Nat) (before : State) (afterId : Nat) (after : State) (age : Nat) :
    String :=
  "\nS" ++ toString beforeId ++ " -> S" ++ toString afterId ++ " (-" ++ toString age ++
    ")\n-----------------" ++ after.diffAgainst before

/-- The values of one field. -/
def displayField (state : State) (field : String) : String :=
  match state.values? field with
  | some values => "\n" ++ valueBlock values ++ "\n"
  | none => "Property not found."

end State

end StateExplorer
