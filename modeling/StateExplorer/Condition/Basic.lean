import StateExplorer.State.Basic

/-!
# Conditions on one state

A condition compares the values of a field with a set, asks for a value, asks whether a field is
empty, or joins other conditions. Of a field that the state lacks no condition holds.
-/

namespace StateExplorer

/-- A condition on one state. The values of an equation form a set: ascending, no repetition. -/
inductive Condition
  | any (parts : List Condition)
  | all (parts : List Condition)
  | equals (field : String) (values : List String)
  | contains (field value : String)
  | isEmpty (field : String)
  | nonEmpty (field : String)

namespace Condition

instance : Inhabited Condition := ⟨.all []⟩

mutual

/-- Whether the condition holds of the given fields. -/
def holds (fields : NameMap (List String)) : Condition → Bool
  | .any parts => anyHolds fields parts
  | .all parts => allHold fields parts
  | .equals field values => ((fields.get? field).map valueSet).any (· == values)
  | .contains field value => (fields.get? field).any (·.contains value)
  | .isEmpty field => (fields.get? field).any (·.isEmpty)
  | .nonEmpty field => (fields.get? field).any (!·.isEmpty)

/-- Whether one of the conditions holds. -/
def anyHolds (fields : NameMap (List String)) : List Condition → Bool
  | [] => false
  | part :: rest => part.holds fields || anyHolds fields rest

/-- Whether each of the conditions holds. -/
def allHold (fields : NameMap (List String)) : List Condition → Bool
  | [] => true
  | part :: rest => part.holds fields && allHold fields rest

end

mutual

/-- The fields that the condition names, in the order it names them. -/
def fields : Condition → List String
  | .any parts => fieldsOf parts
  | .all parts => fieldsOf parts
  | .equals field _ => [field]
  | .contains field _ => [field]
  | .isEmpty field => [field]
  | .nonEmpty field => [field]

/-- The fields that the conditions name. -/
def fieldsOf : List Condition → List String
  | [] => []
  | part :: rest => part.fields ++ fieldsOf rest

end

/-- One of several conditions is enough. -/
theorem anyHolds_eq_any (fields : NameMap (List String)) (parts : List Condition) :
    anyHolds fields parts = parts.any (·.holds fields) := by
  induction parts with
  | nil => rfl
  | cons part rest ih => simp [anyHolds, ih]

/-- Each of several conditions is needed. -/
theorem allHold_eq_all (fields : NameMap (List String)) (parts : List Condition) :
    allHold fields parts = parts.all (·.holds fields) := by
  induction parts with
  | nil => rfl
  | cons part rest ih => simp [allHold, ih]

/-- The fields of several conditions are those of each in turn. -/
theorem fieldsOf_eq_flatMap (parts : List Condition) :
    fieldsOf parts = parts.flatMap Condition.fields := by
  induction parts with
  | nil => rfl
  | cons part rest ih => simp [fieldsOf, ih]

/-- A list of alternatives; a single one stands for itself. -/
def anyOf : List Condition → Condition
  | [part] => part
  | parts => .any parts

/-- A list of requirements; a single one stands for itself. -/
def allOf : List Condition → Condition
  | [part] => part
  | parts => .all parts

end Condition

end StateExplorer
