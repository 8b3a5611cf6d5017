import StateExplorer.Condition.Basic
import StateExplorer.Proofs.State.Sets

/-!
# What a condition depends on

A condition asks for the fields that it names, and of the values of each for nothing but their set,
so it holds of one state as of every other that shows these fields the same. A field without values
is not a missing one: of a field that is missing no condition holds, not even that it is empty. Where
no field that a condition names is missing, its answer never rests on that.
-/

namespace StateExplorer

/-- Whether two states show a field the same: neither has it, or both have it with the same set of
values, in whatever order and however often. -/
def SameSet (a b : NameMap (List String)) (field : String) : Prop :=
  Option.Rel (fun ours theirs => ∀ v, v ∈ ours ↔ v ∈ theirs) (a.get? field) (b.get? field)

/-- What depends on nothing but the set of a field's values is the same of a field that is shown the
same. -/
theorem SameSet.any_eq {a b : NameMap (List String)} {field : String} (h : SameSet a b field)
    {test : List String → Bool}
    (htest : ∀ ours theirs : List String, (∀ v, v ∈ ours ↔ v ∈ theirs) → test ours = test theirs) :
    (a.get? field).any test = (b.get? field).any test := by
  unfold SameSet at h
  generalize a.get? field = ours, b.get? field = theirs at h ⊢
  cases h with
  | none => rfl
  | some hvalues => exact htest _ _ hvalues

namespace Condition

variable {a b view : NameMap (List String)} {condition part : Condition} {parts : List Condition}
  {field : String}

-- Conditions stand in lists within conditions, so the recursor has a second motive, for the lists.
/-- What holds of every atom, and of conditions that are joined of such as it holds of, holds of every
condition. -/
@[elab_as_elim]
theorem inductionOnParts {motive : Condition → Prop}
    (any : ∀ parts, (∀ part ∈ parts, motive part) → motive (.any parts))
    (all : ∀ parts, (∀ part ∈ parts, motive part) → motive (.all parts))
    (equals : ∀ field values, motive (.equals field values))
    (contains : ∀ field value, motive (.contains field value))
    (isEmpty : ∀ field, motive (.isEmpty field)) (nonEmpty : ∀ field, motive (.nonEmpty field))
    (condition : Condition) : motive condition :=
  @Condition.rec motive (fun parts => ∀ part ∈ parts, motive part) any all equals contains isEmpty
    nonEmpty (List.forall_mem_nil _) (fun _ _ hpart hrest => List.forall_mem_cons.2 ⟨hpart, hrest⟩)
    condition

/-- What one of several conditions names, they name together. -/
theorem mem_fieldsOf (hpart : part ∈ parts) (hfield : field ∈ part.fields) :
    field ∈ fieldsOf parts := by
  rw [fieldsOf_eq_flatMap]
  exact List.mem_flatMap.2 ⟨part, hpart, hfield⟩

/-! ### States that show the fields the same -/

/-- Whether there are values at all depends on which values there are. -/
theorem isEmpty_congr {ours theirs : List String} (h : ∀ v, v ∈ ours ↔ v ∈ theirs) :
    ours.isEmpty = theirs.isEmpty := by
  rw [Bool.eq_iff_iff, List.isEmpty_iff, List.isEmpty_iff, List.eq_nil_iff_forall_not_mem,
    List.eq_nil_iff_forall_not_mem]
  exact forall_congr' fun v => not_congr (h v)

/-- A condition holds of two states alike if they show the fields that it names the same. -/
theorem holds_congr (h : ∀ field ∈ condition.fields, SameSet a b field) :
    condition.holds a = condition.holds b := by
  induction condition using inductionOnParts with
  | any parts ih =>
    have hparts : ∀ part ∈ parts, part.holds a = part.holds b := fun part hpart =>
      ih part hpart fun field hfield => h field (mem_fieldsOf hpart hfield)
    rw [holds, holds, anyHolds_eq_any, anyHolds_eq_any, Bool.eq_iff_iff, List.any_eq_true,
      List.any_eq_true]
    exact exists_congr fun part => and_congr_right fun hpart => by rw [hparts part hpart]
  | all parts ih =>
    have hparts : ∀ part ∈ parts, part.holds a = part.holds b := fun part hpart =>
      ih part hpart fun field hfield => h field (mem_fieldsOf hpart hfield)
    rw [holds, holds, allHold_eq_all, allHold_eq_all, Bool.eq_iff_iff, List.all_eq_true,
      List.all_eq_true]
    exact forall₂_congr fun part hpart => by rw [hparts part hpart]
  | equals field values =>
    have hfield : SameSet a b field := h field (List.mem_singleton_self field)
    rw [holds, holds, Option.any_map, Option.any_map]
    exact hfield.any_eq fun ours theirs hsame => by simp only [valueSet_congr hsame]
  | contains field value =>
    have hfield : SameSet a b field := h field (List.mem_singleton_self field)
    exact hfield.any_eq fun ours theirs hsame => by
      rw [Bool.eq_iff_iff, List.contains_iff_mem, List.contains_iff_mem, hsame]
  | isEmpty field =>
    have hfield : SameSet a b field := h field (List.mem_singleton_self field)
    exact hfield.any_eq fun ours theirs hsame => isEmpty_congr hsame
  | nonEmpty field =>
    have hfield : SameSet a b field := h field (List.mem_singleton_self field)
    exact hfield.any_eq fun ours theirs hsame => by rw [isEmpty_congr hsame]

/-! ### States that miss a field -/

mutual

/-- The answer of a condition, where it is found without asking for a field that is missing: of
several conditions no more are asked than are needed. -/
def ask? (fields : NameMap (List String)) : Condition → Option Bool
  | .any parts => askAny? fields parts
  | .all parts => askAll? fields parts
  | .equals field values => (fields.get? field).map fun own => valueSet own == values
  | .contains field value => (fields.get? field).map (·.contains value)
  | .isEmpty field => (fields.get? field).map (·.isEmpty)
  | .nonEmpty field => (fields.get? field).map (!·.isEmpty)

/-- Whether one of the conditions holds; none is asked after the first that does. -/
def askAny? (fields : NameMap (List String)) : List Condition → Option Bool
  | [] => some false
  | part :: rest => do if ← part.ask? fields then return true else askAny? fields rest

/-- Whether each of the conditions holds; none is asked after the first that does not. -/
def askAll? (fields : NameMap (List String)) : List Condition → Option Bool
  | [] => some true
  | part :: rest => do if ← part.ask? fields then askAll? fields rest else return false

end

/-- Alternatives that ask for no missing field give their answer together. -/
theorem askAny?_eq_some (h : ∀ part ∈ parts, part.ask? view = some (part.holds view)) :
    askAny? view parts = some (anyHolds view parts) := by
  induction parts with
  | nil => rfl
  | cons part rest ih =>
    obtain ⟨hpart, hrest⟩ := List.forall_mem_cons.1 h
    rw [askAny?, anyHolds, hpart, ih hrest]
    cases part.holds view <;> rfl

/-- Requirements that ask for no missing field give their answer together. -/
theorem askAll?_eq_some (h : ∀ part ∈ parts, part.ask? view = some (part.holds view)) :
    askAll? view parts = some (allHold view parts) := by
  induction parts with
  | nil => rfl
  | cons part rest ih =>
    obtain ⟨hpart, hrest⟩ := List.forall_mem_cons.1 h
    rw [askAll?, allHold, hpart, ih hrest]
    cases part.holds view <;> rfl

/-- Where all fields that a condition names are there, it asks for none that is missing. -/
theorem ask?_eq_some (h : ∀ field ∈ condition.fields, (view.get? field).isSome = true) :
    condition.ask? view = some (condition.holds view) := by
  induction condition using inductionOnParts with
  | any parts ih =>
    exact askAny?_eq_some fun part hpart =>
      ih part hpart fun field hfield => h field (mem_fieldsOf hpart hfield)
  | all parts ih =>
    exact askAll?_eq_some fun part hpart =>
      ih part hpart fun field hfield => h field (mem_fieldsOf hpart hfield)
  | equals field | contains field | isEmpty field | nonEmpty field =>
    obtain ⟨own, hown⟩ := Option.isSome_iff_exists.1 (h field (List.mem_singleton_self field))
    simp [ask?, holds, hown]

/-- Of a field that is missing it does not hold that it is empty, and that answer rests on missing it;
where another condition settles the matter first, nothing does. -/
example : (isEmpty "queue").holds .empty = false ∧ (isEmpty "queue").ask? .empty = none ∧
    (any [all [], isEmpty "queue"]).ask? .empty = some true :=
  ⟨rfl, rfl, rfl⟩

end Condition

end StateExplorer
