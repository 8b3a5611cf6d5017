import StateExplorer.Proofs.Condition.Parsing

/-!
# What is read compares with sets

Every equation that is read compares a field with a set of values. A conjunction holds if each of
its parts does, so one that asks a field for two different sets holds of no fields at all.
-/

namespace StateExplorer

namespace Condition

/-! ### Equations with sets -/

/-- Whether every equation in a condition is with a set: ascending values without repetition. -/
inductive OverSets : Condition → Prop
  | any {parts : List Condition} (h : ∀ part ∈ parts, OverSets part) : OverSets (.any parts)
  | all {parts : List Condition} (h : ∀ part ∈ parts, OverSets part) : OverSets (.all parts)
  | equals {field : String} {values : List String} (h : valueSet values = values) :
    OverSets (.equals field values)
  | contains {field value : String} : OverSets (.contains field value)
  | isEmpty {field : String} : OverSets (.isEmpty field)
  | nonEmpty {field : String} : OverSets (.nonEmpty field)

/-- Alternatives over sets are over sets. -/
theorem overSets_anyOf {parts : List Condition} (h : ∀ part ∈ parts, OverSets part) :
    OverSets (anyOf parts) := by
  fun_cases anyOf parts with
  | case1 part => exact h part List.mem_cons_self
  | case2 => exact .any h

/-- Requirements over sets are over sets. -/
theorem overSets_allOf {parts : List Condition} (h : ∀ part ∈ parts, OverSets part) :
    OverSets (allOf parts) := by
  fun_cases allOf parts with
  | case1 part => exact h part List.mem_cons_self
  | case2 => exact .all h

namespace Grammar

mutual

/-- An atom is over sets. -/
theorem Atom.overSets {tokens : List Token} {condition : Condition} :
    Atom tokens condition → OverSets condition
  | .parentheses _ _ h => overSets_anyOf h.overSets
  | .isEmpty _ => .isEmpty
  | .nonEmpty _ => .nonEmpty
  | .equals _ _ hstrict _ => .equals (valueSet_eq_self hstrict)
  | .contains _ _ => .contains

/-- A conjunction is over sets. -/
theorem Conjunction.overSets {tokens : List Token} {parts : List Condition} :
    Conjunction tokens parts → ∀ part ∈ parts, OverSets part
  | .single h => List.forall_mem_singleton.2 h.overSets
  | .and h _ _ hrest => List.forall_mem_cons.2 ⟨h.overSets, hrest.overSets⟩

/-- A disjunction is over sets. -/
theorem Disjunction.overSets {tokens : List Token} {parts : List Condition} :
    Disjunction tokens parts → ∀ part ∈ parts, OverSets part
  | .single h => List.forall_mem_singleton.2 (overSets_allOf h.overSets)
  | .or h _ _ hrest => List.forall_mem_cons.2 ⟨overSets_allOf h.overSets, hrest.overSets⟩

end

/-- Lines are over sets. -/
theorem Lines.overSets {tokens : List Token} {parts : List Condition} (h : Lines tokens parts) :
    ∀ part ∈ parts, OverSets part := by
  have hformula {tokens : List Token} {condition : Condition} (h : Formula tokens condition) :
      OverSets condition := by
    obtain ⟨parts, hparts, rfl⟩ := h
    exact overSets_anyOf hparts.overSets
  induction h with
  | single h => exact List.forall_mem_singleton.2 (hformula h)
  | line h _ _ ih => exact List.forall_mem_cons.2 ⟨hformula h, ih⟩

end Grammar

/-- The condition that a text states is over sets. -/
theorem overSets_of_parse {text : String} {condition : Condition}
    (h : parse text = .ok condition) : OverSets condition := by
  obtain ⟨tokens, parts, -, hbody, rfl⟩ := parse_eq_ok_iff.1 h
  cases hbody with
  | blank => exact overSets_allOf (List.forall_mem_nil _)
  | lines _ _ hlines => exact overSets_allOf hlines.overSets

/-! ### Conjunctions of equations -/

/-- The parts of a conjunction; any other condition is its own only part. -/
def conjuncts : Condition → List Condition
  | .all parts => parts
  | part => [part]

/-- A condition holds if each of its parts does. -/
theorem holds_iff_conjuncts {fields : NameMap (List String)} {condition : Condition} :
    condition.holds fields = true ↔ ∀ part ∈ condition.conjuncts, part.holds fields = true := by
  fun_cases conjuncts condition with
  | case1 parts => rw [holds, allHold_eq_all, List.all_eq_true]
  | case2 => rw [List.forall_mem_singleton]

/-- What a part of a condition names, the condition does. -/
theorem mem_fields_of_mem_conjuncts {condition part : Condition} (h : part ∈ condition.conjuncts)
    {field : String} (hfield : field ∈ part.fields) : field ∈ condition.fields := by
  revert h
  fun_cases conjuncts condition with
  | case1 parts =>
    intro h
    rw [fields, fieldsOf_eq_flatMap]
    exact List.mem_flatMap.2 ⟨part, h, hfield⟩
  | case2 =>
    intro h
    rwa [← List.mem_singleton.1 h]

/-- The parts of a condition over sets are over sets. -/
theorem OverSets.of_mem_conjuncts {condition : Condition} (h : OverSets condition) :
    ∀ part ∈ condition.conjuncts, OverSets part := by
  fun_cases conjuncts condition with
  | case1 parts =>
    cases h with
    | all h => exact h
  | case2 => exact List.forall_mem_singleton.2 h

/-- A conjunction of equations has these parts. -/
theorem conjuncts_of_equations? {condition : Condition} {found : List (String × List String)}
    (h : Problem.equations? condition = some found) :
    condition.conjuncts = found.map fun e => .equals e.1 e.2 := by
  have hparts (parts : List Condition) {found : List (String × List String)}
      (h : Problem.equations? (.all parts) = some found) :
      parts = found.map fun e => .equals e.1 e.2 := by
    induction parts generalizing found with
    | nil =>
      obtain rfl : [] = found := Option.some.inj h
      rfl
    | cons part rest ih =>
      simp only [Problem.equations?, List.mapM_cons] at h
      obtain ⟨equation, hpart, h⟩ := Option.bind_eq_some_iff.1 h
      obtain ⟨others, hrest, h⟩ := Option.bind_eq_some_iff.1 h
      obtain rfl : equation :: others = found := Option.some.inj h
      rw [List.map_cons, ← ih hrest]
      cases part with
      | equals field values =>
        obtain rfl : (field, values) = equation := Option.some.inj hpart
        rfl
      | _ => cases hpart
  cases condition with
  | all parts => exact hparts parts h
  | _ => exact hparts [_] h

/-- Whether a condition is a conjunction of equations and asks some field for two different sets. -/
def Clashes (condition : Condition) : Prop :=
  ∃ found, Problem.equations? condition = some found ∧
    ∃ field v w, (field, v) ∈ found ∧ (field, w) ∈ found ∧ v ≠ w

/-- A conjunction of equations holds of the fields that have just these sets. -/
theorem holds_iff_of_equations? {fields : NameMap (List String)} {condition : Condition}
    {found : List (String × List String)} (h : Problem.equations? condition = some found) :
    condition.holds fields = true ↔
      ∀ e ∈ found, (fields.get? e.1).map valueSet = some e.2 := by
  rw [holds_iff_conjuncts, conjuncts_of_equations? h, List.forall_mem_map]
  refine forall₂_congr fun e _ => ?_
  rw [holds]
  cases (fields.get? e.1).map valueSet with
  | none => simp
  | some own => simp

/-- Equations that clash hold of no fields. -/
theorem Clashes.not_holds {condition : Condition} (h : condition.Clashes)
    (fields : NameMap (List String)) : condition.holds fields ≠ true := by
  obtain ⟨found, hfound, field, v, w, hv, hw, hne⟩ := h
  intro hholds
  have hsets := (holds_iff_of_equations? hfound).1 hholds
  exact hne (Option.some.inj ((hsets _ hv).symm.trans (hsets _ hw)))

end Condition

end StateExplorer
