import StateExplorer.Proofs.NameMap
import StateExplorer.State.Basic

/-!
# Values as sets

Values in ascending order depend on nothing but which values there are, and how often. The set of
some values lists each of them once, in ascending order, so it depends on nothing but which values
there are. The sets of a state are what a condition sees of it.
-/

namespace StateExplorer

/-- Values in ascending order are those of any list of the same values that is put in order. -/
theorem eq_sortValues {values others : List String} (h : values.Pairwise (· ≤ ·))
    (hperm : values.Perm others) : values = sortValues others :=
  (hperm.trans (sortValues_perm others).symm).eq_of_pairwise
    (fun _ _ _ _ hle hge => String.le_antisymm hle hge) h (sortValues_sorted others)

/-- Values in ascending order are left as they are. -/
theorem sortValues_eq_self {values : List String} (h : values.Pairwise (· ≤ ·)) :
    sortValues values = values :=
  (eq_sortValues h (.refl values)).symm

/-- The order in which values are listed does not matter when they are put in order. -/
theorem sortValues_congr {values others : List String} (h : values.Perm others) :
    sortValues values = sortValues others :=
  eq_sortValues (sortValues_sorted values) ((sortValues_perm values).trans h)

/-- Dropping repetitions loses no value. -/
theorem mem_dropRepeats {v : String} {values : List String} :
    v ∈ dropRepeats values ↔ v ∈ values := by
  induction values with
  | nil => rfl
  | cons w rest ih =>
    simp only [dropRepeats]
    split
    · rename_i hnil
      rw [hnil] at ih
      simp [← ih]
    · rename_i x more hmore
      rw [hmore] at ih
      split
      · rename_i heq
        subst heq
        rw [ih, List.mem_cons]
        exact ⟨.inr, fun hv => hv.elim (fun hw => ih.1 (hw ▸ List.mem_cons_self)) id⟩
      · rw [List.mem_cons, ih, List.mem_cons]

/-- In order, and without repetition, values ascend strictly. -/
theorem dropRepeats_strict {values : List String} (h : values.Pairwise (· ≤ ·)) :
    (dropRepeats values).Pairwise (· < ·) := by
  induction values with
  | nil => exact .nil
  | cons w rest ih =>
    obtain ⟨hall, hrest⟩ := List.pairwise_cons.1 h
    have hstrict := ih hrest
    simp only [dropRepeats]
    split
    · exact List.pairwise_singleton _ w
    · rename_i x more hmore
      rw [hmore] at hstrict
      split
      · exact hstrict
      · rename_i hne
        have hx : w ≤ x := hall x (mem_dropRepeats.1 (hmore ▸ List.mem_cons_self))
        have hlt : w < x := by
          rcases Decidable.em (w < x) with hlt | hge
          · exact hlt
          · exact absurd (String.le_antisymm hx (String.not_lt.1 hge)) hne
        refine List.pairwise_cons.2 ⟨fun y hy => ?_, hstrict⟩
        rcases List.mem_cons.1 hy with rfl | hy
        · exact hlt
        · exact String.lt_trans hlt ((List.pairwise_cons.1 hstrict).1 y hy)

/-- The set of some values has exactly these values. -/
theorem mem_valueSet {v : String} {values : List String} : v ∈ valueSet values ↔ v ∈ values := by
  rw [valueSet, mem_dropRepeats, (sortValues_perm values).mem_iff]

/-- A set of values ascends strictly. -/
theorem valueSet_strict (values : List String) : (valueSet values).Pairwise (· < ·) :=
  dropRepeats_strict (sortValues_sorted values)

/-- Values that ascend strictly are determined by which they are. -/
theorem eq_of_strict {a b : List String} (ha : a.Pairwise (· < ·)) (hb : b.Pairwise (· < ·))
    (h : ∀ v, v ∈ a ↔ v ∈ b) : a = b := by
  have hnodup {l : List String} (hl : l.Pairwise (· < ·)) : l.Nodup := by
    refine hl.imp fun {v w} hlt => ?_
    rintro rfl
    exact String.lt_irrefl v hlt
  have hperm := (List.perm_ext_iff_of_nodup (hnodup ha) (hnodup hb)).2 h
  exact hperm.eq_of_pairwise (fun v w _ _ hlt hgt => absurd hgt (String.lt_asymm hlt)) ha hb

/-- The same values have the same set. -/
theorem valueSet_congr {a b : List String} (h : ∀ v, v ∈ a ↔ v ∈ b) : valueSet a = valueSet b :=
  eq_of_strict (valueSet_strict a) (valueSet_strict b) fun v => by
    rw [mem_valueSet, mem_valueSet, h]

/-- Values that ascend strictly are their own set. -/
theorem valueSet_eq_self {values : List String} (h : values.Pairwise (· < ·)) :
    valueSet values = values :=
  eq_of_strict (valueSet_strict values) h fun _ => mem_valueSet

/-- A set is the set of its values. -/
@[simp] theorem valueSet_valueSet (values : List String) :
    valueSet (valueSet values) = valueSet values :=
  valueSet_eq_self (valueSet_strict values)

namespace State

/-- The values of a field are in ascending order. -/
theorem sorted_of_values? {state : State} {field : String} {values : List String}
    (h : state.values? field = some values) : values.Pairwise (· ≤ ·) :=
  state.sorted (field, values) (NameMap.mem_entries_iff.2 h)

/-- States that hold the same values are the same. -/
theorem ext_values? {a b : State} (h : ∀ field, a.values? field = b.values? field) : a = b :=
  ext (NameMap.ext_get? h)

/-- The values of the state of some fields are theirs, in order. -/
theorem values?_ofFields (fields : NameMap (List String)) (field : String) :
    (ofFields fields).values? field = (fields.get? field).map sortValues :=
  NameMap.get?_map _ fields field

/-- The fields of a state are those of itself. -/
theorem ofFields_fields (state : State) : ofFields state.fields = state := by
  refine ext_values? fun field => ?_
  rw [values?_ofFields]
  change (state.values? field).map sortValues = state.values? field
  cases hvalues : state.values? field with
  | none => rfl
  | some values => exact congrArg some (eq_sortValues (sorted_of_values? hvalues) (.refl _)).symm

/-- The fields of a state with their values as sets. -/
def sets (state : State) : NameMap (List String) :=
  state.fields.map fun _ values => valueSet values

/-- What a field of a state holds, as a set. -/
theorem get?_sets (state : State) (field : String) :
    state.sets.get? field = (state.values? field).map valueSet := by
  rw [sets, NameMap.get?_map, values?]

end State

end StateExplorer
