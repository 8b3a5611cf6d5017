import StateExplorer.Proofs.Statechart.Tree

/-!
# Charts without faults

The faults of a chart are names that are listed twice, names that the root does not reach, and ends
of transitions that it does not reach. A chart without any is a tree, and the functions that go down
the lists of children without looking for cycles are safe on it: how deep they may go makes no
difference from the number of names on, and on their way they take each state once.
-/

namespace StateExplorer.Statechart

open Relation (ReflTransGen)

variable {chart : Statechart} {state : String}

/-! ### Faults -/

/-- No child is repeated if all are different and none was seen before. -/
theorem repeats_eq_nil_iff {seen : List String} {listed : List (String × String)} :
    repeats seen listed = [] ↔
      (listed.map Prod.fst).Nodup ∧ ∀ kid ∈ listed.map Prod.fst, kid ∉ seen := by
  induction listed generalizing seen with
  | nil => simp [repeats]
  | cons entry rest ih =>
    obtain ⟨kid, parent⟩ := entry
    rw [repeats, List.append_eq_nil_iff, ih, List.map_cons, List.nodup_cons, List.forall_mem_cons]
    have hhead : (if seen.contains kid then [ChartFault.repeated kid parent] else []) = [] ↔
        kid ∉ seen := by
      simp
    rw [hhead]
    constructor
    · rintro ⟨hkid, hrest, hseen⟩
      exact ⟨⟨fun hmem => hseen kid hmem List.mem_cons_self, hrest⟩, hkid,
        fun other hother hold => hseen other hother (List.mem_cons_of_mem _ hold)⟩
    · rintro ⟨⟨hmem, hrest⟩, hkid, hseen⟩
      refine ⟨hkid, hrest, fun other hother hold => ?_⟩
      rcases List.mem_cons.1 hold with rfl | hold
      · exact hmem hother
      · exact hseen other hother hold

/-- A chart is faultless if no name is listed twice and the root reaches all names and both ends of
each transition. -/
theorem validate_eq_ok_iff_names (chart : Statechart) :
    chart.validate = .ok () ↔ chart.names.Nodup ∧ (∀ state ∈ chart.names, chart.Reaches state) ∧
      ∀ t ∈ chart.transitions, chart.Reaches t.source ∧ chart.Reaches t.target := by
  have hvalidate : chart.validate = .ok () ↔ chart.faults = [] := by
    unfold validate
    cases chart.faults <;> simp
  have hreached (state : String) : chart.states.contains state = true ↔ chart.Reaches state := by
    rw [List.contains_iff_mem]
    exact (states_spec chart).2 state
  have hnames : repeats [chart.root] chart.listed = [] ↔ chart.names.Nodup := by
    rw [repeats_eq_nil_iff, names, List.nodup_cons, and_comm]
    simp only [List.mem_singleton]
    exact and_congr_left fun _ => ⟨fun h hmem => h _ hmem rfl, fun h kid hkid hroot => h (hroot ▸ hkid)⟩
  rw [hvalidate, faults, List.append_eq_nil_iff, List.append_eq_nil_iff, hnames, and_assoc,
    List.map_eq_nil_iff, List.filter_eq_nil_iff, List.flatMap_eq_nil_iff]
  refine and_congr_right fun _ => and_congr ?_ ?_
  · simp only [mem_valueSet, Bool.not_eq_true', Bool.not_eq_false, hreached]
  · refine forall₂_congr fun t _ => ?_
    simp only [List.map_eq_nil_iff, List.filter_eq_nil_iff, List.forall_mem_cons, List.not_mem_nil,
      false_imp_iff, implies_true, and_true, Bool.not_eq_true', Bool.not_eq_false, hreached]

/-- No name is listed twice exactly if the root has no parent and each other state has one parent
and one place among its children. -/
theorem nodup_names_iff (chart : Statechart) :
    chart.names.Nodup ↔ (∀ parent, ¬chart.Child parent chart.root) ∧
      (∀ kid parent other, chart.Child parent kid → chart.Child other kid → parent = other) ∧
        ∀ parent, (chart.childrenOf parent).Nodup := by
  have hkids : chart.listed.map Prod.fst = chart.children.entries.flatMap Prod.snd := by
    simp [listed, List.map_flatMap, Function.comp_def]
  have hroot : chart.root ∉ chart.listed.map Prod.fst ↔ ∀ parent, ¬chart.Child parent chart.root := by
    simp only [List.mem_map, Prod.exists, exists_and_right, exists_eq_right, mem_listed_iff, not_exists]
  rw [names, List.nodup_cons, hroot]
  refine and_congr_right fun _ => ⟨fun h => ⟨?_, ?_⟩, ?_⟩
  · intro kid parent other hparent hother
    have hpairs := List.inj_on_of_nodup_map h (mem_listed_iff.2 hparent) (mem_listed_iff.2 hother) rfl
    exact (Prod.mk.inj hpairs).2
  · intro parent
    rw [hkids, List.nodup_flatMap] at h
    cases hkids : chart.childrenOf parent with
    | nil => exact List.nodup_nil
    | cons kid kids =>
      have hkid : chart.Child parent kid := by rw [Child, hkids]; exact List.mem_cons_self
      rw [← hkids]
      exact h.1 _ (mem_entries_of_child hkid)
  · rintro ⟨hunique, hplace⟩
    rw [hkids, List.nodup_flatMap]
    constructor
    · rintro ⟨parent, kids⟩ hentry
      rw [← childrenOf_of_mem hentry]
      exact hplace parent
    · refine chart.children.ascending.imp_of_mem ?_
      rintro ⟨parent, kids⟩ ⟨other, more⟩ hparent hother hlt kid hkid hmore
      rw [← childrenOf_of_mem hparent] at hkid
      rw [← childrenOf_of_mem hother] at hmore
      obtain rfl := hunique kid parent other hkid hmore
      exact String.lt_irrefl _ hlt

/-- A chart is faultless exactly if it is a tree and its root reaches both ends of each
transition. -/
theorem validate_eq_ok_iff_tree (chart : Statechart) :
    chart.validate = .ok () ↔ chart.IsTree ∧
      ∀ t ∈ chart.transitions, chart.Reaches t.source ∧ chart.Reaches t.target := by
  rw [validate_eq_ok_iff_names, ← and_assoc]
  refine and_congr_left fun _ => ?_
  rw [nodup_names_iff]
  constructor
  · rintro ⟨⟨hroot, hunique, hplace⟩, hreached⟩
    have hkid (parent kid : String) (h : chart.Child parent kid) : chart.Reaches kid :=
      hreached kid h.mem_names
    exact ⟨hroot, hunique, hplace, hkid, acyclic_of_parent_unique hroot hunique hkid⟩
  · rintro ⟨hroot, hunique, hplace, hreached, -⟩
    refine ⟨⟨hroot, hunique, hplace⟩, fun state hstate => ?_⟩
    rcases mem_names_iff.1 hstate with rfl | ⟨parent, hparent⟩
    · exact .refl
    · exact hreached parent state hparent

/-! ### Going down a chart without faults -/

/-- What is seen of a chart along its outline: no child is listed outside of it, the states are
listed in its order, the depth of a state is the number of parents up to the root and itself, the
greatest depth is that of some state, every descent along the lists of children ends, and no descent
of the functions over the chart is cut short, the drawing having the statements of each entry once. -/
structure Descends (chart : Statechart) (o : Outline) : Prop where
  outlined : chart.Outlined o
  listed : ∀ parent kid, chart.Child parent kid → parent ∈ o.states ∧ kid ∈ o.states
  states_eq : chart.states = o.states
  mem_iff : ∀ state, state ∈ o.states ↔ chart.Reaches state
  isSome_depth : ∀ state, (chart.depth? state).isSome = true ↔ state ∈ o.states
  depth_eq : ∀ state depth, chart.depth? state = some depth ↔ ∃ n, chart.Below n state ∧ depth = 1 + n
  depth_le : ∀ state depth, chart.depth? state = some depth → depth ≤ chart.maxDepth
  exists_deepest : ∃ state, chart.depth? state = some chart.maxDepth
  ends : ∀ state ∈ o.states, Acc (fun kid parent => chart.Child parent kid) state
  depthBelow_eq : ∀ levels, chart.names.length ≤ levels → ∀ state,
    chart.depthBelow state levels chart.root 1 = chart.depth? state
  drawState_eq : ∀ levels, chart.names.length ≤ levels → ∀ deepest active,
    chart.drawState deepest active levels chart.root = o.draw chart deepest active

/-- The greatest depth is that of some state, and no depth is greater. -/
theorem Outlined.maxDepth_spec {o : Outline} (h : chart.Outlined o) :
    (∃ state, chart.depth? state = some chart.maxDepth) ∧
      ∀ state depth, chart.depth? state = some depth → depth ≤ chart.maxDepth := by
  have hmem {depth : Nat} : depth ∈ chart.states.filterMap chart.depth? ↔
      ∃ state, chart.depth? state = some depth := by
    simp only [List.mem_filterMap, h.states_eq, ← h.isSome_depth?_iff]
    exact exists_congr fun state => and_iff_right_of_imp fun hdepth => by rw [hdepth]; rfl
  have hroot : (chart.depth? chart.root).isSome = true :=
    h.isSome_depth?_iff.2 (h.mem_states_iff.2 .refl)
  obtain ⟨depth, hdepth⟩ := Option.isSome_iff_exists.1 hroot
  have hmax : (chart.states.filterMap chart.depth?).max? = some chart.maxDepth := by
    cases hdepths : (chart.states.filterMap chart.depth?).max? with
    | none =>
      rw [List.max?_eq_none_iff] at hdepths
      exact absurd (hmem.2 ⟨_, hdepth⟩) (hdepths ▸ List.not_mem_nil)
    | some deepest => rw [maxDepth, List.foldl_max, hdepths, Option.getD_some, Nat.zero_max]
  obtain ⟨hdeepest, hle⟩ := List.max?_eq_some_iff.1 hmax
  exact ⟨hmem.1 hdeepest, fun state depth hstate => hle depth (hmem.2 ⟨state, hstate⟩)⟩

/-- A tree is seen along its outline. -/
theorem IsTree.exists_descends (h : chart.IsTree) : ∃ o, chart.Descends o := by
  obtain ⟨o, ho⟩ := h.exists_outlined
  have hlisted (parent kid : String) (hkid : chart.Child parent kid) :
      parent ∈ o.states ∧ kid ∈ o.states := by
    rw [ho.mem_states_iff, ho.mem_states_iff]
    refine ⟨?_, h.reached parent kid hkid⟩
    rcases ReflTransGen.cases_tail (h.reached parent kid hkid) with hroot | ⟨other, hother, hlast⟩
    · exact absurd (hroot ▸ hkid) (h.root_not_kid parent)
    · rwa [h.parent_unique kid parent other hkid hlast]
  exact ⟨o, {
    outlined := ho
    listed := hlisted
    states_eq := ho.states_eq
    mem_iff := fun _ => ho.mem_states_iff
    isSome_depth := fun _ => ho.isSome_depth?_iff
    depth_eq := fun _ _ => ho.depth?_eq_some_iff h
    depth_le := ho.maxDepth_spec.2
    exists_deepest := ho.maxDepth_spec.1
    ends := fun _ hstate => h.acc (ho.mem_states_iff.1 hstate).mem_names
    depthBelow_eq := fun _ hlevels state => by
      rw [depth?, ho.depthBelow_eq hlevels, ho.depthBelow_eq (Nat.le_refl _)]
    drawState_eq := fun _ hlevels => ho.drawState_eq hlevels }⟩

/-- The charts without faults are exactly the trees whose transitions have both ends in them, and
all that goes down such a chart goes along its outline and ends. -/
theorem validate_eq_ok_iff_isTree (chart : Statechart) :
    (chart.validate = .ok () ↔ chart.IsTree ∧
      ∀ t ∈ chart.transitions, chart.Reaches t.source ∧ chart.Reaches t.target) ∧
    (chart.validate = .ok () → ∃ o, chart.Descends o) :=
  ⟨validate_eq_ok_iff_tree chart, fun h =>
    ((validate_eq_ok_iff_tree chart).1 h).1.exists_descends⟩

/-- Traffic lights that go from red to green, and that are put out. -/
def lights : Statechart where
  root := "Root"
  children := .ofList [("Root", ["Root/Lights", "Root/Off"]),
    ("Root/Lights", ["Root/Lights/Red", "Root/Lights/Green"])]
  concurrent := ["Root/Lights"]
  transitions := [⟨"Root/Lights/go", "Root/Lights/Red", "Root/Lights/Green"⟩,
    ⟨"Root/shutdown", "Root/Lights", "Root/Off"⟩]

/-- The chart of the lights is a tree, and what goes down it goes along its outline. -/
theorem exists_descends_lights : lights.validate = .ok () ∧ ∃ o, lights.Descends o := by
  have hvalid : lights.validate = .ok () := by decide +kernel
  exact ⟨hvalid, (validate_eq_ok_iff_isTree lights).2 hvalid⟩

end StateExplorer.Statechart
