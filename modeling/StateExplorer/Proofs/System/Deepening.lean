import StateExplorer.Proofs.System.Enumeration

/-!
# Searching deeper and deeper

To look for chains of which some state after the first meets a condition, with one more transition
each time, is to look for the least bound at which there are any. A chain that meets the condition
early can be cut there, and what is left is found at a lesser bound. So all chains that are found
at the least bound meet the condition in their last state, and in none between it and the first.
-/

namespace StateExplorer

/-- The sequences of so many items are the lists of that length. -/
theorem mem_sequences_iff {α : Type} {items list : List α} {n : Nat} :
    list ∈ sequences items n ↔ list.length = n ∧ ∀ item ∈ list, item ∈ items := by
  induction n generalizing list with
  | zero => simp +contextual [sequences]
  | succ n ih =>
    simp only [sequences, List.mem_flatMap, List.mem_map, ih]
    constructor
    · rintro ⟨item, hitem, rest, ⟨rfl, hrest⟩, rfl⟩
      exact ⟨rfl, List.forall_mem_cons.2 ⟨hitem, hrest⟩⟩
    · rintro ⟨hlength, hall⟩
      obtain ⟨item, rest, rfl⟩ := List.exists_cons_of_length_eq_add_one hlength
      obtain ⟨hitem, hrest⟩ := List.forall_mem_cons.1 hall
      exact ⟨item, hitem, rest, ⟨Nat.succ.inj hlength, hrest⟩, rfl⟩

/-- The problem of finding chains of which some state after the first meets a condition. -/
def Problem.seeking (start : Start) (condition : Condition) (bound : Nat) : Problem :=
  ⟨start, bound, [], some condition⟩

namespace TransitionSystem

variable {system : TransitionSystem} {transitionField : String} {start : Start}
  {condition : Condition} {bound : Nat} {leg : Leg} {ts : List Transition}

/-- Whether declared transitions that follow each other lead on from a leg where chains start. -/
structure Run (system : TransitionSystem) (transitionField : String) (start : Start) (leg : Leg)
    (ts : List Transition) : Prop where
  starts : leg ∈ system.starts transitionField start
  declared : ∀ t ∈ ts, t ∈ system.transitions
  follows : follow leg.state.name ts = true

/-- Whether a run of exactly so many declared transitions enters a state that meets a condition. -/
def Reaches (system : TransitionSystem) (transitionField : String) (start : Start)
    (condition : Condition) (bound : Nat) : Prop :=
  ∃ leg ts, system.Run transitionField start leg ts ∧ ts.length = bound ∧
    ∃ t ∈ ts, ∃ entered, system.entered? transitionField t = some entered ∧
      condition.holds entered.view = true

/-- The first transitions of a sequence follow each other if all do. -/
theorem follow_take {name : String} (h : follow name ts = true) (k : Nat) :
    follow name (ts.take k) = true := by
  induction ts generalizing name k with
  | nil => rwa [List.take_nil]
  | cons t rest ih =>
    cases k with
    | zero => rfl
    | succ k =>
      rw [follow, Bool.and_eq_true] at h
      rw [List.take_succ_cons, follow, Bool.and_eq_true]
      exact ⟨h.1, ih h.2 k⟩

/-- A run can be cut short. -/
theorem Run.take (h : system.Run transitionField start leg ts) (k : Nat) :
    system.Run transitionField start leg (ts.take k) :=
  ⟨h.starts, fun t ht => h.declared t (List.mem_of_mem_take ht), follow_take h.follows k⟩

/-- In a well-formed system every declared transition enters a state. -/
theorem exists_entered (hsystem : system.faults = []) (transitionField : String) {t : Transition}
    (ht : t ∈ system.transitions) : ∃ entered, system.entered? transitionField t = some entered := by
  obtain ⟨target, htarget⟩ := Option.isSome_iff_exists.1 (state?_target_isSome hsystem ht)
  exact ⟨_, by rw [entered?, htarget]; rfl⟩

/-- Every declared transition of a sequence enters one state. -/
theorem map_entered (hsystem : system.faults = []) (transitionField : String)
    (hts : ∀ t ∈ ts, t ∈ system.transitions) :
    ts.map (system.entered? transitionField) =
      (ts.filterMap (system.entered? transitionField)).map some := by
  induction ts with
  | nil => rfl
  | cons t rest ih =>
    obtain ⟨ht, hrest⟩ := List.forall_mem_cons.1 hts
    obtain ⟨entered, hentered⟩ := exists_entered hsystem transitionField ht
    rw [List.map_cons, ih hrest, List.filterMap_cons_some hentered, List.map_cons, hentered]

/-- A run that meets a condition early meets it with fewer transitions. -/
theorem Run.reaches (h : system.Run transitionField start leg ts) {i : Nat} {t : Transition}
    (ht : ts[i]? = some t) {entered : Leg} (hentered : system.entered? transitionField t = some entered)
    (hholds : condition.holds entered.view = true) :
    system.Reaches transitionField start condition (i + 1) := by
  have hlt : i < ts.length := (List.getElem?_eq_some_iff.1 ht).1
  refine ⟨leg, ts.take (i + 1), h.take (i + 1), List.length_take_of_le hlt, t, ?_, entered, hentered,
    hholds⟩
  refine List.mem_of_getElem? (i := i) ?_
  rw [List.getElem?_take_of_lt (Nat.lt_succ_self i), ht]

/-- The chains that solve the search for a condition are those of the runs that meet it. -/
theorem mem_enumeration_seeking_iff {views : List View} :
    views ∈ (Problem.seeking start condition bound).enumeration system transitionField ↔
      ∃ leg ts, system.Run transitionField start leg ts ∧ ts.length = bound ∧
        views = leg.view :: (ts.filterMap (system.entered? transitionField)).map (·.view) ∧
        ∃ entered ∈ ts.filterMap (system.entered? transitionField),
          condition.holds entered.view = true := by
  have haccepts (first : View) (legs : List Leg) :
      (Problem.seeking start condition bound).accepts (first :: legs.map (·.view)) = true ↔
        ∃ entered ∈ legs, condition.holds entered.view = true := by
    rw [Problem.accepts, Problem.seeking, Bool.and_eq_true, Option.all_some, List.tail_cons,
      List.any_map, List.any_eq_true]
    exact and_iff_right rfl
  simp only [Problem.enumeration, List.mem_flatMap, List.mem_filter, List.mem_map,
    mem_sequences_iff]
  constructor
  · rintro ⟨leg, hleg, ⟨ts, ⟨⟨hlength, hdeclared⟩, hfollows⟩, rfl⟩, hmeets⟩
    exact ⟨leg, ts, ⟨hleg, hdeclared, hfollows⟩, hlength, rfl, (haccepts _ _).1 hmeets⟩
  · rintro ⟨leg, ts, ⟨hleg, hdeclared, hfollows⟩, hlength, rfl, hmeets⟩
    exact ⟨leg, hleg, ⟨ts, ⟨⟨hlength, hdeclared⟩, hfollows⟩, rfl⟩, (haccepts _ _).2 hmeets⟩

end TransitionSystem

namespace Problem

open TransitionSystem

variable {system : TransitionSystem} {transitionField : String} {start : Start}
  {condition : Condition} {bound cap : Nat}

/-- The search for a condition finds chains exactly where a run meets it. -/
theorem chains_seeking_ne_nil_iff (hsystem : system.faults = []) (hcap : 1 ≤ cap) :
    (seeking start condition bound).chains system transitionField cap ≠ [] ↔
      system.Reaches transitionField start condition bound := by
  rw [chains_eq_take_enumeration hsystem, Ne, List.take_eq_nil_iff, not_or]
  constructor
  · rintro ⟨-, hsome⟩
    obtain ⟨views, hviews⟩ := List.exists_mem_of_ne_nil _ hsome
    obtain ⟨leg, ts, hrun, hlength, -, entered, hentered, hholds⟩ :=
      mem_enumeration_seeking_iff.1 hviews
    obtain ⟨t, ht, henters⟩ := List.mem_filterMap.1 hentered
    exact ⟨leg, ts, hrun, hlength, t, ht, entered, henters, hholds⟩
  · rintro ⟨leg, ts, hrun, hlength, t, ht, entered, henters, hholds⟩
    have hviews : _ ∈ (seeking start condition bound).enumeration system transitionField :=
      mem_enumeration_seeking_iff.2
        ⟨leg, ts, hrun, hlength, rfl, entered, List.mem_filterMap.2 ⟨t, ht, henters⟩, hholds⟩
    exact ⟨Nat.ne_of_gt hcap, List.ne_nil_of_mem hviews⟩

/-- Whether a condition holds in the last state of a chain, and in none between it and the first. -/
structure StopsAt (condition : Condition) (views : List View) : Prop where
  last : ∃ view, views.getLast? = some view ∧ condition.holds view = true
  before : ∀ i, 0 < i → i + 1 < views.length → ∀ view, views[i]? = some view →
    condition.holds view = false

/-- At the least bound at which a condition is met, it is met in the last state of every chain that is
found, and not before. -/
theorem stopsAt_of_mem_chains (hsystem : system.faults = [])
    (hleast : ∀ shorter, 1 ≤ shorter → shorter < bound →
      ¬system.Reaches transitionField start condition shorter) {views : List View}
    (hviews : views ∈ (seeking start condition bound).chains system transitionField cap) :
    StopsAt condition views := by
  rw [chains_eq_take_enumeration hsystem] at hviews
  obtain ⟨leg, ts, hrun, hlength, rfl, hmeets⟩ :=
    mem_enumeration_seeking_iff.1 (List.mem_of_mem_take hviews)
  have hentered := map_entered hsystem transitionField hrun.declared
  generalize ts.filterMap (system.entered? transitionField) = legs at hentered hmeets
  have hcount : legs.length = bound := by
    have hsame := congrArg List.length hentered
    rwa [List.length_map, List.length_map, hlength, eq_comm] at hsame
  -- Where a state meets the condition, the transitions after it are not needed.
  have hend {i : Nat} {entered : Leg} (hi : legs[i]? = some entered)
      (hholds : condition.holds entered.view = true) : i + 1 = bound := by
    have hlt : i < bound := hcount ▸ (List.getElem?_eq_some_iff.1 hi).1
    have hsame := congrArg (·[i]?) hentered
    simp only [List.getElem?_map, hi, Option.map_some] at hsame
    obtain ⟨t, ht, henters⟩ := Option.map_eq_some_iff.1 hsame
    rcases Nat.lt_or_eq_of_le (Nat.succ_le_of_lt hlt) with hshort | hsame
    · exact absurd (hrun.reaches ht henters hholds) (hleast (i + 1) (Nat.succ_pos i) hshort)
    · exact hsame
  refine ⟨?_, fun i hpos hi view hview => ?_⟩
  · obtain ⟨entered, hmem, hholds⟩ := hmeets
    obtain ⟨i, hi⟩ := List.mem_iff_getElem?.1 hmem
    have hlast : legs.getLast? = some entered := by
      rw [List.getLast?_eq_getElem?, hcount, ← hend hi hholds, Nat.add_sub_cancel, hi]
    refine ⟨entered.view, ?_, hholds⟩
    rw [List.getLast?_cons, List.getLast?_map, hlast]
    rfl
  · obtain ⟨j, rfl⟩ : ∃ j, i = j + 1 := ⟨i - 1, by omega⟩
    rw [List.getElem?_cons_succ, List.getElem?_map] at hview
    obtain ⟨entered, hj, rfl⟩ := Option.map_eq_some_iff.1 hview
    rw [List.length_cons, List.length_map, hcount] at hi
    refine Bool.eq_false_iff.2 fun hholds => ?_
    have hlast := hend hj hholds
    omega

end Problem

end StateExplorer
