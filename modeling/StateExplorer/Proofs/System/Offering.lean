import Mathlib.Algebra.Group.Nat.Defs
import StateExplorer.Proofs.System.Roundtrip

/-!
# Every step is offered

A problem without conditions is answered with every run of its bound from where it lets chains
start, as long as the answer stays below what the solver allows. The states that come back from
the answer are those of the run, if tuples carry what a query prescribes for the transition field.
How many runs there can be is bounded by the size of the system.
-/

namespace StateExplorer

/-! ### How many chains there are -/

/-- Joined lists are no longer than their number times the length of the longest. -/
theorem length_flatMap_le {α β : Type} {items : List α} {f : α → List β} {n : Nat}
    (h : ∀ a ∈ items, (f a).length ≤ n) : (items.flatMap f).length ≤ items.length * n := by
  induction items with
  | nil => exact Nat.zero_le _
  | cons a rest ih =>
    obtain ⟨ha, hrest⟩ := List.forall_mem_cons.1 h
    have hmore := ih hrest
    rw [List.flatMap_cons, List.length_append, List.length_cons, Nat.succ_mul]
    omega

namespace TransitionSystem

variable {system : TransitionSystem} {transitionField : String}

/-- There are no more runs than sequences of transitions. -/
theorem length_runs_le (n : Nat) (source : SystemState) :
    (system.runs transitionField n source).length ≤ system.transitions.length ^ n := by
  induction n generalizing source with
  | zero => exact Nat.le_refl 1
  | succ n ih =>
    have hmoves : (system.moves transitionField source).length ≤ system.transitions.length :=
      (List.length_filterMap_le _ _).trans (List.length_filter_le _ _)
    calc (system.runs transitionField (n + 1) source).length
        ≤ (system.moves transitionField source).length * system.transitions.length ^ n :=
          length_flatMap_le fun next _ => by rw [List.length_map]; exact ih next.state
      _ ≤ system.transitions.length * system.transitions.length ^ n :=
          Nat.mul_le_mul_right _ hmoves
      _ = system.transitions.length ^ (n + 1) := (Nat.pow_succ').symm

/-- Chains start at states of the system or at initial ones. -/
theorem length_starts_le (start : Start) : (system.starts transitionField start).length ≤
    max system.initial.length system.states.length := by
  cases start with
  | matching condition =>
    refine Nat.le_trans ?_ (Nat.le_max_left _ _)
    refine (List.length_filter_le _ _).trans ?_
    rw [List.length_map]
    exact List.length_filterMap_le _ _
  | fixed given =>
    refine Nat.le_trans ?_ (Nat.le_max_right _ _)
    rw [starts, List.length_map]
    exact List.length_filter_le _ _

end TransitionSystem

namespace Problem

/-- The number of chains is bounded by the number of states and transitions. -/
theorem length_chains_le (problem : Problem) (system : TransitionSystem) (transitionField : String)
    (cap : Nat) : (problem.chains system transitionField cap).length ≤
      max system.initial.length system.states.length *
        system.transitions.length ^ problem.bound := by
  rw [chains_eq_take, List.length_take]
  refine (Nat.min_le_right _ _).trans ((length_flatMap_le fun leg _ => ?_).trans
    (Nat.mul_le_mul_right _ (TransitionSystem.length_starts_le _)))
  rw [solutions, List.length_map]
  exact (List.length_filter_le _ _).trans (TransitionSystem.length_runs_le _ _)

/-- A problem that asks for no transition and is solved asks nothing of later states. -/
theorem reach_eq_none {problem : Problem} {system : TransitionSystem} {transitionField : String}
    {cap : Nat} (hbound : problem.bound = 0)
    (hchains : problem.chains system transitionField cap ≠ []) : problem.reach = none := by
  obtain ⟨views, hviews⟩ := List.exists_mem_of_ne_nil _ hchains
  rw [chains_eq_take] at hviews
  obtain ⟨leg, -, hsolution⟩ := List.mem_flatMap.1 (List.mem_of_mem_take hviews)
  obtain ⟨legs, hlegs, -⟩ := List.mem_map.1 hsolution
  obtain ⟨hrun, hsolves⟩ := List.mem_filter.1 hlegs
  rw [hbound] at hrun
  obtain rfl : legs = [] := List.mem_singleton.1 hrun
  match hreach : problem.reach with
  | none => rfl
  | some condition => simp [reached, hreach] at hsolves

/-- Every run from where a problem without conditions lets chains start is among its chains, as
long as there is room. -/
theorem mem_chains_free {start : Start} {bound : Nat} {system : TransitionSystem}
    {transitionField : String} {cap : Nat} {legs : List Leg}
    (hroom : ((free start bound).chains system transitionField cap).length < cap) {leg : Leg}
    (hleg : leg ∈ system.starts transitionField start)
    (hlegs : legs ∈ system.runs transitionField bound leg.state) :
    (leg :: legs).map (·.view) ∈ (free start bound).chains system transitionField cap := by
  rw [chains_free, List.length_take] at hroom
  rw [chains_free, List.take_of_length_le (by omega)]
  exact List.mem_flatMap.2 ⟨leg, hleg, List.mem_map.2 ⟨legs, hlegs, rfl⟩⟩

end Problem

/-- Whether a solver never stops short of an answer to a query for one transition or none. -/
def ExplicitSolver.Roomy (solver : ExplicitSolver) : Prop :=
  ∀ text problem, solver.read text = .ok problem → problem.bound ≤ 1 →
    (solver.chains problem).length < solver.cap

/-- Where more chains are allowed than there can be, a solver never stops short. -/
theorem ExplicitSolver.roomy_of_lt {solver : ExplicitSolver}
    (h : max solver.system.initial.length solver.system.states.length *
      max 1 solver.system.transitions.length < solver.cap) : solver.Roomy := by
  intro text problem _ hbound
  have hpow : solver.system.transitions.length ^ problem.bound ≤
      max 1 solver.system.transitions.length := by
    rcases Nat.le_one_iff_eq_zero_or_eq_one.1 hbound with hzero | hone
    · rw [hzero, Nat.pow_zero]
      exact Nat.le_max_left _ _
    · rw [hone, Nat.pow_one]
      exact Nat.le_max_right _ _
  exact ((problem.length_chains_le _ _ _).trans (Nat.mul_le_mul_left _ hpow)).trans_lt h

/-! ### What comes back from them -/

namespace TransitionSystem

variable {system : TransitionSystem} {transitionField : String} {leg : Leg}

/-- Whether a leg is seen as a state of the system is that was entered with a plain label or with
none. -/
structure Sees (system : TransitionSystem) (transitionField : String) (leg : Leg) : Prop where
  mem : leg.state ∈ system.states
  view_eq : ∃ label, (∀ l ∈ label, Text.isPlain l = true) ∧
    leg.view = system.view transitionField leg.state label

/-- A plain system sees the states that its transitions enter. -/
theorem Plain.sees (h : system.Plain) {source : SystemState}
    (hleg : leg ∈ system.moves transitionField source) : system.Sees transitionField leg := by
  obtain ⟨t, ht, -, htarget, hview⟩ := mem_moves_iff.1 hleg
  exact ⟨mem_states_of_state? htarget, t.label, h.labels t ht, hview⟩

/-- Where chains start at states that a condition matches, these are seen. -/
theorem sees_of_matching {condition : Condition}
    (hleg : leg ∈ system.starts transitionField (.matching condition)) :
    system.Sees transitionField leg := by
  have hmem := (shows_of_mem_starts hleg).mem
  obtain ⟨hshown, -⟩ := List.mem_filter.1 hleg
  obtain ⟨state, -, rfl⟩ := List.mem_map.1 hshown
  exact ⟨hmem, none, by simp, rfl⟩

namespace Sees

/-- Tuples carry what is seen. -/
theorem carries (h : system.Sees transitionField leg) (hsystem : system.Relational) :
    system.fields.Carries leg.view := by
  obtain ⟨label, hlabel, hview⟩ := h.view_eq
  rw [hview]
  exact hsystem.carries h.mem hlabel

/-- What is seen fits the fields of the system, and is what the state has as sets. -/
theorem fits (h : system.Sees transitionField leg) (hsystem : system.Relational) :
    (State.ofFields leg.view).Fits system.fields ∧ (State.ofFields leg.view).sets = leg.view := by
  obtain ⟨label, hlabel, hview⟩ := h.view_eq
  rw [hview]
  exact ⟨hsystem.fits h.mem hlabel, sets_ofFields_view⟩

/-- Chains start at what is seen if its fields are given. -/
theorem mem_starts (h : system.Sees transitionField leg) :
    leg ∈ system.starts transitionField (.fixed leg.view) := by
  obtain ⟨label, -, hview⟩ := h.view_eq
  refine List.mem_map.2 ⟨leg.state, List.mem_filter.2 ⟨h.mem, beq_iff_eq.2 ?_⟩, rfl⟩
  rw [hview, content_view leg.state label]

end Sees

/-- Tuples carry where chains start, if they carry what is prescribed for the transition field and
fields that are given are those of the system. -/
theorem Relational.carries_of_mem_starts (h : system.Relational) {start : Start}
    (hgiven : ∀ given, start = .fixed given →
      ∀ name, (given.get? name).isSome = true ↔ name ∈ system.fields.names)
    (hleg : leg ∈ system.starts transitionField start)
    (hprescribed : ∀ v ∈ (leg.view.get? transitionField).getD [], Tuple.readBack v = v) :
    system.fields.Carries leg.view := by
  cases start with
  | matching condition => exact (sees_of_matching hleg).carries h
  | fixed given =>
    have hmem := (shows_of_mem_starts hleg).mem
    have hcontent := content_of_mem_starts hleg
    obtain ⟨state, -, rfl⟩ := List.mem_map.1 hleg
    refine ⟨hgiven given rfl, fun name values hvalues v hv => ?_⟩
    by_cases hname : name = transitionField
    · subst hname
      refine hprescribed v ?_
      rw [hvalues]
      exact hv
    · rw [← content_eq_iff.1 hcontent name hname] at hvalues
      have hunlabelled : ∀ l ∈ (none : Option String), Text.isPlain l = true := by simp
      exact (h.of_get?_view hmem hunlabelled hvalues v hv).readBack_eq

/-- The chain without transitions of each start is found: the first one, or one of a state that is
seen. -/
theorem exists_chain_of_mem_starts {start : Start} {cap : Nat}
    (hroom : ((Problem.free start 0).chains system transitionField cap).length < cap)
    (hleg : leg ∈ system.starts transitionField start) :
    ∃ i, ((Problem.free start 0).chains system transitionField cap)[i]? = some [leg.view] ∧
      (i = 0 ∨ system.Sees transitionField leg) := by
  have hmem : [leg.view] ∈ (Problem.free start 0).chains system transitionField cap :=
    Problem.mem_chains_free hroom hleg (List.mem_singleton_self [])
  cases start with
  | matching condition =>
    obtain ⟨i, hi⟩ := List.mem_iff_getElem?.1 hmem
    exact ⟨i, hi, .inr (sees_of_matching hleg)⟩
  | fixed given =>
    refine ⟨0, ?_, .inl rfl⟩
    have hfirst := List.getElem?_eq_getElem (List.length_pos_of_mem hmem)
    have hgiven : leg.view = given := by
      obtain ⟨state, -, rfl⟩ := List.mem_map.1 hleg
      rfl
    rw [hfirst, Problem.eq_of_mem_chains_fixed (List.getElem_mem _), hgiven]

end TransitionSystem

end StateExplorer
