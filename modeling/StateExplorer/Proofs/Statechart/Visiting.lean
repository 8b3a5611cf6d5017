import Mathlib.Data.List.Nodup
import Mathlib.Logic.Relation
import Mathlib.Tactic.Tauto
import StateExplorer.Proofs.NameMap
import StateExplorer.Statechart.Basic

/-!
# The states that a root reaches

The walk over a chart takes pending states until none is left, whether the children form a tree or
lead back to states above them: each turn takes a pending state, and only a state that is new puts
children there, so that the turns are bounded by the children that are still waiting. All that the
root reaches by child links is visited, and each of it once.
-/

namespace StateExplorer.Statechart

variable {chart : Statechart} {state kid : String} {pending visited : List String}

/-- Whether one state is listed as a child of another. -/
def Child (chart : Statechart) (parent kid : String) : Prop := kid ∈ chart.childrenOf parent

/-- Whether the root leads to a state by child links. -/
def Reaches (chart : Statechart) (state : String) : Prop :=
  Relation.ReflTransGen chart.Child chart.root state

/-- The children of a state are those of its entry. -/
theorem childrenOf_of_mem {kids : List String} (h : (state, kids) ∈ chart.children.entries) :
    chart.childrenOf state = kids := by
  rw [childrenOf, NameMap.mem_entries_iff.1 h, Option.getD_some]

/-- A state with children has an entry for them. -/
theorem mem_entries_of_child (h : chart.Child state kid) :
    (state, chart.childrenOf state) ∈ chart.children.entries := by
  unfold Child at h
  rw [NameMap.mem_entries_iff]
  unfold childrenOf at h ⊢
  cases hkids : chart.children.get? state with
  | none => simp [hkids] at h
  | some kids => rfl

/-- The children that are listed are those of some state. -/
theorem mem_listed_iff {parent : String} :
    (kid, parent) ∈ chart.listed ↔ chart.Child parent kid := by
  simp only [listed, List.mem_flatMap, List.mem_map, Prod.mk.injEq, Prod.exists]
  constructor
  · rintro ⟨p, kids, hentry, k, hk, rfl, rfl⟩
    rwa [Child, childrenOf_of_mem hentry]
  · exact fun h => ⟨parent, _, mem_entries_of_child h, kid, h, rfl, rfl⟩

/-- A child is a name of its chart. -/
theorem Child.mem_names {parent : String} (h : chart.Child parent kid) : kid ∈ chart.names :=
  List.mem_cons_of_mem _ (List.mem_map.2 ⟨(kid, parent), mem_listed_iff.2 h, rfl⟩)

/-- A name is the root or a child. -/
theorem mem_names_iff : state ∈ chart.names ↔ state = chart.root ∨ ∃ parent, chart.Child parent state := by
  simp only [names, List.mem_cons, List.mem_map, Prod.exists, exists_and_right, exists_eq_right,
    mem_listed_iff]

/-- What the root reaches is a name of the chart. -/
theorem Reaches.mem_names (h : chart.Reaches state) : state ∈ chart.names := by
  cases h with
  | refl => exact List.mem_cons_self
  | tail _ hchild => exact hchild.mem_names

/-! ### The walk ends -/

/-- How many children are listed under states that are not visited. -/
def waiting (chart : Statechart) (visited : List String) : Nat :=
  (chart.children.entries.flatMap fun entry =>
    if visited.contains entry.1 then [] else entry.2).length

/-- Before the walk all listed children are waiting. -/
theorem waiting_nil (chart : Statechart) : chart.waiting [] = chart.listed.length := by
  simp [waiting, listed, List.length_flatMap]

/-- The children of a state stop waiting when it is visited. -/
theorem waiting_cons (h : state ∉ visited) :
    chart.waiting (state :: visited) + (chart.childrenOf state).length = chart.waiting visited := by
  have hentries (entries : List (String × List String)) (hnames : (entries.map Prod.fst).Nodup) :
      (entries.flatMap fun e => if (state :: visited).contains e.1 then [] else e.2).length +
          ((entries.lookup state).getD []).length =
        (entries.flatMap fun e => if visited.contains e.1 then [] else e.2).length := by
    induction entries with
    | nil => rfl
    | cons e rest ih =>
      obtain ⟨name, kids⟩ := e
      rw [List.map_cons, List.nodup_cons] at hnames
      have hrest := ih hnames.2
      simp only [List.flatMap_cons, List.length_append, List.contains_iff_mem, List.mem_cons] at hrest ⊢
      rw [NameMap.lookup_cons_eq]
      by_cases hname : state = name
      · subst hname
        have hnone : rest.lookup state = none := by
          refine Option.eq_none_iff_forall_ne_some.2 fun kids hkids => hnames.1 ?_
          exact List.mem_map.2 ⟨_, (NameMap.lookup_eq_some_iff_mem hnames.2).1 hkids, rfl⟩
        simp only [hnone, Option.getD_none, List.length_nil, Nat.add_zero] at hrest
        simp only [if_true, true_or, h, if_false, Option.getD_some, hrest, List.length_nil]
        omega
      · simp only [Ne.symm hname, false_or, if_neg hname]
        omega
  exact hentries chart.children.entries chart.children.nodup_names

/-- What holds of the pending and the visited states, and is kept when the next one is taken, holds
in the end, when none is pending: with a turn for each pending state and for each child that is
waiting, none is left over. -/
theorem exists_visit {P : List String → List String → Prop}
    (hseen : ∀ state pending visited, P (state :: pending) visited → state ∈ visited →
      P pending visited)
    (hnew : ∀ state pending visited, P (state :: pending) visited → state ∉ visited →
      P (chart.childrenOf state ++ pending) (state :: visited))
    {turns : Nat} (hturns : pending.length + chart.waiting visited ≤ turns)
    (h : P pending visited) :
    ∃ final, P [] final ∧ chart.visit turns pending visited = final.reverse := by
  induction turns generalizing pending visited with
  | zero =>
    obtain rfl : pending = [] := List.length_eq_zero_iff.1 (by omega)
    exact ⟨visited, h, rfl⟩
  | succ turns ih =>
    cases pending with
    | nil => exact ⟨visited, h, rfl⟩
    | cons state pending =>
      rw [List.length_cons] at hturns
      by_cases hvisited : state ∈ visited
      · have hvisit : chart.visit (turns + 1) (state :: pending) visited =
            chart.visit turns pending visited := by
          simp [visit, hvisited]
        rw [hvisit]
        exact ih (by omega) (hseen state pending visited h hvisited)
      · have hvisit : chart.visit (turns + 1) (state :: pending) visited =
            chart.visit turns (chart.childrenOf state ++ pending) (state :: visited) := by
          simp [visit, hvisited]
        have hwaiting : chart.waiting (state :: visited) + (chart.childrenOf state).length =
            chart.waiting visited := waiting_cons hvisited
        rw [hvisit]
        refine ih ?_ (hnew state pending visited h hvisited)
        rw [List.length_append]
        omega

/-- What holds before the walk, and is kept when the next state is taken, holds when the walk has
visited the states. -/
theorem exists_states {P : List String → List String → Prop}
    (hseen : ∀ state pending visited, P (state :: pending) visited → state ∈ visited →
      P pending visited)
    (hnew : ∀ state pending visited, P (state :: pending) visited → state ∉ visited →
      P (chart.childrenOf state ++ pending) (state :: visited))
    (h : P [chart.root] []) : ∃ final, P [] final ∧ chart.states = final.reverse := by
  have hturns : [chart.root].length + chart.waiting [] ≤ chart.names.length := by
    rw [waiting_nil, names]
    simp [Nat.add_comm]
  exact exists_visit hseen hnew hturns h

/-! ### What is visited -/

/-- What holds during a walk: no state is visited twice, all that is known is reached, and all that
is reached at once from what was visited is known. -/
structure Visiting (chart : Statechart) (pending visited : List String) : Prop where
  nodup : visited.Nodup
  reached : ∀ state ∈ pending ++ visited, chart.Reaches state
  root_known : chart.root ∈ pending ++ visited
  kid_known : ∀ state ∈ visited, ∀ kid, chart.Child state kid → kid ∈ pending ++ visited

/-- A pending state that was visited before is dropped. -/
theorem Visiting.seen (h : chart.Visiting (state :: pending) visited) (hstate : state ∈ visited) :
    chart.Visiting pending visited := by
  have hknown {other : String} (hother : other ∈ state :: pending ++ visited) :
      other ∈ pending ++ visited := by
    rcases List.mem_cons.1 hother with rfl | hother
    · exact List.mem_append_right _ hstate
    · exact hother
  exact ⟨h.nodup, fun other hother => h.reached other (List.mem_cons_of_mem _ hother),
    hknown h.root_known, fun other hother kid hkid => hknown (h.kid_known other hother kid hkid)⟩

/-- A pending state that is new is visited, and its children are pending. -/
theorem Visiting.new (h : chart.Visiting (state :: pending) visited) (hstate : state ∉ visited) :
    chart.Visiting (chart.childrenOf state ++ pending) (state :: visited) := by
  have hreached : chart.Reaches state := h.reached state List.mem_cons_self
  have hknown {other : String} (hother : other ∈ state :: pending ++ visited) :
      other ∈ chart.childrenOf state ++ pending ++ state :: visited := by
    simp only [List.mem_append, List.mem_cons] at hother ⊢
    tauto
  refine ⟨List.nodup_cons.2 ⟨hstate, h.nodup⟩, ?_, hknown h.root_known, ?_⟩
  · intro other hother
    by_cases hkid : chart.Child state other
    · exact hreached.tail hkid
    · refine h.reached other ?_
      simp only [Child, List.mem_append, List.mem_cons] at hkid hother ⊢
      tauto
  · intro other hother kid hkid
    rcases List.mem_cons.1 hother with rfl | hother
    · exact List.mem_append_left _ (List.mem_append_left _ hkid)
    · exact hknown (h.kid_known other hother kid hkid)

/-- The walk visits exactly what the root reaches, and each state once. -/
theorem states_spec (chart : Statechart) :
    chart.states.Nodup ∧ ∀ state, state ∈ chart.states ↔ chart.Reaches state := by
  have hstart : chart.Visiting [chart.root] [] :=
    ⟨List.nodup_nil, by simp [Reaches, Relation.ReflTransGen.refl], by simp, by simp⟩
  obtain ⟨final, h, hfinal⟩ := exists_states (P := chart.Visiting)
    (fun _ _ _ h hstate => h.seen hstate) (fun _ _ _ h hstate => h.new hstate) hstart
  rw [hfinal]
  refine ⟨List.nodup_reverse.2 h.nodup, fun state => ?_⟩
  rw [List.mem_reverse]
  refine ⟨fun hstate => h.reached state hstate, fun hreached => ?_⟩
  induction hreached with
  | refl => exact h.root_known
  | tail _ hchild ih => exact h.kid_known _ ih _ hchild

end StateExplorer.Statechart
