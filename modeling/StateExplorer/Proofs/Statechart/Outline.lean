import StateExplorer.Proofs.Statechart.Visiting
import StateExplorer.Statechart.Drawing

/-!
# Outlines

An outline lists states one after another, each with the outline of its children. Where the children
of a chart form a tree, the outline of its root is the tree itself, and every descent through the
chart goes along it: the walk visits the states in the order of the outline, the depth of a state is
found at its place there, and the drawing has one block or one statement for each entry. None of them
goes deeper than the outline is high.
-/

namespace StateExplorer.Statechart

/-- States one after another, each with the outline of those below it. -/
inductive Outline
  | nil
  | entry (state : String) (below rest : Outline)
deriving DecidableEq

variable {chart : Statechart} {state target : String}

/-- How many child links lead from the root to a state. -/
inductive Below (chart : Statechart) : Nat → String → Prop
  | root : Below chart 0 chart.root
  | kid {n : Nat} {parent kid : String} (hparent : Below chart n parent)
      (hkid : chart.Child parent kid) : Below chart (n + 1) kid

/-- What lies below the root is reached. -/
theorem Below.reaches {n : Nat} (h : chart.Below n state) : chart.Reaches state := by
  induction h with
  | root => exact .refl
  | kid _ hkid ih => exact .tail ih hkid

namespace Outline

/-- The states that are listed first of all. -/
def heads : Outline → List String
  | nil => []
  | entry state _ rest => state :: rest.heads

/-- All states of an outline, each before those below it. -/
def states : Outline → List String
  | nil => []
  | entry state below rest => state :: (below.states ++ rest.states)

/-- How many levels an outline has. -/
def height : Outline → Nat
  | nil => 0
  | entry _ below rest => max (below.height + 1) rest.height

/-- Whether below each state its children in a chart are listed. -/
def Follows (chart : Statechart) : Outline → Prop
  | nil => True
  | entry state below rest =>
    below.heads = chart.childrenOf state ∧ below.Follows chart ∧ rest.Follows chart

/-- The depth at which a state is first listed, where the outline begins at the given depth. -/
def depth? (target : String) : Outline → (depth : Nat) → Option Nat
  | nil, _ => none
  | entry state below rest, depth =>
    if state = target then some depth
    else (below.depth? target (depth + 1)).or (rest.depth? target depth)

/-- The statements for the entries of an outline. -/
def draw (chart : Statechart) (deepest : Nat) (active : List String) : Outline → List String
  | nil => []
  | entry state below rest =>
    (if chart.isCluster deepest state then
      chart.clusterStart active state ++ below.draw chart deepest active ++ chart.clusterEnd state
    else leafStatement active state :: below.draw chart deepest active) ++
      rest.draw chart deepest active

variable {o : Outline}

/-- There are as many states as levels. -/
theorem height_le_length_states (o : Outline) : o.height ≤ o.states.length := by
  induction o with
  | nil => exact Nat.le_refl 0
  | entry state below rest ihbelow ihrest =>
    simp only [height, states, List.length_cons, List.length_append]
    omega

/-- An outline of no states is empty. -/
theorem eq_nil_of_heads (h : o.heads = []) : o = nil := by
  cases o with
  | nil => rfl
  | entry state below rest => cases h

/-- An outline of no levels is empty. -/
theorem eq_nil_of_height (h : o.height = 0) : o = nil := by
  cases o with
  | nil => rfl
  | entry state below rest =>
    simp only [height] at h
    omega

/-- The states of an outline are those that the first ones lead to. -/
theorem mem_states_iff (h : o.Follows chart) :
    state ∈ o.states ↔ ∃ head ∈ o.heads, Relation.ReflTransGen chart.Child head state := by
  induction o with
  | nil => simp [states, heads]
  | entry s below rest ihbelow ihrest =>
    obtain ⟨hheads, hbelow, hrest⟩ := h
    have hentry : Relation.ReflTransGen chart.Child s state ↔ state = s ∨ state ∈ below.states := by
      rw [ihbelow hbelow, hheads, Relation.ReflTransGen.cases_head_iff]
      exact or_congr eq_comm Iff.rfl
    simp only [states, heads, List.mem_cons, List.mem_append, exists_eq_or_imp, hentry, ihrest hrest,
      or_assoc]

/-! ### Descending -/

/-- The walk visits the states of an outline in order, if it has not been to any of them. -/
theorem visit_eq (h : o.Follows chart) {pending visited : List String}
    (hnodup : (o.states.reverse ++ visited).Nodup) {turns : Nat} (hturns : o.states.length ≤ turns) :
    chart.visit turns (o.heads ++ pending) visited =
      chart.visit (turns - o.states.length) pending (o.states.reverse ++ visited) := by
  induction o generalizing pending visited turns with
  | nil => rfl
  | entry s below rest ihbelow ihrest =>
    obtain ⟨hheads, hbelow, hrest⟩ := h
    simp only [states, List.length_cons, List.length_append, List.reverse_cons, List.reverse_append,
      List.append_assoc, List.cons_append, List.nil_append] at hnodup hturns ⊢
    obtain ⟨turns, rfl⟩ : ∃ n, turns = n + 1 := ⟨turns - 1, by omega⟩
    have hbelowNodup := (List.nodup_append.1 hnodup).2.1
    have hs : s ∉ visited := (List.nodup_cons.1 (List.nodup_append.1 hbelowNodup).2.1).1
    have hvisit : chart.visit (turns + 1) (s :: (rest.heads ++ pending)) visited =
        chart.visit turns (below.heads ++ (rest.heads ++ pending)) (s :: visited) := by
      simp [visit, hs, hheads]
    rw [heads, List.cons_append, hvisit, ihbelow hbelow hbelowNodup (by omega),
      ihrest hrest hnodup (by omega)]
    congr 1
    omega

/-- A descent finds a state where the outline lists it, if it may go down all levels. -/
theorem findSome?_depthBelow (h : o.Follows chart) {levels : Nat} (hlevels : o.height ≤ levels + 1)
    (target : String) (depth : Nat) :
    (o.heads.findSome? fun state => chart.depthBelow target levels state depth) =
      o.depth? target depth := by
  induction o generalizing levels depth with
  | nil => rfl
  | entry s below rest ihbelow ihrest =>
    obtain ⟨hheads, hbelow, hrest⟩ := h
    simp only [height] at hlevels
    have hentry : chart.depthBelow target levels s depth =
        if s = target then some depth else below.depth? target (depth + 1) := by
      cases levels with
      | zero =>
        obtain rfl := eq_nil_of_height (o := below) (by omega)
        rfl
      | succ levels =>
        rw [depthBelow, ← hheads, ihbelow hbelow (by omega : below.height ≤ levels + 1)]
    rw [heads, List.findSome?_cons, hentry, depth?, ihrest hrest (by omega)]
    by_cases hs : s = target
    · simp [hs]
    · simp only [if_neg hs]
      cases below.depth? target (depth + 1) <;> rfl

/-- A descent draws the entries of the outline, if it may go down all levels. -/
theorem flatMap_drawState (h : o.Follows chart) {levels : Nat} (hlevels : o.height ≤ levels + 1)
    (deepest : Nat) (active : List String) :
    o.heads.flatMap (chart.drawState deepest active levels) = o.draw chart deepest active := by
  induction o generalizing levels with
  | nil => rfl
  | entry s below rest ihbelow ihrest =>
    obtain ⟨hheads, hbelow, hrest⟩ := h
    simp only [height] at hlevels
    have hentry : chart.drawState deepest active levels s =
        if chart.isCluster deepest s then
          chart.clusterStart active s ++ below.draw chart deepest active ++ chart.clusterEnd s
        else leafStatement active s :: below.draw chart deepest active := by
      cases levels with
      | zero =>
        obtain rfl := eq_nil_of_height (o := below) (by omega)
        rfl
      | succ levels =>
        rw [drawState, ← hheads, ihbelow hbelow (by omega : below.height ≤ levels + 1)]
    rw [heads, List.flatMap_cons, hentry, draw, ihrest hrest (by omega)]

/-! ### Depths -/

/-- An outline knows the depths of the states that it lists. -/
theorem isSome_depth?_iff {depth : Nat} : (o.depth? target depth).isSome = true ↔ target ∈ o.states := by
  induction o generalizing depth with
  | nil => simp [depth?, states]
  | entry s below rest ihbelow ihrest =>
    rw [depth?, states, List.mem_cons, List.mem_append]
    by_cases hs : s = target
    · simp [hs]
    · rw [if_neg hs, Option.isSome_or, Bool.or_eq_true, ihbelow, ihrest, or_iff_right (Ne.symm hs)]

/-- The depth of a state is counted in child links, from that of the first states. -/
theorem exists_below_of_depth? (h : o.Follows chart) {m : Nat}
    (hheads : ∀ head ∈ o.heads, chart.Below m head) {depth found : Nat}
    (hfound : o.depth? target depth = some found) :
    ∃ n, chart.Below (m + n) target ∧ found = depth + n := by
  induction o generalizing m depth with
  | nil => cases hfound
  | entry s below rest ihbelow ihrest =>
    obtain ⟨hkids, hbelow, hrest⟩ := h
    rw [heads, List.forall_mem_cons] at hheads
    rw [depth?] at hfound
    split at hfound
    · rename_i hs
      subst hs
      exact ⟨0, hheads.1, (Option.some.inj hfound).symm⟩
    · rcases Option.or_eq_some_iff.1 hfound with hin | ⟨-, hlater⟩
      · have hnext : ∀ kid ∈ below.heads, chart.Below (m + 1) kid := by
          rw [hkids]
          exact fun kid hkid => .kid hheads.1 hkid
        obtain ⟨n, hn, rfl⟩ := ihbelow hbelow hnext hin
        exact ⟨n + 1, by rwa [Nat.add_comm n 1, ← Nat.add_assoc], by omega⟩
      · exact ihrest hrest hheads.2 hlater

end Outline

end StateExplorer.Statechart
