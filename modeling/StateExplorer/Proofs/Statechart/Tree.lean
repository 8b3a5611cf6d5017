import Mathlib.Order.WellFoundedSet
import StateExplorer.Proofs.State.Sets
import StateExplorer.Proofs.Statechart.Outline

/-!
# Charts that are trees

A chart has no faults exactly if its children form a tree under the root and the root reaches both
ends of each transition. Cycles are looked for nowhere: where no state is listed twice and all that
is listed is reached, none can be there, as the state after the last one outside of a cycle would be
listed twice. So a chart without faults has an outline, and each descent through it ends.
-/

namespace StateExplorer.Statechart

open Relation (ReflTransGen TransGen)

variable {chart : Statechart} {state : String}

/-- Whether the children of a chart form a tree that holds all states that are listed: in all the lists
together the root has no parent, every other state has one parent and one place among its children,
the root reaches it, and no state is below itself. -/
structure IsTree (chart : Statechart) : Prop where
  root_not_kid : ∀ parent, ¬chart.Child parent chart.root
  parent_unique : ∀ kid parent other, chart.Child parent kid → chart.Child other kid → parent = other
  place_unique : ∀ parent, (chart.childrenOf parent).Nodup
  reached : ∀ parent kid, chart.Child parent kid → chart.Reaches kid
  acyclic : ∀ state, ¬TransGen chart.Child state state

/-- Where no state has two parents and all are reached from a root without one, there is no cycle. -/
theorem acyclic_of_parent_unique (hroot : ∀ parent, ¬chart.Child parent chart.root)
    (hunique : ∀ kid parent other, chart.Child parent kid → chart.Child other kid → parent = other)
    (hreached : ∀ parent kid, chart.Child parent kid → chart.Reaches kid) (state : String) :
    ¬TransGen chart.Child state state := by
  have hoff {state : String} (h : chart.Reaches state) : ¬TransGen chart.Child state state := by
    induction h with
    | refl =>
      intro hcycle
      obtain ⟨parent, -, hparent⟩ := TransGen.tail'_iff.1 hcycle
      exact hroot parent hparent
    | tail _ hkid ih =>
      rename_i parent kid _
      intro hcycle
      obtain ⟨other, hpath, hother⟩ := TransGen.tail'_iff.1 hcycle
      obtain rfl := hunique kid parent other hkid hother
      exact ih (.head' hkid hpath)
  intro hcycle
  obtain ⟨parent, -, hparent⟩ := TransGen.tail'_iff.1 hcycle
  exact hoff (hreached parent state hparent) hcycle

namespace IsTree

/-- Different children of one state do not lead to the same state. -/
theorem eq_of_siblings (h : chart.IsTree) {parent a b : String} (ha : chart.Child parent a)
    (hb : chart.Child parent b) (hax : ReflTransGen chart.Child a state)
    (hbx : ReflTransGen chart.Child b state) : a = b := by
  have hdescends {a b : String} (ha : chart.Child parent a) (hb : chart.Child parent b)
      (hab : ReflTransGen chart.Child a b) : a = b := by
    rcases ReflTransGen.cases_tail hab with hsame | ⟨other, hpath, hother⟩
    · exact hsame.symm
    · obtain rfl := h.parent_unique b parent other hb hother
      exact absurd (TransGen.head' ha hpath) (h.acyclic parent)
  have hunique : Relator.RightUnique (Function.swap chart.Child) :=
    fun kid parent other hparent hother => h.parent_unique kid parent other hparent hother
  rcases ReflTransGen.total_of_right_unique hunique (Relation.reflTransGen_swap.2 hax)
    (Relation.reflTransGen_swap.2 hbx) with hba | hab
  · exact (hdescends hb ha (Relation.reflTransGen_swap.1 hba)).symm
  · exact hdescends ha hb (Relation.reflTransGen_swap.1 hab)

/-- A state lies in one depth below the root only. -/
theorem below_unique (h : chart.IsTree) {m n : Nat} (hm : chart.Below m state)
    (hn : chart.Below n state) : m = n := by
  induction hm generalizing n with
  | root =>
    cases hn with
    | root => rfl
    | kid _ hkid => exact absurd hkid (h.root_not_kid _)
  | kid _ hkid ih =>
    cases hn with
    | root => exact absurd hkid (h.root_not_kid _)
    | kid hparent hkid' =>
      obtain rfl := h.parent_unique _ _ _ hkid hkid'
      rw [ih hparent]

/-- Every descent from a name of the chart ends. -/
theorem acc (h : chart.IsTree) (hstate : state ∈ chart.names) :
    Acc (fun kid parent => chart.Child parent kid) state := by
  have hstrict : IsStrictOrder String fun kid parent => TransGen chart.Child parent kid :=
    { irrefl := h.acyclic, trans := fun _ _ _ hba hcb => hcb.trans hba }
  have hnames : {name | name ∈ chart.names}.WellFoundedOn fun kid parent =>
      TransGen chart.Child parent kid := (List.finite_toSet chart.names).wellFoundedOn
  refine hnames.induction hstate fun parent _ ih => ?_
  exact Acc.intro parent fun kid hkid => ih kid hkid.mem_names (.single hkid)

end IsTree

/-! ### The outline of a tree -/

/-- States from which every descent ends have an outline. -/
theorem exists_outline {states : List String}
    (h : ∀ state ∈ states, Acc (fun kid parent => chart.Child parent kid) state) :
    ∃ o : Outline, o.heads = states ∧ o.Follows chart := by
  have hone {state : String} (h : Acc (fun kid parent => chart.Child parent kid) state) :
      ∀ rest : Outline, rest.Follows chart → ∃ o : Outline, o.heads = state :: rest.heads ∧
        o.Follows chart := by
    induction h with
    | intro state _ ih =>
      have hbelow (kids : List String) (hkids : ∀ kid ∈ kids, chart.Child state kid) :
          ∃ below : Outline, below.heads = kids ∧ below.Follows chart := by
        induction kids with
        | nil => exact ⟨.nil, rfl, trivial⟩
        | cons kid kids ihkids =>
          rw [List.forall_mem_cons] at hkids
          obtain ⟨more, hmore, hfollows⟩ := ihkids hkids.2
          rw [← hmore]
          exact ih kid hkids.1 more hfollows
      intro rest hrest
      obtain ⟨below, hheads, hfollows⟩ := hbelow (chart.childrenOf state) fun kid hkid => hkid
      exact ⟨.entry state below rest, rfl, hheads, hfollows, hrest⟩
  induction states with
  | nil => exact ⟨.nil, rfl, trivial⟩
  | cons state states ih =>
    rw [List.forall_mem_cons] at h
    obtain ⟨rest, hrest, hfollows⟩ := ih h.2
    rw [← hrest]
    exact hone h.1 rest hfollows

/-- An outline lists no state of a tree twice, if its first states do not lead to the same one. -/
theorem IsTree.nodup_states (h : chart.IsTree) {o : Outline} (hfollows : o.Follows chart)
    (hapart : o.heads.Pairwise fun a b => ∀ state, ReflTransGen chart.Child a state →
      ¬ReflTransGen chart.Child b state) : o.states.Nodup := by
  induction o with
  | nil => exact List.nodup_nil
  | entry s below rest ihbelow ihrest =>
    obtain ⟨hheads, hbelow, hrest⟩ := hfollows
    rw [Outline.heads, List.pairwise_cons] at hapart
    have hkids : below.heads.Pairwise fun a b => ∀ state, ReflTransGen chart.Child a state →
        ¬ReflTransGen chart.Child b state := by
      rw [hheads]
      refine (h.place_unique s).imp_of_mem fun ha hb hne state hax hbx => ?_
      exact hne (h.eq_of_siblings ha hb hax hbx)
    have hleads {x : String} (hx : x ∈ below.states) : TransGen chart.Child s x := by
      obtain ⟨kid, hkid, hpath⟩ := (Outline.mem_states_iff hbelow).1 hx
      rw [hheads] at hkid
      exact .head' hkid hpath
    have hother {x : String} (hx : x ∈ rest.states) : ¬ReflTransGen chart.Child s x := by
      obtain ⟨head, hhead, hpath⟩ := (Outline.mem_states_iff hrest).1 hx
      exact fun hs => hapart.1 head hhead x hs hpath
    rw [Outline.states, List.nodup_cons, List.mem_append, not_or, List.nodup_append']
    refine ⟨⟨fun hs => h.acyclic s (hleads hs), fun hs => hother hs .refl⟩,
      ihbelow hbelow hkids, ihrest hrest hapart.2, ?_⟩
    exact fun x hxbelow hxrest => hother hxrest (hleads hxbelow).to_reflTransGen

/-- Whether an outline is that of a chart: it begins with the root, lists below each state its
children, and lists no state twice. -/
structure Outlined (chart : Statechart) (o : Outline) : Prop where
  heads : o.heads = [chart.root]
  follows : o.Follows chart
  nodup : o.states.Nodup

/-- A tree has an outline. -/
theorem IsTree.exists_outlined (h : chart.IsTree) : ∃ o, chart.Outlined o := by
  obtain ⟨o, hheads, hfollows⟩ : ∃ o : Outline, o.heads = [chart.root] ∧ o.Follows chart :=
    exists_outline (List.forall_mem_singleton.2 (h.acc List.mem_cons_self))
  refine ⟨o, hheads, hfollows, h.nodup_states hfollows ?_⟩
  rw [hheads]
  exact List.pairwise_singleton _ _

namespace Outlined

variable {o : Outline}

/-- The outline of a chart lists what the root reaches. -/
theorem mem_states_iff (h : chart.Outlined o) : state ∈ o.states ↔ chart.Reaches state := by
  rw [Outline.mem_states_iff h.follows, h.heads]
  simp [Reaches]

/-- The outline of a chart is not higher than there are names. -/
theorem height_le (h : chart.Outlined o) : o.states.length ≤ chart.names.length ∧
    o.height ≤ chart.names.length := by
  have hlength : o.states.length ≤ chart.names.length :=
    (List.subperm_of_subset h.nodup fun _ hstate => (h.mem_states_iff.1 hstate).mem_names).length_le
  exact ⟨hlength, Nat.le_trans o.height_le_length_states hlength⟩

/-- The walk visits the states in the order of the outline. -/
theorem states_eq (h : chart.Outlined o) : chart.states = o.states := by
  have hnodup : (o.states.reverse ++ []).Nodup := by simpa using h.nodup
  have hvisit : chart.visit chart.names.length (o.heads ++ []) [] =
      chart.visit (chart.names.length - o.states.length) [] (o.states.reverse ++ []) :=
    Outline.visit_eq h.follows hnodup h.height_le.1
  rw [h.heads] at hvisit
  have hnone (turns : Nat) (visited : List String) :
      chart.visit turns [] visited = visited.reverse := by
    cases turns <;> rfl
  rw [states, ← List.append_nil [chart.root], hvisit, hnone, List.append_nil, List.reverse_reverse]

/-- A descent from the root finds a state where the outline lists it. -/
theorem depthBelow_eq (h : chart.Outlined o) {levels : Nat} (hlevels : chart.names.length ≤ levels)
    (target : String) : chart.depthBelow target levels chart.root 1 = o.depth? target 1 := by
  have hheight : o.height ≤ levels + 1 := Nat.le_succ_of_le (Nat.le_trans h.height_le.2 hlevels)
  have hdescent := Outline.findSome?_depthBelow h.follows hheight target 1
  rw [h.heads] at hdescent
  simpa using hdescent

/-- A descent from the root draws the entries of the outline. -/
theorem drawState_eq (h : chart.Outlined o) {levels : Nat} (hlevels : chart.names.length ≤ levels)
    (deepest : Nat) (active : List String) :
    chart.drawState deepest active levels chart.root = o.draw chart deepest active := by
  have hheight : o.height ≤ levels + 1 := Nat.le_succ_of_le (Nat.le_trans h.height_le.2 hlevels)
  have hdescent := Outline.flatMap_drawState h.follows hheight deepest active
  rw [h.heads] at hdescent
  simpa using hdescent

/-- The depth of a state is known if the outline lists it. -/
theorem isSome_depth?_iff (h : chart.Outlined o) :
    (chart.depth? state).isSome = true ↔ state ∈ o.states := by
  rw [depth?, h.depthBelow_eq (Nat.le_refl _), Outline.isSome_depth?_iff]

/-- The depth of a state is one more than the number of child links from the root to it. -/
theorem depth?_eq_some_iff (h : chart.Outlined o) (htree : chart.IsTree) {depth : Nat} :
    chart.depth? state = some depth ↔ ∃ n, chart.Below n state ∧ depth = 1 + n := by
  have hbelow {depth : Nat} (hdepth : chart.depth? state = some depth) :
      ∃ n, chart.Below n state ∧ depth = 1 + n := by
    rw [depth?, h.depthBelow_eq (Nat.le_refl _)] at hdepth
    have hroot : ∀ head ∈ o.heads, chart.Below 0 head := by
      rw [h.heads]
      exact List.forall_mem_singleton.2 .root
    obtain ⟨n, hn, hfound⟩ := Outline.exists_below_of_depth? h.follows hroot hdepth
    exact ⟨n, by rwa [Nat.zero_add] at hn, hfound⟩
  refine ⟨hbelow, ?_⟩
  rintro ⟨n, hn, rfl⟩
  obtain ⟨depth, hdepth⟩ := Option.isSome_iff_exists.1
    (h.isSome_depth?_iff.2 (h.mem_states_iff.2 hn.reaches))
  obtain ⟨m, hm, rfl⟩ := hbelow hdepth
  rw [hdepth, htree.below_unique hm hn]

end Outlined

end StateExplorer.Statechart
