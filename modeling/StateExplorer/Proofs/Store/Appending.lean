import StateExplorer.Proofs.Store.Recording

/-!
# What a store keeps

A store that grew still has every node it had, with the same state, fingerprint and route; its
steps were only added to, and only steps to new numbers. Recording a route could give an old node a
route that it lacked. Where every route is recorded, as it is once a chain was attached, there is
no such node, so recording changes new nodes only.
-/

namespace StateExplorer

namespace Store

variable {store old mid new : Store} {parent : Option Nat}

/-- Whether a store comes from another one by additions: every node is there as it was, but for
steps to numbers that came since. -/
structure Appended (old new : Store) : Prop where
  size_le : old.size ≤ new.size
  nodes : ∀ id node, old.node? id = some node →
    ∃ more, new.node? id = some { node with edges := node.edges ++ more } ∧
      ∀ edge ∈ more, old.size < edge.target ∧ edge.target ≤ new.size

namespace Appended

/-- Nothing is added to a store by itself. -/
theorem refl (store : Store) : store.Appended store where
  size_le := Nat.le_refl _
  nodes _ node hnode := ⟨[], by rw [hnode, List.append_nil], List.forall_mem_nil _⟩

/-- What is added in two steps is added. -/
theorem trans (hold : old.Appended mid) (hmid : mid.Appended new) : old.Appended new where
  size_le := Nat.le_trans hold.size_le hmid.size_le
  nodes id node hnode := by
    have hsize := hold.size_le
    have hsize' := hmid.size_le
    obtain ⟨more, hmore, htargets⟩ := hold.nodes id node hnode
    obtain ⟨others, hothers, htargets'⟩ := hmid.nodes id _ hmore
    refine ⟨more ++ others, by rw [hothers, List.append_assoc], fun edge hedge => ?_⟩
    rcases List.mem_append.1 hedge with hedge | hedge
    · have := htargets edge hedge
      omega
    · have := htargets' edge hedge
      omega

/-- One more state is an addition. -/
theorem push (store : Store) (parent : Option Nat) (state : State) :
    store.Appended (store.push parent state) where
  size_le := by rw [size_push]; omega
  nodes id node hnode := by
    have hold : id ≠ store.size + 1 := by
      have := (has_of_node? hnode).2
      omega
    rw [node?_push, if_neg hold, hnode, size_push]
    by_cases hparent : parent = some id
    · refine ⟨[⟨store.size + 1, store.label? state⟩], by simp [hparent], fun edge hedge => ?_⟩
      rw [List.mem_singleton.1 hedge]
      exact ⟨Nat.lt_succ_self _, Nat.le_refl _⟩
    · exact ⟨[], by simp [hparent], List.forall_mem_nil _⟩

/-- A chain is an addition. -/
theorem grow (store : Store) (parent : Option Nat) (chain : List State) :
    store.Appended (store.grow parent chain) := by
  induction chain generalizing store parent with
  | nil => exact refl store
  | cons state rest ih => exact (push store parent state).trans (ih _ _)

end Appended

/-- A node gets a route if it is the one of the number and has none. -/
theorem node?_recordRoute (store : Store) (id : Nat) (route : List Nat) (i : Nat) :
    (store.recordRoute id route).2.node? i =
      (store.node? i).map fun n => if i = id ∧ n.route = [] then { n with route := route } else n := by
  unfold recordRoute
  cases hnode : store.node? id with
  | none =>
    have hother : ∀ n, store.node? i = some n → ¬i = id := by
      rintro n hn rfl
      rw [hnode] at hn
      cases hn
    rw [Store.node, hnode]
    cases hi : store.node? i with
    | none => rfl
    | some n => simp [hother n hi]
  | some node =>
    rw [node_eq_ok hnode]
    by_cases hroute : node.route = [] ∧ route ≠ []
    · have hgiven : (node.route.isEmpty && !route.isEmpty) = true := by simpa using hroute
      simp only [hgiven, if_true, node?]
      split
      · rfl
      · rename_i hi
        rw [getElem?_changeNode, Nat.sub_add_cancel (by omega)]
        cases hn : store.nodes[i - 1]? with
        | none => rfl
        | some n =>
          by_cases hid : i = id
          · subst hid
            obtain rfl : n = node := by simpa [node?, hi, hn] using hnode
            simp [hroute.1]
          · simp [hid]
    · have hgiven : (node.route.isEmpty && !route.isEmpty) = false := by simpa using hroute
      simp only [hgiven, Bool.false_eq_true, if_false]
      cases hi : store.node? i with
      | none => rfl
      | some n =>
        rw [Option.map_some]
        split
        · rename_i hsame
          obtain ⟨rfl, hnil⟩ := hsame
          obtain rfl : n = node := Option.some.inj (hi.symm.trans hnode)
          obtain rfl : route = [] := by
            by_contra hne
            exact hroute ⟨hnil, hne⟩
          rw [← hnil]
        · rfl

/-- Recording a route adds to what a settled store became. -/
theorem Appended.recordRoute (h : old.Appended new) (hsettled : old.Settled) (id : Nat)
    (route : List Nat) : old.Appended (new.recordRoute id route).2 := by
  have hsize : (new.recordRoute id route).2.size = new.size := (alike_recordRoute new id route).size
  refine ⟨hsize ▸ h.size_le, fun i node hnode => ?_⟩
  obtain ⟨more, hmore, htargets⟩ := h.nodes i node hnode
  refine ⟨more, ?_, hsize ▸ htargets⟩
  rw [node?_recordRoute, hmore, Option.map_some, if_neg]
  exact fun hsame => hsettled.route_ne_nil hnode hsame.2

/-- Recording a walk adds to what a settled store became. -/
theorem Appended.recordTo (h : old.Appended new) (hsettled : old.Settled) (walk ids : List Nat) :
    old.Appended (new.recordTo walk ids) := by
  induction ids generalizing new with
  | nil => exact h
  | cons id rest ih =>
    rw [recordTo_cons]
    split
    · exact ih (h.recordRoute hsettled id _)
    · exact ih h

/-- A chain that is stored and recorded on a walk that has all of it settles the store. -/
theorem Settled.grow_recordTo (h : store.Settled) (parent : Option Nat) (chain : List State)
    {walk : List Nat} (hwalk : List.range' (store.size + 1) chain.length ⊆ walk) :
    ((store.grow parent chain).recordTo walk
      (List.range' (store.size + 1) chain.length)).Settled := by
  intro k hk
  rw [routes_recordTo] at hk
  split at hk
  · rename_i hnew
    have hcut := Option.some.inj hk
    simp [List.ne_nil_of_mem hnew.2.2] at hcut
  · rename_i hold
    refine hold ⟨hk, ?_⟩
    have hnew := h.mem_of_routes_grow hk
    exact ⟨hnew, hwalk hnew⟩

/-- A store without states is settled. -/
theorem settled_empty (transitionField : Option String) : (empty transitionField).Settled := by
  intro k hk
  simp [routes, empty] at hk

/-- A chain that is stored as a root settles the store. -/
theorem settled_rooted (transitionField : String) (chain : List State) :
    (rooted transitionField chain).Settled :=
  (settled_empty (some transitionField)).grow_recordTo none chain fun _ hid => hid

end Store

end StateExplorer
