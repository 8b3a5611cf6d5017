import Mathlib.Data.List.Chain
import StateExplorer.Proofs.Store.Recording

/-!
# Chains of parents

A store is a forest in which steps lead upwards. A list of numbers descends if it starts at a
number that no step leads to and goes on from each number to the next one by a step, so it is the
chain of parents of its last number, and the only one. New states and recorded routes leave such
lists as they are, and a chain that is stored below the end of one makes it longer.
-/

namespace StateExplorer

namespace Store

variable {store : Store} {ids : List Nat} {i j : Nat}

/-- Whether no step leads to a number in use. -/
def IsRoot (store : Store) (id : Nat) : Prop :=
  store.Has id ∧ ∀ i, ¬store.Linked i id

/-- Whether numbers start at a root and each one after it is reached from the one before it. -/
structure Descends (store : Store) (ids : List Nat) : Prop where
  root : ∃ id ∈ ids.head?, store.IsRoot id
  linked : ids.IsChain store.Linked

/-- Whether numbers are the chain of parents down to a number. -/
def LeadsTo (store : Store) (ids : List Nat) (id : Nat) : Prop :=
  store.Descends ids ∧ ids.getLast? = some id

/-- A root stays one in a store like it. -/
theorem IsRoot.alike {new : Store} {id : Nat} (h : store.IsRoot id) (halike : store.Alike new) :
    new.IsRoot id :=
  ⟨(halike.has_iff id).2 h.1, fun i hlink => h.2 i ((halike.linked i id).1 hlink)⟩

/-- A root stays one when a chain is stored. -/
theorem IsRoot.grow {id : Nat} (h : store.IsRoot id) (parent : Option Nat) (chain : List State) :
    (store.grow parent chain).IsRoot id := by
  obtain ⟨⟨hpos, hle⟩, hno⟩ := h
  refine ⟨⟨hpos, by rw [size_grow]; omega⟩, fun i hlink => ?_⟩
  -- The steps that are new lead to numbers that were not in use.
  rcases linked_grow_iff.1 hlink with hold | ⟨-, -, -, hnew⟩ | ⟨hi, hj, -⟩
  · exact hno i hold
  · omega
  · omega

namespace Descends

/-- A descent is not empty. -/
theorem ne_nil (h : store.Descends ids) : ids ≠ [] := by
  obtain ⟨id, hid, -⟩ := h.root
  rintro rfl
  simp at hid

/-- All numbers of a descent are in use. -/
theorem has (h : store.Descends ids) (hshaped : store.Shaped) : ∀ id ∈ ids, store.Has id := by
  have htail (rest : List Nat) : ∀ first, store.Has first → (first :: rest).IsChain store.Linked →
      ∀ id ∈ first :: rest, store.Has id := by
    induction rest with
    | nil =>
      intro first hfirst _ id hid
      rwa [List.mem_singleton.1 hid]
    | cons second rest ih =>
      intro first hfirst hchain id hid
      obtain ⟨hlink, hrest⟩ := List.isChain_cons_cons.1 hchain
      obtain ⟨hlt, hle⟩ := hshaped.upward first second hlink
      rcases List.mem_cons.1 hid with rfl | hid
      · exact hfirst
      · exact ih second ⟨by have := hfirst.1; omega, hle⟩ hrest id hid
  obtain ⟨root, hroot, hisRoot⟩ := h.root
  obtain ⟨rest, rfl⟩ : ∃ rest, ids = root :: rest := List.head?_eq_some_iff.1 hroot
  exact htail rest root hisRoot.1 h.linked

/-- A part of a descent from its start on is a descent. -/
theorem take (h : store.Descends ids) {n : Nat} (hn : n ≠ 0) : store.Descends (ids.take n) where
  root := by
    obtain ⟨root, hroot, hisRoot⟩ := h.root
    obtain ⟨rest, rfl⟩ : ∃ rest, ids = root :: rest := List.head?_eq_some_iff.1 hroot
    obtain ⟨m, rfl⟩ := Nat.exists_eq_succ_of_ne_zero hn
    exact ⟨root, rfl, hisRoot⟩
  linked := h.linked.take n

/-- Up to one of its numbers, a descent leads to that number. -/
theorem leadsTo_take (h : store.Descends ids) {id : Nat} (hid : id ∈ ids) :
    store.LeadsTo (ids.take (ids.idxOf id + 1)) id := by
  refine ⟨h.take (by omega), ?_⟩
  have hlt : ids.idxOf id < ids.length := List.idxOf_lt_length_iff.2 hid
  have hlength : (ids.take (ids.idxOf id + 1)).length = ids.idxOf id + 1 :=
    List.length_take_of_le hlt
  rw [List.getLast?_eq_getElem?, hlength, Nat.add_sub_cancel,
    List.getElem?_take_of_lt (Nat.lt_succ_self _), List.getElem?_eq_getElem hlt,
    List.getElem_idxOf hlt]

/-- A descent in a store is one in a store like it. -/
theorem alike {new : Store} (h : store.Descends ids) (halike : store.Alike new) :
    new.Descends ids where
  root := by
    obtain ⟨root, hroot, hisRoot⟩ := h.root
    exact ⟨root, hroot, hisRoot.alike halike⟩
  linked := h.linked.imp fun i j hlink => (halike.linked i j).2 hlink

/-- A descent stays one when a chain is stored. -/
theorem grow (h : store.Descends ids) (parent : Option Nat) (chain : List State) :
    (store.grow parent chain).Descends ids where
  root := by
    obtain ⟨root, hroot, hisRoot⟩ := h.root
    exact ⟨root, hroot, hisRoot.grow parent chain⟩
  linked := h.linked.imp fun i j hlink => linked_grow_iff.2 (.inl hlink)

end Descends

/-! ### One chain of parents for each number -/

/-- Two steps to the same number start at the same one. -/
theorem Shaped.source_unique (h : store.Shaped) {i' : Nat} (hi : store.Linked i j)
    (hi' : store.Linked i' j) : i = i' := by
  obtain ⟨-, hdisjoint⟩ := List.nodup_flatMap.1 h.single
  have hplace {k : Nat} (hk : store.Linked k j) : ∃ node, store.nodes[k - 1]? = some node ∧
      j ∈ node.edges.map (·.target) ∧ 1 ≤ k := by
    obtain ⟨node, hnode, edge, hedge, rfl⟩ := hk
    have hpos := (has_of_node? hnode).1
    have hne : k ≠ 0 := by omega
    refine ⟨node, ?_, List.mem_map_of_mem hedge, hpos⟩
    simpa [node?, hne] using hnode
  obtain ⟨node, hnode, hmem, hpos⟩ := hplace hi
  obtain ⟨node', hnode', hmem', hpos'⟩ := hplace hi'
  obtain ⟨hlt, rfl⟩ := List.getElem?_eq_some_iff.1 hnode
  obtain ⟨hlt', rfl⟩ := List.getElem?_eq_some_iff.1 hnode'
  rw [List.pairwise_iff_getElem] at hdisjoint
  -- The nodes of two different numbers have no target in common.
  rcases Nat.lt_trichotomy (i - 1) (i' - 1) with hij | hij | hij
  · exact absurd hmem' (hdisjoint _ _ hlt hlt' hij hmem)
  · omega
  · exact absurd hmem (hdisjoint _ _ hlt' hlt hij hmem')

/-- There is one chain of parents down to a number at most. -/
theorem LeadsTo.unique (hshaped : store.Shaped) {ids' : List Nat} {id : Nat}
    (h : store.LeadsTo ids id) (h' : store.LeadsTo ids' id) : ids = ids' := by
  induction ids using List.reverseRecOn generalizing ids' id with
  | nil => exact absurd rfl h.1.ne_nil
  | append_singleton before last ih =>
    obtain rfl : last = id := by simpa using h.2
    obtain ⟨before', rfl⟩ : ∃ before', ids' = before' ++ [last] :=
      List.getLast?_eq_some_iff.1 h'.2
    have hstep {b : List Nat} (hb : store.Descends (b ++ [last])) {k : Nat}
        (hk : b.getLast? = some k) : store.Linked k last :=
      (List.isChain_append.1 hb.linked).2.2 k hk last rfl
    have hroot {b : List Nat} (hb : store.Descends (b ++ [last])) (hnil : b = []) (k : Nat) :
        ¬store.Linked k last := by
      subst hnil
      obtain ⟨root, hroot, -, hno⟩ := hb.root
      obtain rfl : last = root := by simpa using hroot
      exact hno k
    have hbefore {b : List Nat} {k : Nat} (hb : store.Descends (b ++ [last]))
        (hk : b.getLast? = some k) : store.LeadsTo b k := by
      have hlength : b.length ≠ 0 := by
        rintro hzero
        simp [List.length_eq_zero_iff.1 hzero] at hk
      exact ⟨by simpa using hb.take hlength, hk⟩
    match hlast : before.getLast?, hlast' : before'.getLast? with
    | none, none => rw [List.getLast?_eq_none_iff.1 hlast, List.getLast?_eq_none_iff.1 hlast']
    | some k, none =>
      exact absurd (hstep h.1 hlast) (hroot h'.1 (List.getLast?_eq_none_iff.1 hlast') k)
    | none, some k =>
      exact absurd (hstep h'.1 hlast') (hroot h.1 (List.getLast?_eq_none_iff.1 hlast) k)
    | some k, some k' =>
      obtain rfl := hshaped.source_unique (hstep h.1 hlast) (hstep h'.1 hlast')
      rw [ih (hbefore h.1 hlast) (hbefore h'.1 hlast')]

/-! ### New descents -/

/-- The first number of a store of the shape is a root. -/
theorem Shaped.isRoot_one (h : store.Shaped) (hone : store.Has 1) : store.IsRoot 1 := by
  refine ⟨hone, fun i hlink => ?_⟩
  have hpos := hlink.has_source.1
  have hlt := (h.upward i 1 hlink).1
  omega

/-- A root alone is a descent. -/
theorem IsRoot.descends {id : Nat} (h : store.IsRoot id) : store.Descends [id] :=
  ⟨⟨id, rfl, h⟩, List.isChain_singleton id⟩

/-- A chain that is stored below the end of a descent, or as a new root, goes on from there. -/
theorem descends_grow_append (hshaped : store.Shaped) (h : ids = [] ∨ store.Descends ids)
    {chain : List State} (hchain : chain ≠ []) :
    (store.grow ids.getLast? chain).Descends
      (ids ++ List.range' (store.size + 1) chain.length) := by
  have hlength : 0 < chain.length := List.length_pos_iff.2 hchain
  have hfirst : (List.range' (store.size + 1) chain.length).head? = some (store.size + 1) := by
    simp [List.head?_range', hlength.ne']
  have hnew : (List.range' (store.size + 1) chain.length).IsChain
      (store.grow ids.getLast? chain).Linked := by
    refine (List.isChain_range' (store.size + 1) chain.length 1).imp_of_mem_imp
      fun i j hi hj hij => linked_grow_iff.2 (.inr (.inr ?_))
    rw [List.mem_range'_1] at hi hj
    omega
  rcases h with rfl | h
  · refine ⟨⟨store.size + 1, by simpa using hfirst, ⟨?_, fun i hlink => ?_⟩⟩, by simpa using hnew⟩
    · rw [Has, size_grow]
      omega
    · rcases linked_grow_iff.1 hlink with hold | ⟨-, hparent, -⟩ | ⟨hi, hj, -⟩
      · have := (hshaped.upward _ _ hold).2
        omega
      · simp at hparent
      · omega
  · have hkept := h.grow ids.getLast? chain
    refine ⟨?_, List.isChain_append.2 ⟨hkept.linked, hnew, fun i hi j hj => ?_⟩⟩
    · obtain ⟨root, hroot, hisRoot⟩ := hkept.root
      exact ⟨root, by simp [Option.mem_def.1 hroot], hisRoot⟩
    · obtain rfl : store.size + 1 = j := by simpa [hfirst] using hj
      have hhas := h.has hshaped i (List.mem_of_getLast? hi)
      exact linked_grow_iff.2 (.inr (.inl ⟨hchain, hi, hhas, rfl⟩))

/-! ### Routes -/

/-- Whether every route that is recorded leads to its number. -/
def RoutesLead (store : Store) : Prop :=
  ∀ k route, store.routes[k]? = some route → route = [] ∨ store.LeadsTo route (k + 1)

/-- Whether the route to every number is recorded, and leads there. -/
def Routed (store : Store) : Prop :=
  ∀ k route, store.routes[k]? = some route → store.LeadsTo route (k + 1)

/-- Where routes lead to their numbers, they are all recorded. -/
theorem Routed.settled (h : store.Routed) : store.Settled :=
  fun k hk => (h k [] hk).1.ne_nil rfl

/-- Routes lead where they did in a store like it with the same routes. -/
theorem Routed.alike {new : Store} (h : store.Routed) (halike : store.Alike new)
    (hroutes : ∀ k : Nat, new.routes[k]? = store.routes[k]?) : new.Routed := by
  intro k route hk
  rw [hroutes] at hk
  exact ⟨(h k route hk).1.alike halike, (h k route hk).2⟩

/-- Where every route is recorded, no other one is recorded any more. -/
theorem Routed.recordRoute (h : store.Routed) (id : Nat) (route : List Nat) :
    (store.recordRoute id route).2.Routed := by
  refine h.alike (alike_recordRoute store id route) fun k => ?_
  rw [routes_recordRoute, if_neg]
  exact fun hk => h.settled k hk.2

/-- New states have no routes at first. -/
theorem Routed.grow (h : store.Routed) (parent : Option Nat) (chain : List State) :
    (store.grow parent chain).RoutesLead := by
  intro k route hk
  rw [routes_grow, List.getElem?_append] at hk
  split at hk
  · exact .inr ⟨(h k route hk).1.grow parent chain, (h k route hk).2⟩
  · exact .inl (List.eq_of_mem_replicate (List.mem_of_getElem? hk))

/-- A descent that records itself as the route to all numbers without one routes the store. -/
theorem RoutesLead.recordTo {walk : List Nat} (h : store.RoutesLead)
    (hwalk : store.Descends walk)
    (hall : ∀ k : Nat, store.routes[k]? = some [] → k + 1 ∈ ids ∧ k + 1 ∈ walk) :
    (store.recordTo walk ids).Routed := by
  have halike := alike_recordTo walk store ids
  intro k route hk
  rw [routes_recordTo] at hk
  split at hk
  · rename_i hnew
    obtain rfl : walk.take (walk.idxOf (k + 1) + 1) = route := Option.some.inj hk
    have hleads := hwalk.leadsTo_take hnew.2.2
    exact ⟨hleads.1.alike halike, hleads.2⟩
  · rename_i hold
    have hne : route ≠ [] := by
      rintro rfl
      exact hold ⟨hk, hall k hk⟩
    have hleads := (h k route hk).resolve_left hne
    exact ⟨hleads.1.alike halike, hleads.2⟩

/-- A store without states routes all of them. -/
theorem routed_empty (transitionField : Option String) : (empty transitionField).Routed := by
  intro k route hk
  simp [routes, empty] at hk

/-- A chain that is stored and recorded after a descent, or as a new root, keeps all routes. -/
theorem Routed.grow_recordTo (hshaped : store.Shaped) (h : store.Routed)
    (hids : ids = [] ∨ store.Descends ids) {chain : List State} (hchain : chain ≠ []) :
    ((store.grow ids.getLast? chain).recordTo (ids ++ List.range' (store.size + 1) chain.length)
      (List.range' (store.size + 1) chain.length)).Routed := by
  refine (h.grow _ chain).recordTo (descends_grow_append hshaped hids hchain) fun k hk => ?_
  have hnew := h.settled.mem_of_routes_grow hk
  exact ⟨hnew, List.mem_append_right _ hnew⟩

end Store

end StateExplorer
