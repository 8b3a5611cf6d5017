import StateExplorer.Proofs.Results
import StateExplorer.Proofs.Store.Growth
import StateExplorer.Session.Explore

/-!
# Recorded routes and shown states

Recording a route changes nothing but one empty route, so two stores before and after it are
alike. A walk that records itself as the route to several numbers leaves each of them with the
part of the walk that ends there, unless a route was known before. A store is settled if the route
to every number is recorded; nothing more can be recorded in it then. Stops show stored states, and
keep showing them however the store grows.
-/

namespace StateExplorer

namespace Store

variable {store : Store} {ids walk : List Nat}

/-- Whether two stores hold the same states and steps, whatever routes they record. -/
structure Alike (old new : Store) : Prop where
  states : new.states = old.states
  linked : ∀ i j, new.Linked i j ↔ old.Linked i j
  targets : new.targets = old.targets
  transitionField : new.transitionField = old.transitionField

/-- A store is like itself. -/
theorem Alike.refl (store : Store) : store.Alike store :=
  ⟨rfl, fun _ _ => .rfl, rfl, rfl⟩

/-- Stores that are alike in turn are alike. -/
theorem Alike.trans {a b c : Store} (hab : a.Alike b) (hbc : b.Alike c) : a.Alike c where
  states := hbc.states.trans hab.states
  linked i j := (hbc.linked i j).trans (hab.linked i j)
  targets := hbc.targets.trans hab.targets
  transitionField := hbc.transitionField.trans hab.transitionField

/-- The stored states are as many as the store's size. -/
theorem length_states (store : Store) : store.states.length = store.size := by
  simp [states, size]

/-- The recorded routes are as many as the store's size. -/
theorem length_routes (store : Store) : store.routes.length = store.size := by
  simp [routes, size]

/-- Stores that are alike have the same size. -/
theorem Alike.size {a b : Store} (h : a.Alike b) : b.size = a.size := by
  rw [← length_states, ← length_states, h.states]

/-- Stores that are alike have the same numbers in use. -/
theorem Alike.has_iff {a b : Store} (h : a.Alike b) (id : Nat) : b.Has id ↔ a.Has id := by
  rw [Has, Has, h.size]

/-- A store like one of the shape has the shape. -/
theorem Shaped.alike {a b : Store} (h : a.Shaped) (hab : a.Alike b) : b.Shaped where
  upward i j hlink := by
    rw [hab.size]
    exact h.upward i j ((hab.linked i j).1 hlink)
  single := by
    rw [hab.targets]
    exact h.single

/-! ### Recording one route -/

/-- Changing the route of one node leaves a store like it was. -/
theorem alike_changeNode (store : Store) (id : Nat) (route : List Nat) :
    store.Alike { store with nodes := changeNode store.nodes id fun n => { n with route := route } } where
  states := map_changeNode (f := fun n => { n with route := route }) (fun _ => rfl) store.nodes id
  linked i j := by
    have hnode : ({ store with
        nodes := changeNode store.nodes id fun n => { n with route := route } } : Store).node? i =
          (store.node? i).map fun n => if i = id then { n with route := route } else n := by
      simp only [node?]
      split
      · rfl
      · rename_i hi
        rw [getElem?_changeNode, Nat.sub_add_cancel (by omega)]
    rw [Linked, Linked, hnode]
    cases store.node? i with
    | none => simp
    | some node => by_cases hi : i = id <;> simp [hi]
  targets := by
    simp only [targets, List.flatMap_def]
    rw [map_changeNode (f := fun n => { n with route := route }) fun _ => rfl]
  transitionField := rfl

/-- Recording a route leaves a store like it was. -/
theorem alike_recordRoute (store : Store) (id : Nat) (route : List Nat) :
    store.Alike (store.recordRoute id route).2 := by
  unfold recordRoute
  split
  · exact .refl store
  · split
    · exact alike_changeNode store id route
    · exact .refl store

/-- A route to a number in use can be recorded. -/
theorem recordRoute_eq_ok {id : Nat} (h : store.Has id) (route : List Nat) :
    ∃ fresh, (store.recordRoute id route).1 = .ok fresh := by
  obtain ⟨node, hnode⟩ := exists_node? h
  simp only [recordRoute, node_eq_ok hnode]
  split
  · exact ⟨true, rfl⟩
  · exact ⟨false, rfl⟩

/-- A route is recorded where none was known before. -/
theorem routes_recordRoute (store : Store) (id : Nat) (route : List Nat) (k : Nat) :
    (store.recordRoute id route).2.routes[k]? =
      if k + 1 = id ∧ store.routes[k]? = some [] then some route else store.routes[k]? := by
  by_cases hhas : store.Has id
  · obtain ⟨node, hnode⟩ := exists_node? hhas
    have hget : store.nodes[id - 1]? = some node := by
      have hne : id ≠ 0 := by have := hhas.1; omega
      simpa [node?, hne] using hnode
    simp only [recordRoute, node_eq_ok hnode]
    by_cases hk : k + 1 = id
    · obtain rfl : k = id - 1 := by omega
      cases hroute : node.route with
      | nil => cases route <;> simp [routes, hget, hroute, getElem?_changeNode, hk]
      | cons first rest => simp [routes, hget, hroute]
    · split
      · simp [routes, getElem?_changeNode, hk]
      · simp [hk]
  · simp only [recordRoute, node_eq_error hhas]
    rw [if_neg]
    rintro ⟨rfl, hroute⟩
    have hlt := (List.getElem?_eq_some_iff.1 hroute).1
    rw [length_routes] at hlt
    exact hhas ⟨by omega, by omega⟩

/-! ### Recording a walk -/

/-- The store once a walk is recorded as the route to each of the given numbers that is on it. -/
def recordTo (walk : List Nat) (store : Store) (ids : List Nat) : Store :=
  ids.foldl (fun store id =>
    if walk.contains id then (store.recordRoute id (walk.take (walk.idxOf id + 1))).2 else store)
    store

/-- One number after the others. -/
theorem recordTo_cons (walk : List Nat) (store : Store) (id : Nat) (ids : List Nat) :
    store.recordTo walk (id :: ids) =
      (if walk.contains id then (store.recordRoute id (walk.take (walk.idxOf id + 1))).2
        else store).recordTo walk ids := rfl

/-- Recording a walk leaves a store like it was. -/
theorem alike_recordTo (walk : List Nat) (store : Store) (ids : List Nat) :
    store.Alike (store.recordTo walk ids) := by
  induction ids generalizing store with
  | nil => exact .refl store
  | cons id rest ih =>
    rw [recordTo_cons]
    split
    · exact (alike_recordRoute store id _).trans (ih _)
    · exact ih store

/-- The part of a walk up to a number is recorded where no route was known before. -/
theorem routes_recordTo (walk : List Nat) (store : Store) (ids : List Nat) (k : Nat) :
    (store.recordTo walk ids).routes[k]? =
      if store.routes[k]? = some [] ∧ k + 1 ∈ ids ∧ k + 1 ∈ walk then
        some (walk.take (walk.idxOf (k + 1) + 1))
      else store.routes[k]? := by
  induction ids generalizing store with
  | nil => simp [recordTo]
  | cons id rest ih =>
    rw [recordTo_cons, ih]
    by_cases hwalk : id ∈ walk
    · have hcontains : walk.contains id = true := by simpa using hwalk
      simp only [hcontains, if_true, routes_recordRoute]
      by_cases hk : k + 1 = id
      · subst hk
        have hcut : walk.take (walk.idxOf (k + 1) + 1) ≠ [] := by
          have := List.ne_nil_of_mem hwalk
          simp [this]
        by_cases hnone : store.routes[k]? = some []
        · simp [hnone, hwalk, hcut]
        · simp [hnone]
      · simp [hk]
    · have hcontains : ¬walk.contains id = true := by simpa using hwalk
      rw [if_neg hcontains]
      by_cases hk : k + 1 = id
      · subst hk
        simp [hwalk]
      · simp [hk]

/-- Whether the route to every number is recorded. -/
def Settled (store : Store) : Prop :=
  ∀ k : Nat, store.routes[k]? ≠ some []

/-- A node of a settled store has a route. -/
theorem Settled.route_ne_nil (h : store.Settled) {id : Nat} {node : Node}
    (hnode : store.node? id = some node) : node.route ≠ [] := by
  intro hnil
  have hroute := routes_getElem?_of_node? hnode
  rw [hnil] at hroute
  exact h _ hroute

/-- Recording one more route changes nothing in a settled store. -/
theorem Settled.recordRoute_eq_self (h : store.Settled) (id : Nat) (route : List Nat) :
    (store.recordRoute id route).2 = store := by
  unfold recordRoute
  cases hnode : store.node id with
  | error e => rfl
  | ok node =>
    have hroute := h.route_ne_nil (of_node_eq_ok hnode)
    simp [hroute]

/-- Once a chain was stored in a settled store, only its new numbers lack a route. -/
theorem Settled.mem_of_routes_grow (h : store.Settled) {parent : Option Nat} {chain : List State}
    {k : Nat} (hk : (store.grow parent chain).routes[k]? = some []) :
    k + 1 ∈ List.range' (store.size + 1) chain.length := by
  rw [routes_grow, List.getElem?_append] at hk
  split at hk
  · exact absurd hk (h k)
  · rename_i hge
    have hlt := (List.getElem?_eq_some_iff.1 hk).1
    rw [length_routes] at hge hlt
    rw [List.length_replicate] at hlt
    rw [List.mem_range'_1]
    omega

/-! ### Stops -/

/-- Whether a stop shows the stored state of its number. -/
def Shows (store : Store) (stop : Stop) : Prop :=
  1 ≤ stop.id ∧ store.states[stop.id - 1]? = some stop.state

/-- A shown number is in use. -/
theorem Shows.has {stop : Stop} (h : store.Shows stop) : store.Has stop.id := by
  have hlt := (List.getElem?_eq_some_iff.1 h.2).1
  rw [length_states] at hlt
  exact ⟨h.1, by have := h.1; omega⟩

/-- What is shown stays shown when states are added. -/
theorem Shows.mono {old new : Store} {stop : Stop} (hgrown : old.states <+: new.states)
    (h : old.Shows stop) : new.Shows stop := by
  obtain ⟨more, hmore⟩ := hgrown
  have hlt := (List.getElem?_eq_some_iff.1 h.2).1
  exact ⟨h.1, by rw [← hmore, List.getElem?_append_left hlt, h.2]⟩

/-- Numbers in use can be shown. -/
theorem exists_stops (h : ∀ id ∈ ids, store.Has id) : ∃ shown, store.stops ids = .ok shown := by
  refine exists_mapM_eq_ok fun id hid => ?_
  obtain ⟨node, hnode⟩ := exists_node? (h id hid)
  exact ⟨⟨id, node.state⟩, map_eq_ok_iff.2 ⟨node, node_eq_ok hnode, rfl⟩⟩

/-- The stops of given numbers have these numbers and show their states. -/
theorem of_stops_eq_ok {shown : List Stop} (h : store.stops ids = .ok shown) :
    shown.map (·.id) = ids ∧ ∀ stop ∈ shown, store.Shows stop := by
  induction ids generalizing shown with
  | nil =>
    obtain rfl : [] = shown := Except.ok.inj h
    simp
  | cons id rest ih =>
    obtain ⟨first, hfirst, more, hrest, rfl⟩ := mapM_cons_eq_ok_iff.1 h
    obtain ⟨node, hstored, rfl⟩ := map_eq_ok_iff.1 hfirst
    have hnode := of_node_eq_ok hstored
    obtain ⟨hids, hmore⟩ := ih hrest
    refine ⟨by simp [hids], ?_⟩
    rintro stop (_ | ⟨_, hstop⟩)
    · exact ⟨(has_of_node? hnode).1, states_getElem?_of_node? hnode⟩
    · exact hmore stop hstop

/-- The numbers of a chain that was just stored can be shown. -/
theorem exists_stops_grow (store : Store) (parent : Option Nat) (chain : List State) :
    ∃ shown, (store.grow parent chain).stops (List.range' (store.size + 1) chain.length) =
      .ok shown := by
  apply exists_stops
  intro id hid
  rw [List.mem_range'_1] at hid
  rw [Has, size_grow]
  omega

/-! ### A chain as a root -/

/-- The store that holds one chain as a root, with the route to each of its states. -/
def rooted (transitionField : String) (chain : List State) : Store :=
  ((empty (some transitionField)).grow none chain).recordTo (List.range' 1 chain.length)
    (List.range' 1 chain.length)

/-- A chain with a state is stored as a root. -/
theorem storeOf_eq_ok (transitionField : String) {chain : List State} (h : chain ≠ []) :
    Explore.storeOf transitionField chain =
      .ok (List.range' 1 chain.length, rooted transitionField chain) := by
  have hstart : (empty (some transitionField)).startWith chain =
      (.ok (List.range' 1 chain.length), (empty (some transitionField)).grow none chain) := by
    simp [startWith, addChain, empty, size, h]
  simp only [Explore.storeOf, hstart, rooted, recordTo]
  congr 2
  apply List.foldl_ext
  intro store id hid
  have hcontains : (List.range' 1 chain.length).contains id = true := by simpa using hid
  rw [List.mem_range'_1] at hid
  have hidx : (List.range' 1 chain.length).idxOf id = id - 1 := by
    have hlt : id - 1 < (List.range' 1 chain.length).length := by simp; omega
    have hget : (List.range' 1 chain.length)[id - 1] = id := by simp; omega
    simpa [hget] using (List.nodup_range' 1).idxOf_getElem (id - 1) hlt
  rw [if_pos hcontains, hidx, Nat.sub_add_cancel hid.1, List.take_range'_of_length_ge (by omega)]

/-- A chain that was stored as a root has a state. -/
theorem of_storeOf_eq_ok {transitionField : String} {chain : List State}
    {stored : List Nat × Store} (h : Explore.storeOf transitionField chain = .ok stored) :
    chain ≠ [] ∧ stored = (List.range' 1 chain.length, rooted transitionField chain) := by
  have hchain : chain ≠ [] := by
    rintro rfl
    simp [Explore.storeOf, startWith, addChain] at h
  rw [storeOf_eq_ok transitionField hchain] at h
  exact ⟨hchain, (Except.ok.inj h).symm⟩

end Store

end StateExplorer
