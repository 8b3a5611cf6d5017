import Mathlib.Data.List.Nodup
import StateExplorer.Session.Basic

/-!
# How a store grows

A store is looked at through its states in order, its links from one number to another, and the
routes of its nodes. Growing appends states and links, and recording a route touches routes only,
so what is said of an old number stays true. A chain that was stored can be shown as stops.
-/

namespace StateExplorer

namespace Store

variable {store : Store} {parent : Option Nat} {state : State}

/-- The stored states in the order of their numbers. -/
def states (store : Store) : List State :=
  store.nodes.map (·.state)

/-- Whether a number is in use. -/
def Has (store : Store) (id : Nat) : Prop :=
  1 ≤ id ∧ id ≤ store.size

/-- Whether a step leads from one number to another. -/
def Linked (store : Store) (source target : Nat) : Prop :=
  ∃ node, store.node? source = some node ∧ ∃ edge ∈ node.edges, edge.target = target

instance (store : Store) (source target : Nat) : Decidable (store.Linked source target) :=
  inferInstanceAs
    (Decidable (∃ node ∈ store.node? source, ∃ edge ∈ node.edges, edge.target = target))

/-- The recorded routes in the order of the numbers. -/
def routes (store : Store) : List (List Nat) :=
  store.nodes.map (·.route)

/-- The numbers that steps lead to, once for every step. -/
def targets (store : Store) : List Nat :=
  store.nodes.flatMap fun node => node.edges.map (·.target)

/-- A number is in use exactly if there is a node of it. -/
theorem node?_isSome_iff (store : Store) (id : Nat) :
    (store.node? id).isSome ↔ store.Has id := by
  unfold node? Has size
  split
  · simp; omega
  · simp; omega

/-- A number with a node is in use. -/
theorem has_of_node? {id : Nat} {node : Node} (h : store.node? id = some node) : store.Has id :=
  (node?_isSome_iff store id).1 (by simp [h])

/-- A number in use has a node. -/
theorem exists_node? {id : Nat} (h : store.Has id) : ∃ node, store.node? id = some node :=
  Option.isSome_iff_exists.1 ((node?_isSome_iff store id).2 h)

/-- The node of a number, as the store answers it. -/
theorem node_eq_ok {id : Nat} {node : Node} (h : store.node? id = some node) :
    store.node id = .ok node := by
  simp [Store.node, h]

/-- What the store answers for a number is its node. -/
theorem of_node_eq_ok {id : Nat} {node : Node} (h : store.node id = .ok node) :
    store.node? id = some node := by
  unfold Store.node at h
  split at h
  · rename_i found hfound
    rw [hfound, Except.ok.inj h]
  · simp at h

/-- A number that is not in use has no node. -/
theorem node?_eq_none {id : Nat} (h : ¬store.Has id) : store.node? id = none :=
  Option.not_isSome_iff_eq_none.1 (mt (node?_isSome_iff store id).1 h)

/-- A number without a node is refused. -/
theorem node_eq_error {id : Nat} (h : ¬store.Has id) :
    store.node id = .error (.unknownNode id) := by
  simp [Store.node, node?_eq_none h]

/-- The state of a number is the one at its place. -/
theorem states_getElem?_of_node? {id : Nat} {node : Node} (h : store.node? id = some node) :
    store.states[id - 1]? = some node.state := by
  unfold node? at h
  split at h
  · simp at h
  · simp [states, h]

/-- The route to a number is the one at its place. -/
theorem routes_getElem?_of_node? {id : Nat} {node : Node} (h : store.node? id = some node) :
    store.routes[id - 1]? = some node.route := by
  unfold node? at h
  split at h
  · simp at h
  · simp [routes, h]

/-- A number with a state at its place has a node with that state. -/
theorem exists_node?_of_states {id : Nat} (hid : 1 ≤ id)
    (h : store.states[id - 1]? = some state) :
    ∃ node, store.node? id = some node ∧ node.state = state := by
  have hne : id ≠ 0 := by omega
  simp only [states, List.getElem?_map, Option.map_eq_some_iff] at h
  obtain ⟨node, hnode, rfl⟩ := h
  exact ⟨node, by simp [node?, hne, hnode], rfl⟩

/-- A step leads between numbers in use that have a node. -/
theorem Linked.has_source {i j : Nat} (h : store.Linked i j) : store.Has i := by
  obtain ⟨node, hnode, -⟩ := h
  exact has_of_node? hnode

/-- Changing one node leaves the number of nodes. -/
@[simp] theorem length_changeNode (nodes : List Node) (id : Nat) (f : Node → Node) :
    (changeNode nodes id f).length = nodes.length := by
  unfold changeNode
  split <;> simp

/-- Changing one node leaves the others. -/
theorem getElem?_changeNode (nodes : List Node) (id i : Nat) (f : Node → Node) :
    (changeNode nodes id f)[i]? = (nodes[i]?).map fun n => if i + 1 = id then f n else n := by
  unfold changeNode
  split
  · rename_i hid
    have hne : ¬i + 1 = id := by omega
    simp [hne]
  · rename_i hid
    rw [List.getElem?_modify]
    by_cases hi : id - 1 = i
    · have heq : i + 1 = id := by omega
      simp [hi, heq]
    · have hne : ¬i + 1 = id := by omega
      simp [hi, hne]

/-- Changing one node leaves what the change does not touch. -/
theorem map_changeNode {α : Type} {g : Node → α} {f : Node → Node} (h : ∀ n, g (f n) = g n)
    (nodes : List Node) (id : Nat) : (changeNode nodes id f).map g = nodes.map g := by
  apply List.ext_getElem?
  intro i
  simp only [List.getElem?_map, getElem?_changeNode, Option.map_map]
  congr 1
  funext n
  simp only [Function.comp_apply]
  split
  · exact h n
  · rfl

/-! ### One more state -/

/-- One more state is one more number. -/
@[simp] theorem size_push (store : Store) (parent : Option Nat) (state : State) :
    (store.push parent state).size = store.size + 1 := by
  cases parent <;> simp [push, size]

/-- A new state leaves the field that labels come from. -/
@[simp] theorem transitionField_push (store : Store) (parent : Option Nat) (state : State) :
    (store.push parent state).transitionField = store.transitionField := rfl

/-- The nodes after a push: the old ones, the parent with one more step, and the new one. -/
theorem node?_push (store : Store) (parent : Option Nat) (state : State) (id : Nat) :
    (store.push parent state).node? id =
      if id = store.size + 1 then some (.fresh state)
      else (store.node? id).map fun n =>
        if parent = some id then { n with edges := n.edges ++ [⟨store.size + 1, store.label? state⟩] }
        else n := by
  by_cases h0 : id = 0
  · subst h0
    simp [node?]
  · by_cases hnew : id = store.size + 1
    · subst hnew
      cases parent <;> simp [node?, push, size]
    · simp only [node?, h0, if_false, hnew]
      cases parent with
      | none =>
        by_cases hlt : id - 1 < store.nodes.length
        · simp [push, List.getElem?_append_left hlt]
        · have hge : store.nodes.length ≤ id - 1 := by omega
          have hout : ¬id - 1 = store.nodes.length := by unfold size at hnew; omega
          simp [push, List.getElem?_append_right hge, List.getElem?_eq_none hge,
            show ¬id - 1 - store.nodes.length = 0 by omega]
      | some p =>
        have hp : (id - 1 + 1 = p) = (some p = some id) := by
          simp only [Option.some.injEq, eq_iff_iff]
          omega
        by_cases hlt : id - 1 < store.nodes.length
        · have hlt' : id - 1 < (changeNode store.nodes p fun n =>
              { n with edges := n.edges ++ [⟨store.size + 1, store.label? state⟩] }).length := by
            simpa using hlt
          simp only [push, List.getElem?_append_left hlt', getElem?_changeNode, hp]
        · have hge : store.nodes.length ≤ id - 1 := by omega
          have hout : ¬id - 1 = store.nodes.length := by unfold size at hnew; omega
          have hge' : (changeNode store.nodes p fun n =>
              { n with edges := n.edges ++ [⟨store.size + 1, store.label? state⟩] }).length ≤
                id - 1 := by simpa using hge
          simp [push, List.getElem?_append_right hge', List.getElem?_eq_none hge,
            show ¬id - 1 - store.nodes.length = 0 by omega]

/-- A new state comes after the old ones. -/
@[simp] theorem states_push (store : Store) (parent : Option Nat) (state : State) :
    (store.push parent state).states = store.states ++ [state] := by
  cases parent <;> simp [states, push, Node.fresh, map_changeNode]

/-- A new state has no route. -/
@[simp] theorem routes_push (store : Store) (parent : Option Nat) (state : State) :
    (store.push parent state).routes = store.routes ++ [[]] := by
  cases parent <;> simp [routes, push, Node.fresh, map_changeNode]

/-- A push adds the step from the parent to the new number. -/
theorem linked_push_iff {i j : Nat} :
    (store.push parent state).Linked i j ↔
      store.Linked i j ∨ parent = some i ∧ store.Has i ∧ j = store.size + 1 := by
  unfold Linked
  rw [node?_push]
  by_cases hnew : i = store.size + 1
  · subst hnew
    have hout : ¬store.Has (store.size + 1) := by unfold Has; omega
    simp [Node.fresh, node?_eq_none hout, hout]
  · rw [if_neg hnew]
    constructor
    · rintro ⟨node, hnode, edge, hedge, rfl⟩
      obtain ⟨old, hold, rfl⟩ := Option.map_eq_some_iff.1 hnode
      by_cases hp : parent = some i
      · simp only [hp, if_true, List.mem_append, List.mem_singleton] at hedge
        rcases hedge with hedge | rfl
        · exact .inl ⟨old, hold, edge, hedge, rfl⟩
        · exact .inr ⟨hp, has_of_node? hold, rfl⟩
      · rw [if_neg hp] at hedge
        exact .inl ⟨old, hold, edge, hedge, rfl⟩
    · rintro (⟨old, hold, edge, hedge, rfl⟩ | ⟨hp, hhas, rfl⟩)
      · refine ⟨_, by rw [hold]; rfl, edge, ?_, rfl⟩
        split
        · exact List.mem_append_left _ hedge
        · exact hedge
      · obtain ⟨old, hold⟩ := exists_node? hhas
        refine ⟨_, by rw [hold]; rfl, ⟨store.size + 1, store.label? state⟩, ?_, rfl⟩
        simp [hp]

/-- A push below a number in use leads one more step to the new number. -/
theorem targets_push_perm (h : ∀ p ∈ parent, store.Has p) :
    (store.push parent state).targets.Perm
      (store.targets ++ (parent.map fun _ => store.size + 1).toList) := by
  cases parent with
  | none => simp [targets, push, Node.fresh]
  | some p =>
    obtain ⟨hp1, hp2⟩ := h p rfl
    have hlt : p - 1 < store.nodes.length := by unfold size at hp2; omega
    have hne : p ≠ 0 := by omega
    have hsplit : store.nodes =
        store.nodes.take (p - 1) ++ store.nodes[p - 1] :: store.nodes.drop (p - 1 + 1) := by
      rw [← List.drop_eq_getElem_cons hlt, List.take_append_drop]
    have hmodify : changeNode store.nodes p
        (fun n => { n with edges := n.edges ++ [⟨store.size + 1, store.label? state⟩] }) =
        store.nodes.take (p - 1) ++
          { store.nodes[p - 1] with
            edges := store.nodes[p - 1].edges ++ [⟨store.size + 1, store.label? state⟩] } ::
          store.nodes.drop (p - 1 + 1) := by
      rw [changeNode, if_neg hne, List.modify_eq_take_cons_drop hlt]
    have hold : store.targets = (store.nodes.take (p - 1)).flatMap (fun n => n.edges.map (·.target)) ++
        (store.nodes[p - 1].edges.map (·.target) ++
          (store.nodes.drop (p - 1 + 1)).flatMap fun n => n.edges.map (·.target)) := by
      have := congrArg (List.flatMap fun n => n.edges.map (·.target)) hsplit
      rwa [List.flatMap_append, List.flatMap_cons] at this
    simp only [targets, push, hmodify] at hold ⊢
    rw [hold]
    simp only [Node.fresh, List.flatMap_append, List.flatMap_cons, List.flatMap_nil, List.map_append,
      List.map_cons, List.map_nil, List.append_nil, Option.map_some, Option.toList_some,
      List.append_assoc]
    refine List.Perm.append_left _ (List.Perm.append_left _ ?_)
    exact List.perm_append_comm

/-! ### One more chain -/

/-- A chain takes as many numbers as it has states. -/
@[simp] theorem size_grow (store : Store) (parent : Option Nat) (chain : List State) :
    (store.grow parent chain).size = store.size + chain.length := by
  induction chain generalizing store parent with
  | nil => rfl
  | cons state rest ih =>
    rw [grow, ih, size_push, List.length_cons]
    omega

/-- A chain leaves the field that labels come from. -/
@[simp] theorem transitionField_grow (store : Store) (parent : Option Nat) (chain : List State) :
    (store.grow parent chain).transitionField = store.transitionField := by
  induction chain generalizing store parent with
  | nil => rfl
  | cons state rest ih => rw [grow, ih, transitionField_push]

/-- The states of a chain come after the old ones. -/
@[simp] theorem states_grow (store : Store) (parent : Option Nat) (chain : List State) :
    (store.grow parent chain).states = store.states ++ chain := by
  induction chain generalizing store parent with
  | nil => simp [grow]
  | cons state rest ih => rw [grow, ih, states_push, List.append_assoc, List.singleton_append]

/-- The states of a chain have no routes. -/
@[simp] theorem routes_grow (store : Store) (parent : Option Nat) (chain : List State) :
    (store.grow parent chain).routes = store.routes ++ List.replicate chain.length [] := by
  induction chain generalizing store parent with
  | nil => simp [grow]
  | cons state rest ih =>
    rw [grow, ih, routes_push, List.append_assoc, List.length_cons, List.replicate_succ,
      List.singleton_append]

/-- A chain adds the step from the parent to its first number, and one to each further number from
the number before it. -/
theorem linked_grow_iff {chain : List State} {i j : Nat} :
    (store.grow parent chain).Linked i j ↔
      store.Linked i j ∨
        (chain ≠ [] ∧ parent = some i ∧ store.Has i ∧ j = store.size + 1) ∨
        (store.size < i ∧ j = i + 1 ∧ j ≤ store.size + chain.length) := by
  induction chain generalizing store parent with
  | nil =>
    simp only [grow, ne_eq, not_true_eq_false, false_and, false_or, List.length_nil]
    constructor
    · exact .inl
    · rintro (h | ⟨hi, hj, hle⟩)
      · exact h
      · omega
  | cons state rest ih =>
    have hempty : rest = [] ↔ rest.length = 0 := List.length_eq_zero_iff.symm
    rw [grow, ih, linked_push_iff, size_push]
    simp only [ne_eq, hempty, Option.some.injEq, Has, size_push, List.length_cons, reduceCtorEq,
      not_false_eq_true, true_and]
    constructor
    · rintro ((h | ⟨hp, hhas, hj⟩) | ⟨hne, rfl, -, hj⟩ | ⟨hi, hj, hle⟩)
      · exact .inl h
      · exact .inr (.inl ⟨hp, hhas, hj⟩)
      · exact .inr (.inr (by omega))
      · exact .inr (.inr (by omega))
    · rintro (h | ⟨hp, hhas, hj⟩ | ⟨hi, hj, hle⟩)
      · exact .inl (.inl h)
      · exact .inl (.inr ⟨hp, hhas, hj⟩)
      · by_cases heq : i = store.size + 1
        · exact .inr (.inl (by omega))
        · exact .inr (.inr (by omega))

/-- A chain is stored below a number in use. -/
theorem addChain_eq_ok {chain : List State}
    (hparent : ∀ p ∈ parent, store.Has p) (hchain : chain ≠ []) :
    store.addChain parent chain =
      (.ok (List.range' (store.size + 1) chain.length), store.grow parent chain) := by
  rw [addChain, if_neg (by simpa using hchain)]
  cases parent with
  | none => rfl
  | some p =>
    obtain ⟨node, hnode⟩ := exists_node? (hparent p rfl)
    simp [node_eq_ok hnode]

/-- A chain that was stored has a state and a parent in use. -/
theorem of_addChain_eq_ok {new : Store} {chain : List State}
    {ids : List Nat} (h : store.addChain parent chain = (.ok ids, new)) :
    chain ≠ [] ∧ ∀ p ∈ parent, store.Has p := by
  unfold addChain at h
  split at h
  · simp at h
  · rename_i hchain
    refine ⟨by simpa using hchain, fun p hp => ?_⟩
    obtain rfl : parent = some p := hp
    by_contra hno
    simp [node_eq_error hno] at h

/-- A refused chain leaves the store. -/
theorem addChain_eq_error {new : Store} {chain : List State}
    {e : StoreError} (h : store.addChain parent chain = (.error e, new)) : new = store := by
  unfold addChain at h
  split at h
  · exact (Prod.mk.inj h).2.symm
  · split at h
    · exact (Prod.mk.inj h).2.symm
    · simp at h

/-! ### The shape of a store -/

/-- Whether steps lead from smaller numbers to larger ones in use, and no two of them to the same
number. -/
structure Shaped (store : Store) : Prop where
  upward : ∀ i j, store.Linked i j → i < j ∧ j ≤ store.size
  single : store.targets.Nodup

/-- A number is among the targets exactly if a step leads to it. -/
theorem mem_targets_iff {j : Nat} : j ∈ store.targets ↔ ∃ i, store.Linked i j := by
  simp only [targets, List.mem_flatMap, List.mem_map, Linked]
  constructor
  · rintro ⟨node, hnode, edge, hedge, rfl⟩
    obtain ⟨k, hk⟩ := List.mem_iff_getElem?.1 hnode
    exact ⟨k + 1, node, by simp [node?, hk], edge, hedge, rfl⟩
  · rintro ⟨i, node, hnode, edge, hedge, rfl⟩
    refine ⟨node, ?_, edge, hedge, rfl⟩
    unfold node? at hnode
    split at hnode
    · cases hnode
    · exact List.mem_of_getElem? hnode

/-- A store without states has the shape. -/
theorem shaped_empty (transitionField : Option String) : (empty transitionField).Shaped where
  upward := by
    rintro i j ⟨node, hnode, -⟩
    simp [node?, empty] at hnode
  single := by simp [targets, empty]

/-- A push below a number in use keeps the shape. -/
theorem Shaped.push (h : store.Shaped) (hparent : ∀ p ∈ parent, store.Has p) (state : State) :
    (store.push parent state).Shaped where
  upward i j hlink := by
    rw [size_push]
    rcases linked_push_iff.1 hlink with hold | ⟨-, hhas, rfl⟩
    · have := h.upward i j hold
      omega
    · unfold Has at hhas
      omega
  single := by
    rw [(targets_push_perm hparent).nodup_iff]
    have hnew : store.size + 1 ∉ store.targets := by
      intro hmem
      obtain ⟨i, hlink⟩ := mem_targets_iff.1 hmem
      have := h.upward i _ hlink
      omega
    cases parent with
    | none => simpa using h.single
    | some p => exact List.Nodup.append h.single (List.nodup_singleton _) (by simpa using hnew)

/-- A chain below a number in use keeps the shape. -/
theorem Shaped.grow (h : store.Shaped) (hparent : ∀ p ∈ parent, store.Has p)
    (chain : List State) : (store.grow parent chain).Shaped := by
  induction chain generalizing store parent with
  | nil => exact h
  | cons state rest ih =>
    refine ih (h.push hparent state) ?_
    rintro p hp
    obtain rfl : store.size + 1 = p := by simpa using hp
    rw [Has, size_push]
    omega

end Store

end StateExplorer
