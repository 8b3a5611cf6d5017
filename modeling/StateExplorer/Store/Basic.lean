import StateExplorer.State.Fingerprint

/-!
# The store of discovered states

A store numbers the states it is given from one upwards, without gaps and in the order they come,
so the size of the store is the largest number in use. Nothing is ever removed or merged: a state
that is met again gets a number of its own. The index tells which numbers share a fingerprint.

Every write answers what it did together with the store after it. A refused write leaves the
store as it was, with one exception: starting afresh with no state at all empties the store.
-/

namespace StateExplorer

/-- A step from a stored state to another, with the name of the transition where it is known. -/
structure Edge where
  target : Nat
  label : Option String
deriving DecidableEq

/-- A stored state with its fingerprint, the steps taken from it, and the route by which it was
first reached, which is empty until one is recorded. -/
structure Node where
  state : State
  edges : List Edge
  route : List Nat
  fingerprint : Fingerprint
  fingerprint_eq : fingerprint = state.fingerprint
deriving DecidableEq

/-- A state that was just stored. -/
def Node.fresh (state : State) : Node :=
  ⟨state, [], [], state.fingerprint, rfl⟩

/-- Why the store refused. -/
inductive StoreError
  | unknownNode (id : Nat)
  | indexOutOfRange (index size : Nat)
  | emptyChain
deriving DecidableEq

/-- The wording of a refusal. -/
def StoreError.message : StoreError → String
  | .unknownNode id => "state S" ++ toString id ++ " not found"
  | .indexOutOfRange index size =>
    "index " ++ toString index ++ " out of range for a store of " ++ toString size ++ " states"
  | .emptyChain => "cannot append an empty chain"

/-- The numbers under each fingerprint, in the order they were noted. -/
abbrev ContentIndex := List (Fingerprint × List Nat)

namespace ContentIndex

/-- The numbers noted under a fingerprint. -/
def numbers (index : ContentIndex) (print : Fingerprint) : List Nat :=
  (index.lookup print).getD []

/-- The index with one more number under a fingerprint. -/
def note (print : Fingerprint) (id : Nat) : ContentIndex → ContentIndex
  | [] => [(print, [id])]
  | (p, ids) :: rest => if p = print then (p, ids ++ [id]) :: rest else (p, ids) :: note print id rest

end ContentIndex

/-- Every state discovered so far. A step is labelled from one field of the state it leads to. -/
structure Store where
  nodes : List Node
  index : ContentIndex
  transitionField : Option String
deriving DecidableEq

namespace Store

/-- A store without states. -/
def empty (transitionField : Option String) : Store :=
  ⟨[], [], transitionField⟩

/-- How many states are stored. -/
def size (store : Store) : Nat :=
  store.nodes.length

/-- The stored state of a number. -/
def node? (store : Store) (id : Nat) : Option Node :=
  if id = 0 then none else store.nodes[id - 1]?

/-- The stored state of a number, or why there is none. -/
def node (store : Store) (id : Nat) : Except StoreError Node :=
  match store.node? id with
  | some node => .ok node
  | none => .error (.unknownNode id)

/-- The number and the stored state at a position of the order in which they came. -/
def atIndex (store : Store) (i : Nat) : Except StoreError (Nat × Node) :=
  match store.nodes[i]? with
  | some node => .ok (i + 1, node)
  | none => .error (.indexOutOfRange i store.size)

/-- The label of a step into a state: the values of the transition field, if it has any. -/
def label? (store : Store) (state : State) : Option String := do
  let values ← state.values? (← store.transitionField)
  if values.isEmpty then none else some (", ".intercalate values)

/-- The stored states with one of them changed. -/
def changeNode (nodes : List Node) (id : Nat) (f : Node → Node) : List Node :=
  if id = 0 then nodes else nodes.modify (id - 1) f

/-- The store with one more state, reached from the parent if there is one. -/
def push (store : Store) (parent : Option Nat) (state : State) : Store :=
  let id := store.size + 1
  let edge : Edge := ⟨id, store.label? state⟩
  let linked := match parent with
    | some p => changeNode store.nodes p fun n => { n with edges := n.edges ++ [edge] }
    | none => store.nodes
  { store with
    nodes := linked ++ [.fresh state]
    index := store.index.note state.fingerprint id }

/-- The store with a chain of states, each reached from the one before it. -/
def grow (store : Store) (parent : Option Nat) : List State → Store
  | [] => store
  | state :: rest => (store.push parent state).grow (some (store.size + 1)) rest

/-- Appends a chain of states below a stored state, or as a new root, and answers their numbers. -/
def addChain (store : Store) (parent : Option Nat) (chain : List State) :
    Except StoreError (List Nat) × Store :=
  if chain.isEmpty then (.error .emptyChain, store)
  else
    match parent.map store.node with
    | some (.error e) => (.error e, store)
    | _ => (.ok (List.range' (store.size + 1) chain.length), store.grow parent chain)

/-- Drops every state and stores a chain as the first root. -/
def startWith (store : Store) (chain : List State) : Except StoreError (List Nat) × Store :=
  (empty store.transitionField).addChain none chain

/-- Records how a state was first reached. Answers false, and changes nothing, where a route is
known already or the given one is empty. -/
def recordRoute (store : Store) (id : Nat) (route : List Nat) : Except StoreError Bool × Store :=
  match store.node id with
  | .error e => (.error e, store)
  | .ok node =>
    if node.route.isEmpty && !route.isEmpty then
      (.ok true, { store with nodes := changeNode store.nodes id fun n => { n with route := route } })
    else (.ok false, store)

/-- The numbers of all states with the fingerprint of the numbered one. -/
def equivalents (store : Store) (id : Nat) : Except StoreError (List Nat) :=
  (store.node id).map fun node => store.index.numbers node.fingerprint

/-- The numbers of all stored states with the fingerprint of the given one. -/
def find (store : Store) (state : State) : List Nat :=
  store.index.numbers state.fingerprint

end Store

end StateExplorer
