import StateExplorer.Solution.Tuple
import StateExplorer.State.Basic

/-!
# Solutions

A document holds all answers to one query: the state signature, its fields, and an instance for
each chain that was found. An instance tells how many states its chain has and gives a list of
tuples for each field and a list of atoms for each signature. A solution is a position in a
document; without an instance there it stands for an answer that cannot be satisfied.
-/

namespace StateExplorer

/-- One chain of states, as tuples and atoms. -/
structure Instance where
  stateCount : Nat
  tuples : NameMap (List String)
  sigs : NameMap (List String)
deriving DecidableEq

/-- Every solution to one query, in the order in which they were found. -/
structure Document where
  stateSig : String
  fields : Schema
  instances : List Instance
deriving DecidableEq

/-- A position among the instances of a document. -/
structure Solution where
  document : Document
  index : Nat
deriving DecidableEq

/-- Why a solution cannot be read. -/
inductive DecodeError
  | tuple (cause : Tuple.TupleError)
  | stateOutOfRange (tuple : String) (index count : Nat)
  | unknownSignature (sig : String)
  | unknownField (field : String)
  | noInstance
deriving DecidableEq

/-- The wording of an error. -/
def DecodeError.message : DecodeError → String
  | .tuple cause => cause.message
  | .stateOutOfRange text index count =>
    "tuple " ++ Tuple.quote text ++ " refers to state " ++ toString index ++ " of " ++
      toString count
  | .unknownSignature sig => "signature " ++ sig ++ " not found"
  | .unknownField field => "field " ++ field ++ " not found"
  | .noInstance => "unsatisfiable solution has no instance"

namespace Instance

/-- The tuples of one field over a chain of states. -/
def tuplesOf (sig field : String) (chain : List State) : List String :=
  chain.zipIdx.flatMap fun (state, index) =>
    ((state.values? field).getD []).map (Tuple.write sig index)

/-- A chain of states as tuples, and its states as atoms. -/
def ofChain (sig : String) (fields : Schema) (chain : List State) : Instance where
  stateCount := chain.length
  tuples := .ofList (fields.names.map fun field => (field, tuplesOf sig field chain))
  sigs := .ofList [(sig, (List.range chain.length).map (Tuple.stateAtom sig))]

end Instance

/-- The solution at the first instance. -/
def Document.first (document : Document) : Solution := ⟨document, 0⟩

namespace Solution

/-- Whether there is an instance at the position. -/
def satisfiable (s : Solution) : Bool :=
  s.index < s.document.instances.length

/-- The next solution to the same query, if there is one. -/
def next? (s : Solution) : Option Solution :=
  if s.index + 1 < s.document.instances.length then some ⟨s.document, s.index + 1⟩ else none

/-- How many solutions follow this one. -/
def remaining (s : Solution) : Nat :=
  s.document.instances.length - (s.index + 1)

/-- The instance at the position. -/
def instance? (s : Solution) : Except DecodeError Instance :=
  match s.document.instances[s.index]? with
  | some found => .ok found
  | none => .error .noInstance

/-- The fields of the state signature, which must be the one asked for. -/
def fields (s : Solution) (sig : String) : Except DecodeError Schema :=
  if s.document.stateSig = sig then .ok s.document.fields else .error (.unknownSignature sig)

/-- How many states the chain has. -/
def stateCount (s : Solution) (sig : String) : Except DecodeError Nat := do
  let _ ← s.fields sig
  return (← s.instance?).stateCount

/-- The tuples of a declared field. -/
def tuples (s : Solution) (field : String) : Except DecodeError (List String) :=
  if s.document.fields.declares field then
    s.instance?.map fun i => (i.tuples.get? field).getD []
  else .error (.unknownField field)

/-- The signatures that have atoms, in order. -/
def sigs (s : Solution) : Except DecodeError (List String) :=
  s.instance?.map (·.sigs.names)

/-- The atoms of a signature. -/
def atoms (s : Solution) (sig : String) : Except DecodeError (List String) := do
  match (← s.instance?).sigs.get? sig with
  | some atoms => .ok atoms
  | none => .error (.unknownSignature sig)

end Solution

end StateExplorer
