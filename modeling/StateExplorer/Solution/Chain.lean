import StateExplorer.Solution.Basic

/-!
# The chain of a solution

Each tuple of a declared field names a state of the chain and adds one value to it there. The
order of the tuples does not matter, since the values of a state are kept in order.
-/

namespace StateExplorer.Solution

/-- The chain with the value of one tuple added. -/
def addTuple (field : String) (chain : List State) (tuple : String) :
    Except DecodeError (List State) :=
  match Tuple.parse tuple with
  | .error e => .error (.tuple e)
  | .ok (index, value) =>
    if index < chain.length then .ok (chain.modify index fun state => state.add field value)
    else .error (.stateOutOfRange tuple index chain.length)

/-- The chain with the values of all tuples of one field added. -/
def addField (s : Solution) (chain : List State) (field : Field) :
    Except DecodeError (List State) := do
  (← s.tuples field.name).foldlM (addTuple field.name) chain

/-- The fields of the state signature and the states of the chain, first state first. -/
def chain (s : Solution) (sig : String) : Except DecodeError (Schema × List State) := do
  let schema ← s.fields sig
  let count ← s.stateCount sig
  let chain ← schema.foldlM s.addField (List.replicate count (State.blank schema))
  return (schema, chain)

end StateExplorer.Solution
