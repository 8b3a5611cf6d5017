import StateExplorer.Solution.Json

/-!
# Transition systems

A finite transition system lists its states by name with the values they hold, its initial states
and its transitions. It is well formed when no name stands for two states, no state sets a field
that is not declared, and every name that is mentioned is that of a state.
-/

namespace StateExplorer

/-- A named state with the values it holds. -/
structure SystemState where
  name : String
  values : NameMap (List String)
deriving DecidableEq

/-- A transition between two named states. Its label becomes the value of the transition field in
the state it enters. -/
structure Transition where
  source : String
  target : String
  label : Option String
deriving DecidableEq

/-- A finite transition system. -/
structure TransitionSystem where
  fields : Schema
  states : List SystemState
  initial : List String
  transitions : List Transition
deriving DecidableEq

/-- What is wrong with a transition system. -/
inductive SystemFault
  | duplicateState (name : String)
  | undeclaredField (state field : String)
  | unknownState (name : String)
deriving DecidableEq

/-- The wording of a fault. -/
def SystemFault.message : SystemFault → String
  | .duplicateState name => "duplicate state " ++ name
  | .undeclaredField state field => "state " ++ state ++ " sets undeclared field " ++ field
  | .unknownState name => "unknown state " ++ name

namespace TransitionSystem

/-- The faults of states that come after states of the given names. -/
def stateFaults (fields : Schema) (seen : List String) : List SystemState → List SystemFault
  | [] => []
  | state :: rest =>
    (if seen.contains state.name then [.duplicateState state.name] else []) ++
      ((state.values.names.filter (!fields.declares ·)).map (.undeclaredField state.name)) ++
      stateFaults fields (state.name :: seen) rest

/-- The names of states that the system mentions. -/
def mentioned (system : TransitionSystem) : List String :=
  system.initial ++ system.transitions.flatMap fun t => [t.source, t.target]

/-- Everything that is wrong with the system: faults of its states first, then unknown names. -/
def faults (system : TransitionSystem) : List SystemFault :=
  let names := system.states.map (·.name)
  stateFaults system.fields [] system.states ++
    (system.mentioned.filter (!names.contains ·)).map .unknownState

/-- Whether the system is well formed, or else its first fault. -/
def validate (system : TransitionSystem) : Except SystemFault Unit :=
  match system.faults with
  | [] => .ok ()
  | fault :: _ => .error fault

/-- The first state of a name. -/
def state? (system : TransitionSystem) (name : String) : Option SystemState :=
  system.states.find? (·.name == name)

/-- Reads a state. -/
def stateOfDatum? (form : Datum.Form) (d : Datum) : Option SystemState := do
  match ← Datum.entries? form ["name", "values"] d with
  | [some name, values] =>
    return ⟨← name.string?, ← Datum.orElse? .empty (Datum.map? Datum.strings?) values⟩
  | _ => none

/-- Reads a transition. -/
def transitionOfDatum? (form : Datum.Form) (d : Datum) : Option Transition := do
  match ← Datum.entries? form ["from", "to", "label"] d with
  | [some source, some target, label] =>
    return ⟨← source.string?, ← target.string?,
      ← Datum.orElse? none (Datum.optional? Datum.string?) label⟩
  | _ => none

/-- Reads a transition system; only its fields have to be there. -/
def ofDatum? (form : Datum.Form) (d : Datum) : Option TransitionSystem := do
  match ← Datum.entries? form ["fields", "states", "initial", "transitions"] d with
  | [some fields, states, initial, transitions] =>
    return {
      fields := ← Schema.ofDatum? form fields
      states := ← Datum.orElse? [] (Datum.list? (stateOfDatum? form)) states
      initial := ← Datum.orElse? [] Datum.strings? initial
      transitions := ← Datum.orElse? [] (Datum.list? (transitionOfDatum? form)) transitions }
  | _ => none

end TransitionSystem

end StateExplorer
