import StateExplorer.Condition.Parser
import StateExplorer.Query.Basic
import StateExplorer.Solver.Basic
import StateExplorer.System.Basic

/-!
# Queries over a transition system

The text of a query is read back into a problem: where chains start, how many transitions they
have, which conditions hold at which positions, and what some later state must satisfy. The last
line that begins with `run` is the command; the predicates are found by the names it mentions.
-/

namespace StateExplorer

/-- Where chains start: at initial states of which a condition holds, or at every state with the
given values, which then stand for the first state of the chain. -/
inductive Start
  | matching (condition : Condition)
  | fixed (fields : NameMap (List String))

/-- What a query asks of chains. The first state has position zero. -/
structure Problem where
  start : Start
  bound : Nat
  positional : List (Nat × Condition)
  reach : Option Condition

/-- Why a text is no query. -/
inductive ReadError
  | noCommand
  | noScope (command : String)
  | badScope (command : String)
  | emptyScope
  | badStep (command : String)
  | predicate (cause : Predicate.LocateError)
  | condition (cause : Condition.SyntaxError)
  | unknownField (field : String)
deriving DecidableEq

/-- The error that a solver reports. -/
def ReadError.toSolverError : ReadError → SolverError
  | .noCommand => .compile "no run command"
  | .noScope command => .compile ("no scope in " ++ command)
  | .badScope command => .compile ("bad scope in " ++ command)
  | .emptyScope => .compile "scope must be at least 1"
  | .badStep command => .compile ("bad path predicate in " ++ command)
  | .predicate cause => .ofLocate cause
  | .condition cause => .compile cause.message
  | .unknownField field => .compile ("unknown field " ++ field)

namespace Problem

/-- The last line of a text that begins with `run`, trimmed. -/
def command? (text : String) : Option (List Char) :=
  ((Text.lines text.toList).map Text.trim).reverse.find? fun line =>
    (Text.dropStart? ['r', 'u', 'n'] line).isSome

/-- The number of states that a command asks for. -/
def scope (command : List Char) : Except ReadError Nat :=
  match Text.cut? "for exactly".toList command with
  | none => .error (.noScope (String.ofList command))
  | some (_, rest) =>
    match (Text.firstWord? rest).bind Text.readNat? with
    | none => .error (.badScope (String.ofList command))
    | some n => .ok n

/-- The number of transitions that a command asks for: one less than its states. -/
def boundOf (command : List Char) : Except ReadError Nat := do
  match ← scope command with
  | 0 => .error .emptyScope
  | n + 1 => .ok n

/-- The condition that the predicate of a name states, over declared fields only. -/
def conditionOf (fields : Schema) (text : List Char) (name : String) :
    Except ReadError Condition := do
  match Predicate.body? name text with
  | .error e => throw (.predicate e)
  | .ok none => throw (.predicate (.missing name))
  | .ok (some body) =>
    match Condition.parse (String.ofList body) with
    | .error e => throw (.condition e)
    | .ok condition =>
      match condition.fields.find? (!fields.declares ·) with
      | some field => throw (.unknownField field)
      | none => return condition

/-- The equations that a condition joins, if it is nothing but a conjunction of equations. -/
def equations? (condition : Condition) : Option (List (String × List String)) :=
  let parts := match condition with
    | .all parts => parts
    | part => [part]
  parts.mapM fun
    | .equals field values => some (field, values)
    | _ => none

/-- The values that a condition fixes, if it is a conjunction of equations with one for every
field but the transition field; a field without an equation is then empty. -/
def fixedFields? (fields : Schema) (transitionField : String) (condition : Condition) :
    Option (NameMap (List String)) := do
  let given := NameMap.ofList (← equations? condition)
  if fields.names.all fun name => name == transitionField || given.contains name then
    return fields.names.foldl (fun m name => if m.contains name then m else m.insert name []) given
  else none

/-- Where a condition lets chains start. -/
def startOf (fields : Schema) (transitionField : String) (condition : Condition) : Start :=
  match fixedFields? fields transitionField condition with
  | some given => .fixed given
  | none => .matching condition

/-- What follows each mention of a predicate for a step. -/
def mentions : List Char → List (List Char)
  | [] => []
  | c :: rest =>
    match Text.dropStart? Query.pathName.toList (c :: rest) with
    | some after => after :: mentions rest
    | none => mentions rest

/-- The position and the condition of a mentioned predicate for a step. -/
def positionalOf (fields : Schema) (text command after : List Char) :
    Except ReadError (Nat × Condition) := do
  match Text.readNat? (after.takeWhile Char.isDigit) with
  | none => throw (.badStep (String.ofList command))
  | some step =>
    return (step + 1, ← conditionOf fields text (Query.pathName ++ toString step))

/-- The condition that some state after the first must satisfy. -/
def reachOf (fields : Schema) (text command : List Char) :
    Except ReadError (Option Condition) := do
  if Text.hasInfix Query.breakName.toList command then
    return some (← conditionOf fields text Query.breakName)
  else if Text.hasInfix Query.forceName.toList command then
    return some (← conditionOf fields text Query.forceName)
  else return none

/-- The problem that a query poses over the given fields. -/
def read (fields : Schema) (vocabulary : Vocabulary) (query : String) :
    Except ReadError Problem := do
  let text := query.toList
  match command? query with
  | none => throw .noCommand
  | some command =>
    let bound ← boundOf command
    let init ← conditionOf fields text vocabulary.initPredicate
    let positional ← (mentions command).mapM (positionalOf fields text command)
    let reach ← reachOf fields text command
    return ⟨startOf fields vocabulary.transitionField init, bound, positional, reach⟩

end Problem

end StateExplorer
