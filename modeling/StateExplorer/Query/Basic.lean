import StateExplorer.State.Listing
import StateExplorer.Vocabulary

/-!
# Queries

A query asks a solver for chains of states. Its text is the base of a model, a predicate for the
first state, the predicates of a goal, two facts that tie the chain to the first state and the
transition relation, and a command that runs the goal for chains of exactly so many states.
-/

namespace StateExplorer

/-- What a chain must do besides following the transition relation: nothing; meet the i-th
constraint in the state after i transitions, where a blank one asks for nothing; meet one of the
constraints in some state after the first; enter some state by a transition. -/
inductive Goal
  | initial
  | path (constraints : List String)
  | breakpoint (constraints : List String)
  | transition (name : String)
deriving DecidableEq

/-- A question for a solver: chains of `bound` transitions from where the resumption says. -/
structure Query where
  base : String
  resumption : String
  goal : Goal
  bound : Nat
deriving DecidableEq

namespace Query

/-- What the name of a predicate for a step starts with; the number of the step follows. -/
def pathName : String := "trellis_path_"

/-- The name of the predicate for states at a breakpoint. -/
def breakName : String := "trellis_break"

/-- The name of the predicate for states that the wanted transition enters. -/
def forceName : String := "trellis_force"

/-- The state after so many steps. -/
def stateAt (step : Nat) : String :=
  "first" ++ String.join (List.replicate step ".next")

/-- A text without blanks at either end. -/
def trimmed (s : String) : String :=
  String.ofList (Text.trim s.toList)

/-- A text without blanks at its end. -/
def trimmedEnd (s : String) : String :=
  String.ofList (Text.trimEnd s.toList)

/-- Whether a text holds nothing but blanks. -/
def isBlank (s : String) : Bool :=
  s.toList.all Text.isBlank

/-- The predicate that holds where one of the constraints does. -/
def breakpointPredicate (sig : String) (constraints : List String) : String :=
  statePredicate breakName sig
    (" or\n".intercalate (constraints.map fun c => "\t(" ++ trimmed c ++ ")") ++ "\n")

/-- The constraints that ask for something, each with its step. -/
def asked (constraints : List String) : List (String × Nat) :=
  constraints.zipIdx.filter (!isBlank ·.1)

/-- The predicates of a goal. -/
def goalPredicates (vocabulary : Vocabulary) : Goal → String
  | .initial => ""
  | .path constraints =>
    String.join ((asked constraints).map fun (constraint, step) =>
      statePredicate (pathName ++ toString step) vocabulary.stateSig
        ("\t" ++ trimmed constraint ++ "\n"))
  | .breakpoint constraints => breakpointPredicate vocabulary.stateSig constraints
  | .transition name =>
    statePredicate forceName vocabulary.stateSig
      ("\ts." ++ vocabulary.transitionField ++ " = " ++ name ++ "\n")

/-- What some state after the first must satisfy. -/
def someState (sig name : String) : String :=
  "some s: " ++ sig ++ " - first | " ++ name ++ "[s]"

/-- What the command runs for a goal. -/
def goalCommand (vocabulary : Vocabulary) : Goal → String
  | .initial => ""
  | .path constraints =>
    " and ".intercalate ((asked constraints).map fun (_, step) =>
      pathName ++ toString step ++ "[" ++ stateAt (step + 1) ++ "]")
  | .breakpoint _ => someState vocabulary.stateSig breakName
  | .transition _ => someState vocabulary.stateSig forceName

/-- What the command runs, between braces. -/
def commandBlock (command : String) : String :=
  if command.isEmpty then "\x7b\x7d" else "\x7b " ++ command ++ " \x7d"

/-- The text of a query. -/
def render (vocabulary : Vocabulary) (query : Query) : String :=
  let sig := vocabulary.stateSig
  trimmedEnd query.base ++ "\n\n" ++ trimmedEnd query.resumption ++ "\n" ++
    goalPredicates vocabulary query.goal ++
    "fact \x7b " ++ vocabulary.initPredicate ++ "[first] \x7d\n" ++
    "fact \x7b all s: " ++ sig ++ " - last | " ++ vocabulary.transitionRelation ++
    "[s, s.next] \x7d\n" ++
    "run " ++ commandBlock (goalCommand vocabulary query.goal) ++ " for exactly " ++
    toString (query.bound + 1) ++ " " ++ sig ++ "\n"

end Query

end StateExplorer
