import StateExplorer.Datum.Basic
import StateExplorer.State.Basic

/-!
# Statecharts

A statechart lists the immediate children of its control states, names the concurrent ones, and
has transitions between control states. Nothing in its form says that the children form a tree, so
every function here also ends on lists with cycles: the walk over the states visits each state
once, and a descent goes no deeper than there are names. `faults` says what keeps a chart from
being a tree in which every transition has its ends.
-/

namespace StateExplorer

/-- A named transition between two control states. -/
structure ChartTransition where
  name : String
  source : String
  target : String
deriving DecidableEq

/-- Control states with their children, the concurrent ones among them in order, and transitions. -/
structure Statechart where
  root : String
  children : NameMap (List String)
  concurrent : List String
  transitions : List ChartTransition
deriving DecidableEq

/-- What is wrong with a statechart. -/
inductive ChartFault
  | repeated (state parent : String)
  | unreachable (state root : String)
  | unknownEnd (transition state : String)
deriving DecidableEq

/-- The wording of a fault. -/
def ChartFault.message : ChartFault → String
  | .repeated state parent =>
    "state " ++ state ++ " appears twice in the hierarchy (under " ++ parent ++ ")"
  | .unreachable state root => "state " ++ state ++ " is not reachable from " ++ root
  | .unknownEnd transition state =>
    "transition " ++ transition ++ " refers to unknown state " ++ state

namespace Statechart

/-- The children of a state, in declaration order. -/
def childrenOf (chart : Statechart) (state : String) : List String :=
  (chart.children.get? state).getD []

/-- Whether a state has no children. -/
def isLeaf (chart : Statechart) (state : String) : Bool :=
  (chart.childrenOf state).isEmpty

/-- Every child that is listed, with the state it is listed under. -/
def listed (chart : Statechart) : List (String × String) :=
  chart.children.entries.flatMap fun (parent, kids) => kids.map fun kid => (kid, parent)

/-- The root and every child that is listed. -/
def names (chart : Statechart) : List String :=
  chart.root :: chart.listed.map Prod.fst

/-- Visits the pending states depth first, except those visited before, which are given last one
first. At most `turns` states are taken from the pending ones. -/
def visit (chart : Statechart) : (turns : Nat) → (pending visited : List String) → List String
  | 0, _, visited => visited.reverse
  | _, [], visited => visited.reverse
  | turns + 1, state :: pending, visited =>
    if visited.contains state then chart.visit turns pending visited
    else chart.visit turns (chart.childrenOf state ++ pending) (state :: visited)

/-- Every state that the root reaches, depth first. A state's children are taken up once, so no
more turns are needed than there are names. -/
def states (chart : Statechart) : List String :=
  chart.visit chart.names.length [chart.root] []

/-- How deep a state lies below another, which has the given depth itself; descends at most
`levels` times. -/
def depthBelow (chart : Statechart) (target : String) : (levels : Nat) → (state : String) →
    (depth : Nat) → Option Nat
  | levels, state, depth =>
    if state = target then some depth
    else
      match levels with
      | 0 => none
      | levels + 1 =>
        (chart.childrenOf state).findSome? fun kid => chart.depthBelow target levels kid (depth + 1)

/-- The depth of a state; that of the root is one. -/
def depth? (chart : Statechart) (state : String) : Option Nat :=
  chart.depthBelow state chart.names.length chart.root 1

/-- The depth of the deepest state. -/
def maxDepth (chart : Statechart) : Nat :=
  (chart.states.filterMap chart.depth?).foldl max 0

/-- The children that are listed after a place that names them already, or that are the root. -/
def repeats (seen : List String) : List (String × String) → List ChartFault
  | [] => []
  | (kid, parent) :: rest =>
    (if seen.contains kid then [.repeated kid parent] else []) ++ repeats (kid :: seen) rest

/-- Everything that is wrong with the chart: states listed twice, then states out of reach in the
order of their names, then transitions without an end. -/
def faults (chart : Statechart) : List ChartFault :=
  let reached := chart.states
  repeats [chart.root] chart.listed ++
    ((valueSet chart.names).filter (!reached.contains ·)).map (.unreachable · chart.root) ++
    chart.transitions.flatMap fun t =>
      ([t.source, t.target].filter (!reached.contains ·)).map (.unknownEnd t.name)

/-- Whether the chart is a tree with complete transitions, or else its first fault. -/
def validate (chart : Statechart) : Except ChartFault Unit :=
  match chart.faults with
  | [] => .ok ()
  | fault :: _ => .error fault

/-- A name as it is written in drawings: slashes become underscores. -/
def canonical (name : String) : String :=
  String.ofList (name.toList.map fun c => if c = '/' then '_' else c)

/-- Reads a transition. -/
def transitionOfDatum? (form : Datum.Form) (d : Datum) : Option ChartTransition := do
  match ← Datum.entries? form ["name", "source", "target"] d with
  | [some name, some source, some target] =>
    return ⟨← name.string?, ← source.string?, ← target.string?⟩
  | _ => none

/-- Reads a statechart; only its root has to be there. -/
def ofDatum? (form : Datum.Form) (d : Datum) : Option Statechart := do
  match ← Datum.entries? form ["root", "children", "and_states", "transitions"] d with
  | [some root, children, concurrent, transitions] =>
    return {
      root := ← root.string?
      children := ← Datum.orElse? .empty (Datum.map? Datum.strings?) children
      concurrent := valueSet (← Datum.orElse? [] Datum.strings? concurrent)
      transitions := ← Datum.orElse? [] (Datum.list? (transitionOfDatum? form)) transitions }
  | _ => none

end Statechart

end StateExplorer
