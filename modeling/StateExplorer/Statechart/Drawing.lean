import StateExplorer.Statechart.Basic
import StateExplorer.Text.Search

/-!
# Drawing a statechart

Composite states, and leaves above the deepest level, are drawn as clusters, so transitions can
attach to their borders. A cluster other than the root holds an invisible point of its own name
for transitions that leave it and a second one for transitions that enter it.
-/

namespace StateExplorer.Statechart

/-- The last part of a canonical name. -/
def label (canonical : String) : String :=
  match Text.cutLast? '_' canonical.toList with
  | some (_, last) => String.ofList last
  | none => canonical

/-- Whether a state is drawn as a cluster. -/
def isCluster (chart : Statechart) (deepest : Nat) (state : String) : Bool :=
  !chart.isLeaf state || chart.depth? state != some deepest

/-- The name of the cluster of a state. -/
def clusterName (canonical : String) : String :=
  "cluster_" ++ canonical

/-- The name of the point where transitions enter a cluster. -/
def entryName (canonical : String) : String :=
  canonical ++ "_other_side"

/-- The statement of an invisible point. -/
def point (name : String) : String :=
  name ++ " [style=invis,shape=point,penwidth=0]"

/-- The statements at the start of a cluster. -/
def clusterStart (chart : Statechart) (active : List String) (state : String) : List String :=
  let name := canonical state
  let heading :=
    if state = chart.root then ["label=" ++ name]
    else
      (if active.contains name then ["style=filled", "fillcolor=yellow"] else []) ++
        ["label=" ++ label name, point name]
  ["subgraph " ++ clusterName name ++ " \x7b"] ++ heading ++
    (if chart.concurrent.contains state then ["style=dashed"] else [])

/-- The statements at the end of a cluster. -/
def clusterEnd (chart : Statechart) (state : String) : List String :=
  (if state = chart.root then [] else [point (entryName (canonical state))]) ++ ["\x7d"]

/-- The statement of a state that is not drawn as a cluster. -/
def leafStatement (active : List String) (state : String) : String :=
  let name := canonical state
  let fill := if active.contains name then ", style=filled, fillcolor=yellow" else ""
  name ++ " [label=" ++ label name ++ fill ++ "]"

/-- The statements of a state and of those below it; descends at most `levels` times. -/
def drawState (chart : Statechart) (deepest : Nat) (active : List String) :
    (levels : Nat) → (state : String) → List String
  | levels, state =>
    let below := match levels with
      | 0 => []
      | levels + 1 => (chart.childrenOf state).flatMap (chart.drawState deepest active levels)
    if chart.isCluster deepest state then
      chart.clusterStart active state ++ below ++ chart.clusterEnd state
    else leafStatement active state :: below

/-- The statement of a transition. -/
def drawTransition (chart : Statechart) (deepest : Nat) (t : ChartTransition) : String :=
  let source := canonical t.source
  let target := canonical t.target
  let leaves := chart.isCluster deepest t.source
  let enters := chart.isCluster deepest t.target
  let attributes := ["label=" ++ canonical t.name] ++
    (if leaves then ["ltail=" ++ clusterName source] else []) ++
    (if enters then ["lhead=" ++ clusterName target] else [])
  source ++ "->" ++ (if enters then entryName target else target) ++
    " [" ++ ",".intercalate attributes ++ "]"

/-- The statements that draw a chart with the active states highlighted. -/
def statements (chart : Statechart) (active : List String) : List String :=
  let deepest := chart.maxDepth
  ["digraph G \x7b", "compound=true"] ++
    chart.drawState deepest active chart.names.length chart.root ++
    chart.transitions.map (chart.drawTransition deepest) ++ ["\x7d"]

/-- The drawing of a chart. -/
def drawing (chart : Statechart) (active : List String) : String :=
  "\n".intercalate (chart.statements active) ++ "\n"

end StateExplorer.Statechart
