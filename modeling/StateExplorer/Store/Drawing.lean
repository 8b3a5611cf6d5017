import StateExplorer.Store.Basic

/-!
# Drawing a store

A drawing is a list of Graphviz statements: every step of every stored state, the bare number of
a state without steps, a colour for states that carry the stable field, and at last the highlight
of the current state. `document` puts the statements into one graph.
-/

namespace StateExplorer

namespace Drawing

/-- Which states are stable: those where the field holds the value. -/
structure Style where
  stableField : Option String
  stableValue : String

/-- The statement of a step. -/
def edge (id : Nat) (e : Edge) : String :=
  let arrow := "S" ++ toString id ++ " -> S" ++ toString e.target
  match e.label with
  | some label => arrow ++ "[label=\"" ++ label ++ "\"]"
  | none => arrow

/-- The colour of a state that carries the stable field. -/
def colour (style : Style) (id : Nat) (state : State) : List String :=
  match style.stableField.bind state.values? with
  | some values =>
    let name := if values.contains style.stableValue then "green" else "red"
    ["S" ++ toString id ++ "[color=" ++ name ++ "]"]
  | none => []

/-- The statements of one stored state. -/
def node (style : Style) (id : Nat) (n : Node) : List String :=
  let steps := if n.edges.isEmpty then ["S" ++ toString id] else n.edges.map (edge id)
  steps ++ colour style id n.state

/-- The highlight of a state. -/
def highlight (id : Nat) : String :=
  "S" ++ toString id ++ "[style=filled, fillcolor=yellow]"

/-- Statements put into one graph. -/
def document (statements : List String) : String :=
  "digraph G \x7b\n" ++ String.join (statements.map (· ++ "\n")) ++ "\x7d\n"

end Drawing

/-- The statements that draw a store. -/
def Store.drawing (store : Store) (current : Option Nat) (style : Drawing.Style) : List String :=
  (store.nodes.zipIdx 1).flatMap (fun (n, id) => Drawing.node style id n) ++
    (current.map Drawing.highlight).toList

end StateExplorer
