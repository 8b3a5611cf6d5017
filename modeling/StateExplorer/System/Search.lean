import StateExplorer.System.Problem

/-!
# Searching a transition system

Chains are found depth first, transitions in declaration order, so the order of the answers never
varies. A chain is given up as soon as a state misses the condition at its position, and the
search ends when so many chains were found as were allowed.
-/

namespace StateExplorer

/-- The fields of a state with their values. -/
abbrev View := NameMap (List String)

/-- A state of the system on a chain, and what it is seen to hold there. -/
structure Leg where
  state : SystemState
  view : View
deriving DecidableEq

/-- Chains found so far, last one first, and how many more are wanted. -/
structure Found where
  room : Nat
  chains : List (List View)

namespace TransitionSystem

/-- What a state holds when it is entered by a transition with the given label: the values of all
fields as sets, where a label stands for the values of the transition field. -/
def view (system : TransitionSystem) (transitionField : String) (state : SystemState)
    (label : Option String) : View :=
  .ofList (system.fields.names.map fun name =>
    let own := (state.values.get? name).getD []
    let values := match label with
      | some label => if name = transitionField then [label] else own
      | none => own
    (name, valueSet values))

/-- What a view holds apart from the transition field. -/
def content (transitionField : String) (view : View) : View :=
  view.filter fun name _ => name != transitionField

/-- The states where chains may start, in order. -/
def starts (system : TransitionSystem) (transitionField : String) : Start → List Leg
  | .matching condition =>
    ((system.initial.filterMap system.state?).map fun state =>
      ⟨state, system.view transitionField state none⟩).filter fun leg => condition.holds leg.view
  | .fixed given =>
    (system.states.filter fun state =>
      content transitionField (system.view transitionField state none) ==
        content transitionField given).map fun state => ⟨state, given⟩

/-- The states that the transitions from a state lead to, in order. -/
def moves (system : TransitionSystem) (transitionField : String) (source : SystemState) :
    List Leg :=
  (system.transitions.filter (·.source == source.name)).filterMap fun t =>
    (system.state? t.target).map fun target =>
      ⟨target, system.view transitionField target t.label⟩

end TransitionSystem

namespace Problem

/-- Whether a view meets every condition on its position. -/
def admits (problem : Problem) (position : Nat) (view : View) : Bool :=
  problem.positional.all fun (i, condition) => i != position || condition.holds view

/-- Whether some state after the first is as wanted; the chain is given last state first. -/
def reached (problem : Problem) (chain : List Leg) : Bool :=
  match problem.reach with
  | none => true
  | some condition => chain.dropLast.any fun leg => condition.holds leg.view

/-- Adds the chains that go on from a state by `left` more transitions; `before` are the legs of
the chain before it, last one first. -/
def explore (problem : Problem) (system : TransitionSystem) (transitionField : String) :
    (left : Nat) → (before : List Leg) → (leg : Leg) → Found → Found
  | left, before, leg, found =>
    if found.room = 0 then found
    else
      match left with
      | 0 =>
        if problem.reached (leg :: before) then
          ⟨found.room - 1, ((leg :: before).reverse.map (·.view)) :: found.chains⟩
        else found
      | left + 1 =>
        let next := (system.moves transitionField leg.state).filter fun next =>
          problem.admits (before.length + 1) next.view
        next.foldl (fun found next => explore problem system transitionField left (leg :: before)
          next found) found

/-- The first chains, at most `cap` of them, that solve the problem. -/
def chains (problem : Problem) (system : TransitionSystem) (transitionField : String)
    (cap : Nat) : List (List View) :=
  ((system.starts transitionField problem.start).foldl (fun found leg =>
    explore problem system transitionField problem.bound [] leg found) ⟨cap, []⟩).chains.reverse

end Problem

end StateExplorer
