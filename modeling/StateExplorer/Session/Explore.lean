import StateExplorer.Load
import StateExplorer.Session.Basic

/-!
# Exploring

Moving forward asks the solver for chains that start in the current state. The chain that is
found, without the state it starts in, becomes the provisional tail of the walk, and its solution
the only one on show. Alternatives put other chains in place of that tail. Going back finds the
place before the wanted state and browses from there until the wanted state is shown again.
-/

namespace StateExplorer.Explore

variable {σ : Type}

/-- Fails unless something is loaded. -/
def requireReady : Op σ Unit := do
  Op.require (!(← get).walk.stops.isEmpty) .notInitialized

/-- The stop under the cursor. -/
def current : Op σ Stop := do
  Op.ofOption .notInitialized (← get).walk.current?

/-- Writes to the store. -/
def writeStore {α : Type} (write : Store → Except StoreError α × Store) : Op σ α := do
  let x ← get
  let outcome := write x.store
  set { x with store := outcome.2 }
  Op.ofExcept .ofStore outcome.1

/-- The chain of a solution under the vocabulary in effect. -/
def chainOf (profile : Profile) (solution : Solution) : Op σ (List State) := do
  let sig := ((← get).vocabulary profile.settings).stateSig
  Op.ofExcept .ofDecode ((solution.chain sig).map Prod.snd)

/-- Records the first stops of the walk, as many as said, as the route to a state. -/
def recordRoute (id length : Nat) : Op σ Unit := do
  let route := (← get).walk.ids.take length
  let _ ← writeStore fun store => store.recordRoute id route

/-- Records the walk as the route to a stop, if that is on it. -/
def recordOnWalk (id : Nat) : Op σ Unit := do
  let ids := (← get).walk.ids
  if ids.contains id then recordRoute id (ids.idxOf id + 1)

/-- Records the walk as the route to each of the given stops. -/
def recordRoutesTo : List Nat → Op σ Unit
  | [] => pure ()
  | id :: rest => do
    recordOnWalk id
    recordRoutesTo rest

/-- Records the walk as the route to the given stops and to the one under the cursor. -/
def recordRoutes (ids : List Nat) : Op σ Unit := do
  recordRoutesTo ids
  let walk := (← get).walk
  match walk.current? with
  | none => pure ()
  | some stop => recordRoute stop.id (walk.cursor + 1)

/-- Stores a chain below a state, or as a new root, shows it after what is kept of the walk, turns
the alternatives over, and records the routes to the new states. -/
def attach (parent : Option Nat) (chain : List State) (keep : Walk → Walk)
    (turn : Alternatives → Except NoAlternative Alternatives) : Op σ Unit := do
  let ids ← writeStore fun store => store.addChain parent chain
  let stops ← Op.ofExcept .ofStore ((← get).store.stops ids)
  Op.update fun x => { x with walk := (keep x.walk).extend stops }
  let alternatives ← Op.ofExcept .exhausted (turn (← get).alternatives)
  Op.update fun x => { x with alternatives := alternatives }
  recordRoutes ids

/-- A store that holds one chain as a root, with the route to each of its states, and the numbers
of these states. -/
def storeOf (transitionField : String) (chain : List State) :
    Except StoreError (List Nat × Store) :=
  match (Store.empty (some transitionField)).startWith chain with
  | (.error e, _) => .error e
  | (.ok ids, store) =>
    .ok (ids, ids.foldl (fun store id => (store.recordRoute id (List.range' 1 id)).2) store)

/-- Asks for the initial state of a model. -/
def askInitial [Solver σ] (model : Model) (vocabulary : Vocabulary) : Op σ Solution :=
  Op.ask (Query.render vocabulary ⟨model.base, model.init, .initial, 0⟩)

/-- Loads a model and finds its initial state. -/
def loadModel [Solver σ] (text : String) (profile : Profile) : Op σ Unit := do
  let own ← Op.ofExcept .ofSolver (Vocabulary.embedded text)
  let vocabulary := own.getD profile.settings.vocabulary
  let model ← Op.ofExcept (.ofSolver ∘ .ofLocate) (Model.parse text vocabulary)
  let solution ← askInitial model vocabulary
  Op.require solution.satisfiable (.unsatisfiable .start)
  let decoded ← Op.ofExcept .ofDecode (solution.chain vocabulary.stateSig)
  let scopes ← Op.ofExcept .ofDecode (solution.scopes vocabulary.extraAtoms)
  let stored ← Op.ofExcept .ofStore (storeOf vocabulary.transitionField decoded.2)
  let stops ← Op.ofExcept .ofStore (stored.2.stops stored.1)
  Op.update fun x => { x with
    ownVocabulary := own
    model := some model
    schema := decoded.1
    scopes := scopes
    store := stored.2
    walk := Walk.empty.extend stops
    alternatives := .only solution
    replaying := false }

/-- Loads a trace and puts the cursor on its first state. -/
def loadTrace (trace : Document) (profile : Profile) : Op σ Unit := do
  let vocabulary := profile.settings.vocabulary
  let solution := trace.first
  Op.require solution.satisfiable (.badSolution .emptyTrace)
  let decoded ← Op.ofExcept .ofDecode (solution.chain vocabulary.stateSig)
  let scopes ← Op.ofExcept .ofDecode (solution.scopes vocabulary.extraAtoms)
  let stored ← Op.ofExcept .ofStore (storeOf vocabulary.transitionField decoded.2)
  let stops ← Op.ofExcept .ofStore (stored.2.stops stored.1)
  Op.update fun x => { x with
    ownVocabulary := none
    model := none
    schema := decoded.1
    scopes := scopes
    store := stored.2
    walk := { Walk.committed stops with cursor := 0 }
    alternatives := .empty
    replaying := true }

/-- The predicate for the state that chains start in: the current state's own one, or, before
anything was explored, the model's initial predicate. -/
def resumption (model : Model) (profile : Profile) : Op σ String := do
  let x ← get
  if 1 < x.store.size then
    let vocabulary := x.vocabulary profile.settings
    let stop ← current
    return stop.state.constraint x.schema vocabulary.initPredicate vocabulary.stateSig
  else return model.init

/-- Asks for chains that start in the current state. -/
def solve [Solver σ] (goal : Goal) (bound : Nat) (profile : Profile) : Op σ Solution := do
  let x ← get
  let model ← Op.ofOption .notInitialized x.model
  let start ← resumption model profile
  Op.ask (Query.render (x.vocabulary profile.settings) ⟨model.base, start, goal, bound⟩)

/-- Keeps the tail of the walk and puts the chain of a solution after it. -/
def extend (solution : Solution) (profile : Profile) : Op σ Unit := do
  match ← chainOf profile solution with
  | _ :: next :: rest =>
    let anchor ← current
    attach (some anchor.id) (next :: rest) Walk.commit fun _ => .ok (.only solution)
  | _ => Op.fail (.badSolution .noTransition)

/-- Moves the cursor of a replay forward. -/
def advance (steps : Nat) : Op σ Unit := do
  let x ← get
  Op.require (!x.walk.atEnd) .traceEnd
  let walk ← Op.ofExcept .traceExhausted (x.walk.advance steps true)
  set { x with walk := walk }

/-- Takes so many transitions, with constraints on the states they enter; in a replay, moves the
cursor forward. -/
def step [Solver σ] (steps : Nat) (constraints : List String) (profile : Profile) :
    Op σ Unit := do
  requireReady
  Op.require (steps != 0) (.invalidBound .step)
  if (← get).replaying then advance steps
  else
    let solution ← solve (.path constraints) steps profile
    Op.require solution.satisfiable (.unsatisfiable .step)
    extend solution profile

/-- Tries bounds from the given one upwards until a goal is met, `left` of them, and answers with
the one at which it was. -/
def searchBounds [Solver σ] (goal : Goal) (missing : NoChain) (profile : Profile) :
    (bound left : Nat) → Op σ Nat
  | _, 0 => Op.fail (.unsatisfiable missing)
  | bound, left + 1 => do
    let solution ← solve goal bound profile
    if solution.satisfiable then
      extend solution profile
      return bound
    else searchBounds goal missing profile (bound + 1) left

/-- Moves on until a breakpoint is hit, by at most `limit` transitions. -/
def runUntil [Solver σ] (limit : Nat) (profile : Profile) : Op σ Nat := do
  requireReady
  let x ← get
  Op.require (!x.replaying) (.inReplay .until)
  Op.require (limit != 0) (.invalidBound .limit)
  Op.require (!x.breakpoints.isEmpty) .noBreakpoints
  searchBounds (.breakpoint x.breakpoints) (.breakpoint limit) profile 1 limit

/-- Moves on until a transition is taken, by at most `limit` transitions. -/
def force [Solver σ] (name : String) (limit : Nat) (profile : Profile) : Op σ Nat := do
  requireReady
  Op.require profile.kind.canForce (.unsupported .force)
  Op.require (!(← get).replaying) (.inReplay .force)
  Op.require (limit != 0) (.invalidBound .limit)
  let transition ← Op.ofOption (.unknownTransition name) (profile.kind.transition? name)
  searchBounds (.transition transition) (.transition name limit) profile 1 limit

/-- The solution that an alternative shows. -/
def chosen (alternatives : Alternatives) (reverse : Bool) : Except NoAlternative Solution :=
  if reverse then
    match alternatives.previous? with
    | some solution => .ok solution
    | none => .error .previous
  else
    match alternatives.top? with
    | none => .error .active
    | some top =>
      match top.next? with
      | some next => .ok next
      | none => .error .next

/-- The alternatives once a chosen solution is on show. -/
def turned (solution : Solution) (reverse : Bool) (alternatives : Alternatives) :
    Except NoAlternative Alternatives :=
  if reverse then
    match alternatives.pop? with
    | some popped => .ok popped
    | none => .error .previous
  else .ok (alternatives.push solution)

/-- The last committed stop of a walk. -/
def anchor? (walk : Walk) : Option Stop :=
  match walk.stops.length - walk.provisional with
  | 0 => none
  | committed + 1 => walk.stops[committed]?

/-- Shows the next solution, or the previous one, in place of the provisional tail. A chain of one
state is an initial state and becomes a new root. -/
def alternate (reverse : Bool) (profile : Profile) : Op σ Unit := do
  requireReady
  let solution ← Op.ofExcept .exhausted (chosen (← get).alternatives reverse)
  match ← chainOf profile solution with
  | [] => Op.fail (.badSolution .noState)
  | [only] => attach none [only] Walk.rollback (turned solution reverse)
  | _ :: next :: rest =>
    let anchor ← Op.ofOption (.badSolution .noAnchor) (anchor? (← get).walk)
    attach (some anchor.id) (next :: rest) Walk.rollback (turned solution reverse)

/-- Goes back to the initial state of the model, or to the first state of a trace. -/
def reset [Solver σ] (profile : Profile) : Op σ Unit := do
  requireReady
  let x ← get
  if x.replaying then set { x with walk := x.walk.retreat x.walk.cursor true }
  else
    let model ← Op.ofOption .notInitialized x.model
    let solution ← askInitial model (x.vocabulary profile.settings)
    Op.require solution.satisfiable (.unsatisfiable .restart)
    match ← chainOf profile solution with
    | [] => Op.fail (.badSolution .noState)
    | first :: _ =>
      Op.update fun x => { x with
        walk := Walk.empty.extend [⟨1, first⟩]
        alternatives := .only solution }

/-- Whether the cursor is on a stop with another state than the wanted one. -/
def isElsewhere (wanted : State) (x : Exploration) : Bool :=
  x.walk.current?.any (·.state != wanted)

/-- Shows one alternative after another until the wanted state is under the cursor. The solutions
that are left bound the number of turns; when they run out the last turn fails. -/
def seek (wanted : State) (profile : Profile) : (turns : Nat) → Op σ Unit
  | 0 => pure ()
  | turns + 1 => do
    if isElsewhere wanted (← get) then
      alternate false profile
      seek wanted profile turns

/-- Finds the states that lie so many steps back anew, from the state before them, or from the
initial state where there is none. -/
def findAgain [Solver σ] (steps : Nat) (profile : Profile) : Op σ Unit := do
  let x ← get
  if x.walk.cursor ≤ steps then reset profile
  else
    set { x with walk := x.walk.retreat (steps + 1) x.replaying }
    step 1 [] profile

/-- Browses for the state of a stop and shows it under the number of that stop. -/
def settle (target : Stop) (profile : Profile) : Op σ Unit := do
  let left := ((← get).alternatives.top?.map Solution.remaining).getD 0
  seek target.state profile (left + 1)
  Op.update fun x => { x with walk := x.walk.renumber target.id }
  recordRoutes []

/-- Goes back so many states, finds the state there anew, and shows it under its old number. -/
def retrace [Solver σ] (steps : Nat) (profile : Profile) : Op σ Unit := do
  let x ← get
  let target ← Op.ofOption .notInitialized x.walk.stops[x.walk.cursor - steps]?
  findAgain steps profile
  settle target profile

/-- Goes back so many states and finds the state there anew, so that its alternatives can be
browsed. Where that fails, all that was found on the way is dropped again. -/
def reverseStep [Solver σ] (steps : Nat) (profile : Profile) : Op σ Unit := do
  requireReady
  Op.require (steps != 0) (.invalidBound .reverseStep)
  Op.restoring (retrace steps profile)

/-- Moves the cursor of a replay to the stop that is shown under a number. -/
def seekStop (id : Nat) : Op σ Unit := do
  let x ← get
  Op.require (x.walk.ids.contains id) (.noRoute id)
  let target := x.walk.ids.idxOf id
  if target < x.walk.cursor then
    set { x with walk := x.walk.retreat (x.walk.cursor - target) true }
  else
    let walk ← Op.ofExcept .traceExhausted (x.walk.advance (target - x.walk.cursor) true)
    set { x with walk := walk }

/-- Goes to a stored state by the route on which it was found; in a replay, moves the cursor. -/
def moveTo (id : Nat) (_ : Profile) : Op σ Unit := do
  requireReady
  let x ← get
  let node ← Op.ofExcept .ofStore (x.store.node id)
  if x.replaying then seekStop id
  else
    Op.require (!node.route.isEmpty) (.noRoute id)
    let stops ← Op.ofExcept .ofStore (x.store.stops node.route)
    set { x with walk := .committed stops, alternatives := .empty }

/-- Checks that a constraint can be used as a breakpoint. -/
def validate [Solver σ] (constraint : String) (profile : Profile) : Op σ Unit := do
  let x ← get
  Op.require (!x.replaying) (.inReplay .validation)
  let model ← Op.ofOption .notInitialized x.model
  Op.check (Query.render (x.vocabulary profile.settings)
    ⟨model.base, model.init, .breakpoint [constraint], 1⟩)

/-- Adds a breakpoint that was checked and answers with its index. -/
def addBreakpoint [Solver σ] (constraint : String) (profile : Profile) : Op σ Nat := do
  validate constraint profile
  let x ← get
  set { x with breakpoints := x.breakpoints ++ [constraint] }
  return x.breakpoints.length

/-- Removes the breakpoint at an index and answers with it. -/
def removeBreakpoint (index : Nat) (_ : Profile) : Op σ String := do
  let x ← get
  let removed ← Op.ofOption (.notFound (.breakpoint index)) x.breakpoints[index]?
  set { x with breakpoints := x.breakpoints.eraseIdx index }
  return removed

/-- Removes all breakpoints. -/
def clearBreakpoints (_ : Profile) : Op σ Unit :=
  Op.update fun x => { x with breakpoints := [] }

/-- The number in the label of a state: digits after a letter S. -/
def stateOfLabel? (label : String) : Option Nat :=
  match label.toList with
  | c :: digits =>
    if (c = 'S' || c = 's') && digits.all Char.isDigit then Text.readNat? digits else none
  | [] => none

/-- Follows a label: goes to the state it numbers, or forces the transition it names. -/
def activate [Solver σ] (label : String) (profile : Profile) : Op σ Unit := do
  match stateOfLabel? label with
  | some id => moveTo id profile
  | none =>
    Op.require (profile.kind.transition? label).isSome (.unknownTransition label)
    let _ ← force label profile.settings.forceLimit profile

end StateExplorer.Explore
