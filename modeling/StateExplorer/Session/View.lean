import StateExplorer.Session.Basic
import StateExplorer.Store.Drawing

/-!
# What a session shows

Views read a session and never change it: the current state, any stored state, the history,
differences between states, drawings, and the walk as a trace.
-/

namespace StateExplorer.Session

variable {σ : Type}

/-- The vocabulary in effect. -/
def vocabulary (session : Session σ) : Vocabulary :=
  session.exploration.vocabulary session.profile.settings

/-- The stop under the cursor. -/
def current (session : Session σ) : Except SessionError Stop :=
  match session.exploration.walk.current? with
  | some stop => .ok stop
  | none => .error .notInitialized

/-- The current state. -/
def display (session : Session σ) : Except SessionError String :=
  session.current.map fun stop => stop.state.display stop.id

/-- A stored state. -/
def displayNode (session : Session σ) (id : Nat) : Except SessionError String :=
  match session.exploration.store.node id with
  | .ok node => .ok (node.state.display id)
  | .error e => .error (.ofStore e)

/-- The current state and up to `n` before it; in a replay, as differences. -/
def history (session : Session σ) (n : Nat) : String :=
  session.exploration.walk.history n session.exploration.replaying

/-- The history of the usual length. -/
def usualHistory (session : Session σ) : String :=
  session.history session.profile.settings.historyLength

/-- The values of one field in the current state. -/
def displayField (session : Session σ) (field : String) : Except SessionError String :=
  session.current.map fun stop => stop.state.displayField field

/-- What changed from one stop to another. -/
def diff (before after : Stop) : String :=
  State.displayDiff before.id before.state after.id after.state

/-- What changed since the last committed state. -/
def diffFromCommitted (session : Session σ) : Except SessionError String := do
  let stop ← session.current
  let walk := session.exploration.walk
  match walk.stops[walk.cursor - walk.provisional]? with
  | some before => return diff before stop
  | none => throw .notInitialized

/-- What changed since the state so many steps back. -/
def diffFromEarlier (session : Session σ) (steps : Nat) : Except SessionError String := do
  let stop ← session.current
  let walk := session.exploration.walk
  match if steps ≤ walk.cursor then walk.stops[walk.cursor - steps]? else none with
  | some before => return diff before stop
  | none => throw (.notFound (.earlier steps))

/-- The statements that draw the stored states with the current one highlighted. -/
def drawing (session : Session σ) : List String :=
  session.exploration.store.drawing (session.exploration.walk.current?.map (·.id))
    ⟨some session.vocabulary.stableField, session.vocabulary.stableTrueValue⟩

/-- The drawing of the stored states. -/
def drawingDocument (session : Session σ) : String :=
  Drawing.document session.drawing

/-- The canonical names of the control states that are active in the current state. -/
def activeControlStates (session : Session σ) : List String :=
  let values := session.exploration.walk.current?.bind fun stop =>
    stop.state.values? session.vocabulary.controlStateField
  (values.getD []).map Statechart.canonical

/-- The drawing of the control states with the active ones highlighted. -/
def chartDrawing (session : Session σ) : Except SessionError String :=
  match session.profile.kind.drawing? session.activeControlStates with
  | some drawing => .ok drawing
  | none => .error (.unsupported .drawing)

/-- The numbers of the stored states with the same content as a numbered one. -/
def equivalents (session : Session σ) (id : Nat) : Except SessionError (List Nat) :=
  (session.exploration.store.equivalents id).mapError .ofStore

/-- The walk as a trace. -/
def exportTrace (session : Session σ) : Except SessionError Document :=
  if session.exploration.walk.stops.isEmpty then .error .notInitialized
  else
    let sig := session.vocabulary.stateSig
    let schema := session.exploration.schema
    let chain := session.exploration.walk.stops.map (·.state)
    .ok ⟨sig, schema, [Instance.ofChain sig schema chain]⟩

end StateExplorer.Session
