import StateExplorer.Model.Basic
import StateExplorer.Query.Basic
import StateExplorer.Session.Alternatives
import StateExplorer.Session.Error
import StateExplorer.Session.Settings
import StateExplorer.Solution.Chain
import StateExplorer.Solution.Scopes

/-!
# Sessions

A session explores one model or replays one trace. What exploring may change is one value, the
`Exploration`; an operation `Op` takes it together with the solver, and gives a result or an error
together with both after it. What an operation wrote before it failed stays written, unless it is
told to restore the store, the walk and the alternatives.
-/

namespace StateExplorer

/-- What exploring may change: the vocabulary the model brought along, the model, its fields and
signatures, the states found, the walk among them, the alternatives on show, the breakpoints, and
whether a trace is replayed. -/
structure Exploration where
  ownVocabulary : Option Vocabulary
  model : Option Model
  schema : Schema
  scopes : NameMap (List String)
  store : Store
  walk : Walk
  alternatives : Alternatives
  breakpoints : List String
  replaying : Bool
deriving DecidableEq

/-- An exploration before anything is loaded. -/
def Exploration.empty : Exploration where
  ownVocabulary := none
  model := none
  schema := []
  scopes := .empty
  store := .empty none
  walk := .empty
  alternatives := .empty
  breakpoints := []
  replaying := false

/-- What an exploration goes by: the settings and the kind of the model. -/
structure Profile where
  settings : Settings
  kind : ModelKind

/-- A session over a solver. -/
structure Session (σ : Type) where
  solver : σ
  profile : Profile
  diffMode : Bool
  exploration : Exploration

/-- An operation on an exploration that may ask a solver and may fail. It gives the exploration and
the solver after it in either case. -/
def Op (σ α : Type) : Type :=
  Exploration → σ → Except SessionError α × Exploration × σ

namespace Op

variable {σ α β : Type}

/-- Carries out an operation. -/
def run (op : Op σ α) (x : Exploration) (solver : σ) : Except SessionError α × Exploration × σ :=
  op x solver

instance : Monad (Op σ) where
  pure a := fun x solver => (.ok a, x, solver)
  bind op next := fun x solver =>
    match op x solver with
    | (.ok a, x, solver) => next a x solver
    | (.error e, x, solver) => (.error e, x, solver)

instance : MonadStateOf Exploration (Op σ) where
  get := fun x solver => (.ok x, x, solver)
  set x := fun _ solver => (.ok (), x, solver)
  modifyGet f := fun x solver => (.ok (f x).1, (f x).2, solver)

/-- Replaces the exploration by what becomes of it. -/
def update (f : Exploration → Exploration) : Op σ Unit :=
  fun x solver => (.ok (), f x, solver)

/-- Fails with an error. -/
def fail (e : SessionError) : Op σ α :=
  fun x solver => (.error e, x, solver)

/-- Fails with an error unless a condition holds. -/
def require (condition : Bool) (e : SessionError) : Op σ Unit :=
  if condition then pure () else fail e

/-- A result, or the error it is reported as. -/
def ofExcept {ε : Type} (report : ε → SessionError) : Except ε α → Op σ α
  | .ok a => pure a
  | .error e => fail (report e)

/-- A value that must be there, or an error. -/
def ofOption (missing : SessionError) : Option α → Op σ α
  | some a => pure a
  | none => fail missing

/-- Asks the solver and answers with its first solution. -/
def ask [Solver σ] (query : String) : Op σ Solution :=
  fun x solver =>
    match Solver.run solver query with
    | (.ok document, solver) => (.ok document.first, x, solver)
    | (.error e, solver) => (.error (.ofSolver e), x, solver)

/-- Has the solver compile a query. -/
def check [Solver σ] (query : String) : Op σ Unit :=
  fun x solver =>
    match Solver.compile solver query with
    | (.ok _, solver) => (.ok (), x, solver)
    | (.error e, solver) => (.error (.ofSolver e), x, solver)

/-- Carries out an operation and, if it fails, puts the store, the walk and the alternatives back. -/
def restoring (op : Op σ α) : Op σ α :=
  fun x solver =>
    match op x solver with
    | (.ok a, y, solver) => (.ok a, y, solver)
    | (.error e, y, solver) =>
      (.error e, { y with store := x.store, walk := x.walk, alternatives := x.alternatives }, solver)

end Op

namespace Session

variable {σ α : Type}

/-- A session with nothing loaded. -/
def start (solver : σ) (profile : Profile) : Session σ :=
  ⟨solver, profile, profile.settings.diffMode, .empty⟩

/-- A session whose kind of model follows from the settings. -/
def ofSettings (solver : σ) (settings : Settings) : Except ChartFault (Session σ) :=
  (ModelKind.ofSettings settings).map fun kind => start solver ⟨settings, kind⟩

/-- Runs an operation, and keeps what it leaves of the exploration and the solver. -/
def run (session : Session σ) (op : Profile → Op σ α) : Except SessionError α × Session σ :=
  let (result, exploration, solver) :=
    (op session.profile).run session.exploration session.solver
  (result, { session with solver := solver, exploration := exploration })

/-- Whether a model or a trace was loaded. -/
def isReady (session : Session σ) : Bool :=
  !session.exploration.walk.stops.isEmpty

end Session

namespace Exploration

/-- The vocabulary in effect: the model's own one, if it brought one along. -/
def vocabulary (x : Exploration) (settings : Settings) : Vocabulary :=
  x.ownVocabulary.getD settings.vocabulary

end Exploration

/-- The stored states of the given numbers as stops of a walk. -/
def Store.stops (store : Store) (ids : List Nat) : Except StoreError (List Stop) :=
  ids.mapM fun id => (store.node id).map fun node => ⟨id, node.state⟩

end StateExplorer
