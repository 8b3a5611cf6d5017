import StateExplorer.Proofs.Session.Operation
import StateExplorer.Session.Command
import StateExplorer.Solver.Explicit

/-!
# A solver that never changes

A solver over a transition system answers without changing, so no operation changes it, and every
command of a session is answered by the solver that the session started with. The property goes
through the parts of an operation by instance search.
-/

namespace StateExplorer

/-- A query is answered with the problem it is read as, by a solver that stays as it is. -/
theorem ExplicitSolver.run_eq (solver : ExplicitSolver) (text : String) :
    Solver.run solver text =
      ((solver.read text).mapError ReadError.toSolverError |>.map solver.answer, solver) := by
  simp only [Solver.run, Solver.compile, Solver.solve]
  cases solver.read text <;> rfl

namespace Op

/-- An operation that does not change the solver. -/
class Steady {α : Type} (op : Op ExplicitSolver α) : Prop where
  /-- The solver after the operation is the one before it. -/
  solver_eq : ∀ x solver, (op.run x solver).2.2 = solver

section

variable {α β : Type}

instance (a : α) : Steady (pure a) := ⟨fun _ _ => rfl⟩

instance : Steady (get : Op ExplicitSolver Exploration) := ⟨fun _ _ => rfl⟩

instance (x : Exploration) : Steady (set x : Op ExplicitSolver PUnit) := ⟨fun _ _ => rfl⟩

instance (f : Exploration → Exploration) : Steady (update f : Op ExplicitSolver Unit) :=
  ⟨fun _ _ => rfl⟩

instance (e : SessionError) : Steady (fail e : Op ExplicitSolver α) := ⟨fun _ _ => rfl⟩

instance (condition : Bool) (e : SessionError) : Steady (require condition e) :=
  ⟨fun x solver => by rw [run_require]⟩

instance {ε : Type} (report : ε → SessionError) (result : Except ε α) :
    Steady (ofExcept report result) := ⟨fun x solver => by rw [run_ofExcept]⟩

instance (missing : SessionError) (value : Option α) : Steady (ofOption missing value) :=
  ⟨fun x solver => by rw [run_ofOption]⟩

instance (query : String) : Steady (ask query) := ⟨fun x solver => by
  rw [run_ask, ExplicitSolver.run_eq]
  split <;> simp_all⟩

instance (query : String) : Steady (check query) := ⟨fun x solver => by
  rw [run_check]
  simp only [Solver.compile]
  split <;> simp_all⟩

/-- An operation is steady if its parts are. -/
instance (op : Op ExplicitSolver α) (next : α → Op ExplicitSolver β) [hop : Steady op]
    [hnext : ∀ a, Steady (next a)] : Steady (op >>= next) := ⟨fun x solver => by
  have hsolver := hop.solver_eq x solver
  rw [run_bind]
  match hrun : op.run x solver with
  | (.ok a, y, t) =>
    obtain rfl : t = solver := by simpa [hrun] using hsolver
    exact (hnext a).solver_eq y t
  | (.error e, y, t) => simpa [hrun] using hsolver⟩

/-- A mapped operation is steady. -/
instance (f : α → β) (op : Op ExplicitSolver α) [hop : Steady op] : Steady (f <$> op) :=
  inferInstanceAs (Steady (op >>= fun a => pure (f a)))

/-- A choice is steady if both ways are. -/
instance (c : Prop) [Decidable c] (yes no : Op ExplicitSolver α) [Steady yes] [Steady no] :
    Steady (if c then yes else no) := by
  split <;> infer_instance

/-- A restored operation is steady. -/
instance (op : Op ExplicitSolver α) [hop : Steady op] : Steady op.restoring := ⟨fun x solver => by
  have hsolver := hop.solver_eq x solver
  rw [run_restoring]
  match hrun : op.run x solver with
  | (.ok a, y, t) => simpa [hrun] using hsolver
  | (.error e, y, t) => simpa [hrun] using hsolver⟩

end

end Op

namespace Explore

open Op

instance : Steady requireReady := by
  unfold requireReady
  infer_instance

instance : Steady current := by
  unfold current
  infer_instance

instance {α : Type} (write : Store → Except StoreError α × Store) : Steady (writeStore write) := by
  unfold writeStore
  infer_instance

instance (profile : Profile) (solution : Solution) : Steady (chainOf profile solution) := by
  unfold chainOf
  infer_instance

instance (id length : Nat) : Steady (recordRoute id length) := by
  unfold recordRoute
  infer_instance

instance (id : Nat) : Steady (recordOnWalk id) := by
  unfold recordOnWalk
  infer_instance

instance (ids : List Nat) : Steady (recordRoutesTo ids) := by
  induction ids with
  | nil => exact inferInstanceAs (Steady (pure ()))
  | cons id rest ih =>
    unfold recordRoutesTo
    infer_instance

instance (ids : List Nat) : Steady (recordRoutes ids) := by
  unfold recordRoutes
  have hcursor (walk : Walk) : Steady (match walk.current? with
      | none => pure ()
      | some stop => recordRoute stop.id (walk.cursor + 1)) := by
    split <;> infer_instance
  infer_instance

instance (parent : Option Nat) (chain : List State) (keep : Walk → Walk)
    (turn : Alternatives → Except NoAlternative Alternatives) :
    Steady (attach parent chain keep turn) := by
  unfold attach
  infer_instance

instance (model : Model) (vocabulary : Vocabulary) : Steady (askInitial model vocabulary) := by
  unfold askInitial
  infer_instance

instance (model : Model) (profile : Profile) : Steady (resumption model profile) := by
  unfold resumption
  infer_instance

instance (goal : Goal) (bound : Nat) (profile : Profile) : Steady (solve goal bound profile) := by
  unfold solve
  infer_instance

instance (solution : Solution) (profile : Profile) : Steady (extend solution profile) := by
  unfold extend
  have hnext (chain : List State) : Steady (match chain with
      | _ :: next :: rest => do
        let anchor ← current
        attach (some anchor.id) (next :: rest) Walk.commit fun _ => .ok (.only solution)
      | _ => fail (.badSolution .noTransition)) := by
    split <;> infer_instance
  infer_instance

instance (steps : Nat) : Steady (advance steps) := by
  unfold advance
  infer_instance

instance (steps : Nat) (constraints : List String) (profile : Profile) :
    Steady (step steps constraints profile) := by
  unfold step
  infer_instance

instance (goal : Goal) (missing : NoChain) (profile : Profile) (bound left : Nat) :
    Steady (searchBounds goal missing profile bound left) := by
  induction left generalizing bound with
  | zero => exact inferInstanceAs (Steady (fail _))
  | succ left ih =>
    unfold searchBounds
    infer_instance

instance (name : String) (limit : Nat) (profile : Profile) : Steady (force name limit profile) := by
  unfold force
  infer_instance

instance (reverse : Bool) (profile : Profile) : Steady (alternate reverse profile) := by
  unfold alternate
  have hnext (solution : Solution) (chain : List State) : Steady (match chain with
      | [] => fail (.badSolution .noState)
      | [only] => attach none [only] Walk.rollback (turned solution reverse)
      | _ :: next :: rest => do
        let anchor ← ofOption (.badSolution .noAnchor) (anchor? (← get).walk)
        attach (some anchor.id) (next :: rest) Walk.rollback (turned solution reverse)) := by
    split <;> infer_instance
  infer_instance

instance (profile : Profile) : Steady (reset profile) := by
  unfold reset
  have hnext (solution : Solution) (chain : List State) : Steady (match chain with
      | [] => fail (.badSolution .noState)
      | first :: _ =>
        update fun x => { x with
          walk := Walk.empty.extend [⟨1, first⟩]
          alternatives := .only solution }) := by
    split <;> infer_instance
  infer_instance

instance (wanted : State) (profile : Profile) (turns : Nat) :
    Steady (seek wanted profile turns) := by
  induction turns with
  | zero => exact inferInstanceAs (Steady (pure ()))
  | succ turns ih =>
    unfold seek
    infer_instance

instance (steps : Nat) (profile : Profile) : Steady (findAgain steps profile) := by
  unfold findAgain
  infer_instance

instance (target : Stop) (profile : Profile) : Steady (settle target profile) := by
  unfold settle
  infer_instance

instance (steps : Nat) (profile : Profile) : Steady (retrace steps profile) := by
  unfold retrace
  infer_instance

instance (steps : Nat) (profile : Profile) : Steady (reverseStep steps profile) := by
  unfold reverseStep
  infer_instance

instance (id : Nat) : Steady (seekStop id) := by
  unfold seekStop
  infer_instance

instance (id : Nat) (profile : Profile) : Steady (moveTo id profile) := by
  unfold moveTo
  infer_instance

instance (constraint : String) (profile : Profile) : Steady (validate constraint profile) := by
  unfold validate
  infer_instance

instance (label : String) (profile : Profile) : Steady (activate label profile) := by
  unfold activate
  split <;> infer_instance

instance (text : String) (profile : Profile) : Steady (loadModel text profile) := by
  unfold loadModel
  infer_instance

instance (trace : Document) (profile : Profile) : Steady (loadTrace trace profile) := by
  unfold loadTrace
  infer_instance

instance (limit : Nat) (profile : Profile) : Steady (runUntil limit profile) := by
  unfold runUntil
  infer_instance

instance (constraint : String) (profile : Profile) : Steady (addBreakpoint constraint profile) := by
  unfold addBreakpoint
  infer_instance

instance (index : Nat) (profile : Profile) : Steady (removeBreakpoint index profile) := by
  unfold removeBreakpoint
  infer_instance

instance (profile : Profile) : Steady (clearBreakpoints profile) := by
  unfold clearBreakpoints
  infer_instance

end Explore

namespace Session

/-- A steady operation leaves the solver of a session. -/
theorem run_solver {α : Type} (session : Session ExplicitSolver)
    (op : Profile → Op ExplicitSolver α) [hop : Op.Steady (op session.profile)] :
    (session.run op).2.solver = session.solver :=
  hop.solver_eq session.exploration session.solver

/-- No command changes the solver of a session. -/
theorem exec_solver (session : Session ExplicitSolver) (command : Command) :
    (session.exec command).2.solver = session.solver := by
  cases command <;> first | rfl | exact run_solver session _

end Session

end StateExplorer
