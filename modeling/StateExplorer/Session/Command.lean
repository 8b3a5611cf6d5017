import StateExplorer.Session.Explore

/-!
# Commands

Everything that can change a session is a command, and `Session.exec` is the one way to carry it
out, so a run of a session is a list of commands. Two commands change the settings and never fail;
all others are operations on the exploration.
-/

namespace StateExplorer

/-- What can be asked of a session. -/
inductive Command
  | loadModel (text : String)
  | loadTrace (trace : Document)
  | step (steps : Nat) (constraints : List String)
  | runUntil (limit : Nat)
  | force (transition : String) (limit : Nat)
  | alternate (reverse : Bool)
  | reverseStep (steps : Nat)
  | moveTo (id : Nat)
  | reset
  | activate (label : String)
  | validate (constraint : String)
  | addBreakpoint (constraint : String)
  | removeBreakpoint (index : Nat)
  | clearBreakpoints
  | setVocabulary (vocabulary : Vocabulary)
  | setDiffMode (on : Bool)
deriving DecidableEq

/-- What a command answers: nothing, the bound at which a goal was met, the index of a breakpoint,
or a breakpoint. -/
inductive Reply
  | done
  | bound (n : Nat)
  | index (n : Nat)
  | constraint (text : String)
deriving DecidableEq

namespace Session

variable {σ : Type} [Solver σ]

/-- Runs an operation that answers nothing. -/
def perform (session : Session σ) (op : Profile → Op σ Unit) :
    Except SessionError Reply × Session σ :=
  session.run fun profile => (fun _ => Reply.done) <$> op profile

/-- Carries out a command. -/
def exec (session : Session σ) : Command → Except SessionError Reply × Session σ
  | .loadModel text => session.perform (Explore.loadModel text)
  | .loadTrace trace => session.perform (Explore.loadTrace trace)
  | .step steps constraints => session.perform (Explore.step steps constraints)
  | .runUntil limit => session.run fun profile => Reply.bound <$> Explore.runUntil limit profile
  | .force transition limit =>
    session.run fun profile => Reply.bound <$> Explore.force transition limit profile
  | .alternate reverse => session.perform (Explore.alternate reverse)
  | .reverseStep steps => session.perform (Explore.reverseStep steps)
  | .moveTo id => session.perform (Explore.moveTo id)
  | .reset => session.perform Explore.reset
  | .activate label => session.perform (Explore.activate label)
  | .validate constraint => session.perform (Explore.validate constraint)
  | .addBreakpoint constraint =>
    session.run fun profile => Reply.index <$> Explore.addBreakpoint constraint profile
  | .removeBreakpoint index =>
    session.run fun profile => Reply.constraint <$> Explore.removeBreakpoint index profile
  | .clearBreakpoints => session.perform Explore.clearBreakpoints
  | .setVocabulary vocabulary =>
    (.ok .done, { session with
      profile := { session.profile with
        settings := { session.profile.settings with vocabulary := vocabulary } } })
  | .setDiffMode on => (.ok .done, { session with diffMode := on })

/-- The session after a run of commands, whether they fail or not. -/
def execAll (session : Session σ) (commands : List Command) : Session σ :=
  commands.foldl (fun session command => (session.exec command).2) session

/-- The model in a file is loaded, or the file cannot be. -/
def loadModelFile (session : Session σ) (file : File) : Except SessionError Reply × Session σ :=
  match file.text? with
  | some text => session.exec (.loadModel text)
  | none => (.error .io, session)

/-- The trace in a file is loaded, or the file cannot be. -/
def loadTraceFile (session : Session σ) (file : File) : Except SessionError Reply × Session σ :=
  match Document.load file with
  | .ok trace => session.exec (.loadTrace trace)
  | .error e => (.error (.ofSolver e), session)

end Session

end StateExplorer
