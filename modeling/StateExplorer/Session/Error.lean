import StateExplorer.Solver.Basic
import StateExplorer.Statechart.Basic
import StateExplorer.Store.Basic
import StateExplorer.System.Basic
import StateExplorer.Walk

/-!
# Why a session refuses

Each error names its cause; `message?` is the wording. Errors of the solver, of a solution and of
the store become errors of the session by the conversions at the end.
-/

namespace StateExplorer

/-- What has no chain of states. -/
inductive NoChain
  | start
  | restart
  | step
  | breakpoint (limit : Nat)
  | transition (name : String) (limit : Nat)
deriving DecidableEq

/-- What was asked for and is not there. -/
inductive NotThere
  | stored (cause : StoreError)
  | breakpoint (index : Nat)
  | earlier (steps : Nat)
deriving DecidableEq

/-- Which alternative there is none of. -/
inductive NoAlternative
  | previous
  | active
  | next
deriving DecidableEq

/-- What cannot be made of a solution. -/
inductive BadSolution
  | reported (reason : String)
  | emptyTrace
  | noState
  | noTransition
  | noAnchor
  | emptyChain
deriving DecidableEq

/-- What a trace has no use for. -/
inductive NotInReplay
  | until
  | force
  | validation
deriving DecidableEq

/-- What only a statechart can do. -/
inductive NeedsChart
  | force
  | drawing
deriving DecidableEq

/-- Which bound must not be zero. -/
inductive ZeroBound
  | step
  | limit
  | reverseStep
deriving DecidableEq

/-- Why a session refused an operation. -/
inductive SessionError
  | io
  | compile (reason : String)
  | solve (reason : String)
  | unsatisfiable (cause : NoChain)
  | notFound (cause : NotThere)
  | exhausted (cause : NoAlternative)
  | badSolution (cause : BadSolution)
  | unreadableDocument
  | notInitialized
  | inReplay (cause : NotInReplay)
  | traceEnd
  | traceExhausted (cause : EndOfTrace)
  | unsupported (cause : NeedsChart)
  | unknownTransition (name : String)
  | invalidBound (cause : ZeroBound)
  | noBreakpoints
  | noRoute (id : Nat)
  | config (reason : String)
  | unreadableConfig
deriving DecidableEq

/-- The wording of a missing chain. -/
def NoChain.message : NoChain → String
  | .start => "no instance found, the initializer may be inconsistent"
  | .restart => "initializer has no instance"
  | .step => "transition constraint is unsatisfiable"
  | .breakpoint limit => "no breakpoint hit within " ++ toString limit ++ " steps"
  | .transition name limit => "unable to take " ++ name ++ " within " ++ toString limit ++ " steps"

/-- The wording of what is not there. -/
def NotThere.message : NotThere → String
  | .stored cause => cause.message
  | .breakpoint index => "breakpoint " ++ toString index
  | .earlier steps => "no state " ++ toString steps ++ " steps back"

/-- The wording of a missing alternative. -/
def NoAlternative.message : NoAlternative → String
  | .previous => "no previous alternative"
  | .active => "no active solution"
  | .next => "no more alternative paths"

/-- The wording of a bad solution. -/
def BadSolution.message : BadSolution → String
  | .reported reason => reason
  | .emptyTrace => "trace holds no instance"
  | .noState => "solution holds no state"
  | .noTransition => "solution holds no transition"
  | .noAnchor => "alternative has no anchor"
  | .emptyChain => StoreError.emptyChain.message

/-- What a trace has no use for, in words. -/
def NotInReplay.message : NotInReplay → String
  | .until => "until"
  | .force => "force"
  | .validation => "constraint validation"

/-- What only a statechart can do, in words. -/
def NeedsChart.message : NeedsChart → String
  | .force => "forcing a transition"
  | .drawing => "hierarchy rendering"

/-- The wording of a bound that must not be zero. -/
def ZeroBound.message : ZeroBound → String
  | .step => "step needs at least one transition"
  | .limit => "limit must be at least 1"
  | .reverseStep => "reverse step needs at least one step"

namespace SessionError

/-- The wording of an error, where there is one. -/
def message? : SessionError → Option String
  | .io => none
  | .compile reason => some ("compile error: " ++ reason)
  | .solve reason => some ("solver failure: " ++ reason)
  | .unsatisfiable cause => some ("unsatisfiable: " ++ cause.message)
  | .notFound cause => some ("not found: " ++ cause.message)
  | .exhausted cause => some cause.message
  | .badSolution cause => some ("internal decode error: " ++ cause.message)
  | .unreadableDocument => none
  | .notInitialized => some "no model or trace loaded"
  | .inReplay cause => some (cause.message ++ " is not available while replaying a trace")
  | .traceEnd => some "end of trace reached"
  | .traceExhausted cause => some cause.message
  | .unsupported cause => some (cause.message ++ " is not supported by this model")
  | .unknownTransition name => some ("unknown transition " ++ name)
  | .invalidBound cause => some ("invalid bound: " ++ cause.message)
  | .noBreakpoints => some "no breakpoints set"
  | .noRoute id => some ("state S" ++ toString id ++ " has no recorded route")
  | .config reason => some ("invalid configuration: " ++ reason)
  | .unreadableConfig => none

/-- An error of the solver as the session reports it. -/
def ofSolver : SolverError → SessionError
  | .io => .io
  | .compile reason => .compile reason
  | .solve reason => .solve reason
  | .noMoreAlternatives => .exhausted .next
  | .internalDecode reason => .badSolution (.reported reason)
  | .format reason => .badSolution (.reported reason)
  | .missingPredicate name => .compile (Predicate.LocateError.missing name).message
  | .unbalancedBlock name => .compile (Predicate.LocateError.unbalanced name).message
  | .config reason => .config reason
  | .unreadableConfig => .unreadableConfig
  | .unreadableDocument => .unreadableDocument

/-- A solution that cannot be read, as the session reports it. -/
def ofDecode (e : DecodeError) : SessionError :=
  .badSolution (.reported e.message)

/-- A refusal of the store as the session reports it. -/
def ofStore : StoreError → SessionError
  | .emptyChain => .badSolution .emptyChain
  | cause => .notFound (.stored cause)

/-- A fault of a statechart as the session reports it. -/
def ofChart (fault : ChartFault) : SessionError :=
  .config fault.message

end SessionError

end StateExplorer
