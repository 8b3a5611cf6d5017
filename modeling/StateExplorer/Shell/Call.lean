import StateExplorer.Shell.Builtin.Table
import StateExplorer.Shell.Redirecting

/-!
# Running calls

A call is run in this order: its words are expanded, its streams are redirected, its assignments are
made, and then a builtin command, a function or a program is run. Most of what the call changed for
itself is taken back when it has ended.
-/

namespace StateExplorer.Shell

open Run

/-! ## Words -/

/-- The words after the options that stand between `command` and the name of a command; nothing where
there is no such name, or where an option asks for something else. -/
def afterCommand : List String → Option (List String)
  | [] => none
  | word :: rest =>
    match word.toList with
    | ['-', '-'] => if rest.isEmpty then none else some rest
    | '-' :: c :: letters => if (c :: letters).all (· == 'p') then afterCommand rest else none
    | _ => some (word :: rest)

/-- What a call runs: whether functions are passed over, whether the first builtin command on the way
is a special one, and the words that are left. -/
structure Resolved where
  words : List String
  noFunctions : Bool
  special : Option Bool

/-- Leaves `command` behind, at most so often. -/
def resolve (isFunction : String → Bool) : (more : Nat) → Resolved → Resolved
  | 0, r => r
  | more + 1, r =>
    match r.words with
    | name :: rest =>
      if isFunction name && !r.noFunctions then r
      else
        match builtin? name with
        | none => r
        | some builtin =>
          let r := { r with special := r.special.or (some builtin.special) }
          if name == "command" then
            match afterCommand rest with
            | some words => resolve isFunction more { r with words := words, noFunctions := true }
            | none => r
          else r
    | [] => r

/-- Whether words that follow others may give names values without being split. -/
def takesAssignments (isFunction : String → Bool) (words : List String) : Bool :=
  match words with
  | [] => false
  | _ =>
    let r := resolve isFunction words.length ⟨words, false, none⟩
    match r.words with
    | name :: _ =>
      !(isFunction name && !r.noFunctions) && (builtin? name).any (·.assigning)
    | [] => false

/-- The fields of the words of a call. -/
def Evaluator.callFields (evaluator : Evaluator) (isFunction : String → Bool) :
    (before : List String) → List Word → Run (List String)
  | before, [] => return before
  | before, word :: rest => do
    let assigns := takesAssignments isFunction before && (assignment? word).isSome
    let fields ←
      match if assigns then assignment? word else none with
      | some (name, value) => do pure [name ++ "=" ++ (← evaluator.valueText value)]
      | none => evaluator.fields word
    evaluator.callFields isFunction (before ++ fields) rest

/-! ## Assignments -/

/-- Makes the assignments of a call, and gives their texts and what is to be given back to names after
the call. A call that keeps them gives nothing back. -/
def Evaluator.makeAssignments (evaluator : Evaluator) (keeps exports : Bool) :
    List Word → Run (List String × List (String × Option Binding))
  | [] => return ([], [])
  | word :: rest => do
    match assignment? word with
    | none => evaluator.makeAssignments keeps exports rest
    | some (name, value) =>
      let text ← evaluator.valueText value
      let old ← binding? name
      assign name text
      if exports || !keeps then
        setBinding name ((← binding? name).map fun b => { b with exported := true })
      let (texts, kept) ← evaluator.makeAssignments keeps exports rest
      return ((name ++ "=" ++ text) :: texts, if keeps then kept else kept ++ [(name, old)])

/-- Gives names back what they had. -/
def restoreBindings (kept : List (String × Option Binding)) : Run Unit := do
  for (name, binding) in kept do
    setBinding name binding

/-! ## Running -/

/-- Runs a function. -/
def Evaluator.callFunction (evaluator : Evaluator) (tested : Bool) (function : Function)
    (arguments : List String) : Run Nat := do
  let outer ← shell
  change fun s => { s with
    arguments := arguments
    optionIndex := 1
    optionOffset := none
    loops := 0
    texts := function.texts
    locals := [] :: s.locals }
  let leave ← attempt (evaluator.script tested function.body)
  let locals := (← shell).locals.headD []
  restoreBindings locals
  change fun s => { s with
    arguments := outer.arguments
    optionIndex := outer.optionIndex
    optionOffset := outer.optionOffset
    loops := outer.loops
    texts := outer.texts
    locals := outer.locals }
  match leave with
  | none => return (← shell).status
  | some (.returns (some status)) => return status
  | some (.returns none) => return (← shell).status
  | some leave => throw leave

/-- Runs a builtin command; an error ends only the command unless it is a special one. -/
def Evaluator.callBuiltin (evaluator : Evaluator) (tested special : Bool) (name : String)
    (builtin : Builtin) (arguments : List String) : Run Nat := do
  let old := (← shell).builtin
  change fun s => { s with builtin := some name }
  let status ← (try
      let status ← builtin.run evaluator tested arguments
      pure (Except.ok status)
    catch leave => pure (Except.error leave) : Run (Except Leave Nat))
  change fun s => { s with builtin := old }
  match status with
  | .ok status => return status
  | .error .error => if special then throw .error else return 2
  | .error leave => throw leave

/-- Runs a program and waits for it; what cannot be run is told. -/
def Evaluator.callProgram (evaluator : Evaluator) (words : List String) : Run Nat := do
  let name := words.headD ""
  match ← findProgram name with
  | .found _ program =>
    let (status, signal) ← evaluator.start program words
    match signal.bind signalText? with
    | some text => printError (text ++ "\n")
    | none => pure ()
    return status
  | .forbidden =>
    warn (name ++ ": Permission denied")
    return if name.toList.contains '/' then 126 else 127
  | .missing =>
    warn (name ++ ": not found")
    return 127

/-- Puts a program in the place of the shell. -/
def Evaluator.replace (evaluator : Evaluator) (words : List String) : Run Nat := do
  let name := words.headD ""
  match ← findProgram name with
  | .found _ program =>
    let process := (← shell).process
    let (status, signal) ← evaluator.start program words
    change fun s => { s with traps := [] }
    match signal with
    | some signal => throw (.killed process signal)
    | none => throw (.exit (some status))
  | .forbidden =>
    warn (name ++ ": Permission denied")
    throw (.exit (some 126))
  | .missing =>
    warn (name ++ ": not found")
    throw (.exit (some 127))

/-- Runs the words of a call. -/
def Evaluator.callWords (evaluator : Evaluator) (tested : Bool) (resolved : Resolved) : Run Nat := do
  match resolved.words with
  | [] => return (← shell).innerStatus
  | name :: arguments =>
    let s ← shell
    match if resolved.noFunctions then none else s.functions.lookup name with
    | some function => evaluator.callFunction tested function arguments
    | none =>
      match builtin? name with
      | some builtin =>
        let special := resolved.special == some true
        if name == "exec" && !arguments.isEmpty then
          let words := if arguments.head? == some "--" then arguments.tail else arguments
          evaluator.callBuiltin tested special name
            ⟨true, false, fun evaluator _ words => evaluator.replace words⟩ words
        else evaluator.callBuiltin tested special name builtin arguments
      | none => evaluator.callProgram resolved.words

/-- Runs a call and gives its status. -/
def Evaluator.call (evaluator : Evaluator) (tested : Bool) (line : Nat)
    (assignments words : List Word) (redirections : List Redirection) : Run Nat := do
  change fun s => { s with line := line, innerStatus := 0 }
  let functions := (← shell).functions
  let isFunction (name : String) : Bool := functions.any (·.1 == name)
  let fields ← evaluator.callFields isFunction [] words
  let resolved := resolve isFunction fields.length ⟨fields, false, none⟩
  let special := resolved.special == some true
  let runsExec := resolved.words.head? == some "exec" && !(isFunction "exec")
  let errorStream := (← shell).streams.lookup 2
  let leads ← evaluator.leads redirections
  match ← (try
      let kept ← redirect [] leads
      pure (some kept)
    catch leave =>
      match leave with
      | .error => if special then throw leave else pure none
      | leave => throw leave : Run (Option (List (Nat × Option Nat)))) with
  | none => return 2
  | some kept =>
    let keepsStreams := runsExec
    let giveBack (bindings : List (String × Option Binding)) : Run Unit := do
      restoreBindings bindings
      if !keepsStreams then restoreStreams kept
    let keepsNames := fields.isEmpty || special
    let result ← (try
        let (texts, bindings) ← evaluator.makeAssignments keepsNames
          (runsExec && 1 < resolved.words.length) assignments
        if (← hasOption 'x') && !(texts.isEmpty && fields.isEmpty) then
          match errorStream with
          | some id =>
            let text := (← value? "PS4").getD ""
            let start ← match Word.ofText text with
              | .ok word => evaluator.linesText word
              | .error _ => pure text
            let _ ← writeOpen id (start ++ " ".intercalate (texts ++ fields) ++ "\n")
          | none => pure ()
        let result ← (try
            let status ← evaluator.callWords tested resolved
            pure (Except.ok status)
          catch leave => pure (Except.error leave) : Run (Except Leave Nat))
        giveBack bindings
        pure result
      catch leave =>
        giveBack []
        pure (Except.error leave) : Run (Except Leave Nat))
    match result with
    | .ok status => return status
    | .error leave => throw leave

end StateExplorer.Shell
