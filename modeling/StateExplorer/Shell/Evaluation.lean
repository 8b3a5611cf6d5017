import StateExplorer.Shell.Call
import StateExplorer.Shell.Reader.Command
import StateExplorer.Shell.Tool.Table

/-!
# Running scripts

Scripts hold scripts, texts hold scripts, and programs can be shells again; so every step here is
given an evaluator for what lies one level deeper, and there are only so many levels.
-/

namespace StateExplorer.Shell

open Run

/-! ## Loops -/

/-- How often a loop may turn. -/
def mostTurns : Nat := 200000

/-- What a turn of a loop says about the next one. -/
inductive Turn
  | again
  | done

/-- Runs a part of a turn: a leave that concerns this loop ends the turn or the loop. -/
def turnPart (part : Run Unit) : Run (Option Turn) := do
  match ← attempt part with
  | none => return none
  | some (.breaks n) => if n ≤ 1 then return some .done else throw (.breaks (n - 1))
  | some (.continues n) => if n ≤ 1 then return some .again else throw (.continues (n - 1))
  | some leave => throw leave

/-- Runs turns as long as they say so, at most so many. -/
def runTurns (turn : Run Turn) : (turns : Nat) → Run Unit
  | 0 => pure ()
  | turns + 1 => do
    match ← turn with
    | .again => runTurns turn turns
    | .done => pure ()

/-- Runs something inside a loop. -/
def inLoop (step : Run Unit) : Run Unit := do
  change fun s => { s with loops := s.loops + 1 }
  ensuring step (change fun s => { s with loops := s.loops - 1 })

/-- Runs a loop that depends on a condition. The status is that of the last turn of its body. -/
def Evaluator.loop (evaluator : Evaluator) (tested endsOnSuccess : Bool) (condition body : Script) :
    Run Unit := do
  let turn : StateT Nat Run Turn := do
    match ← liftM (turnPart (evaluator.script true condition)) with
    | some .done =>
      set (← liftM (do return (← shell).status : Run Nat))
      return .done
    | some .again => return .again
    | none =>
      let status := (← liftM shell).status
      if (status == 0) == endsOnSuccess then return .done
      else
        match ← liftM (turnPart (evaluator.script tested body)) with
        | some .done =>
          set (← liftM shell).status
          return .done
        | _ =>
          set (← liftM shell).status
          return .again
  let rec turns : (more : Nat) → (status : Nat) → Run Nat
    | 0, status => return status
    | more + 1, status => do
      match ← turn.run status with
      | (.again, status) => turns more status
      | (.done, status) => return status
  inLoop do
    setStatus (← turns mostTurns 0)

/-- Runs a body for each of some values of a name. -/
def Evaluator.each (evaluator : Evaluator) (tested : Bool) (name : String) (body : Script) :
    List String → Run Unit
  | [] => pure ()
  | item :: rest => do
    assign name item
    match ← turnPart (evaluator.script tested body) with
    | some .done => pure ()
    | _ => evaluator.each tested name body rest

/-! ## Choices -/

/-- Whether one of some patterns matches a text. -/
def Evaluator.matchesAny (evaluator : Evaluator) (text : String) : List Word → Run Bool
  | [] => return false
  | word :: rest => do
    let pattern ← evaluator.wordPattern word
    if Glob.isMatch (Glob.read pattern) text.toList then return true
    else evaluator.matchesAny text rest

/-- Runs the first case with a pattern that matches a text. -/
def Evaluator.choose (evaluator : Evaluator) (tested : Bool) (text : String) :
    List (List Word × Script) → Run Unit
  | [] => setStatus 0
  | (patterns, body) :: rest => do
    if ← evaluator.matchesAny text patterns then
      match body with
      | .nothing => setStatus 0
      | body => evaluator.script tested body
    else evaluator.choose tested text rest

/-! ## Pipes -/

/-- Runs commands, each of which reads what the one before it wrote, and gives the status of the last
one. -/
def Evaluator.pipe (evaluator : Evaluator) (tested : Bool) : (input : Option Nat) → List Script →
    Run Nat
  | _, [] => return 0
  | input, command :: rest => do
    let output ← if rest.isEmpty then pure none else do pure (some (← storeNew ""))
    let status ← evaluator.inForeground do
      match input with
      | some store =>
        let id ← openNew ⟨some store, 0, false, true, false, true, false⟩
        setStream 0 (some id)
      | none => pure ()
      match output with
      | some store =>
        let id ← openNew ⟨some store, 0, true, false, true, true, false⟩
        setStream 1 (some id)
      | none => pure ()
      evaluator.script tested command
    match input with
    | some store => modify fun w => w.changeStore store fun _ => ""
    | none => pure ()
    if rest.isEmpty then return status else evaluator.pipe tested output rest

/-- Starts a job. -/
def startJob (script : Script) : Run Unit := do
  let w ← get
  let id ← openNew ⟨none, 0, false, true, false, false, false⟩
  let process := w.processes
  let child := { w.shell with
    process := process
    waiting := w.shell.process :: w.shell.waiting
    traps := (w.shell.traps.filter fun (_, action) => action.isEmpty) ++ [("INT", ""), ("QUIT", "")]
    pending := []
    streams := (0, id) :: w.shell.streams.filter (·.1 != 0) }
  modify fun w => { w with
    processes := w.processes + 1
    jobs := w.jobs ++ [⟨process, w.shell.process, script, child, none, none⟩]
    shell := { w.shell with background := some process, status := 0 } }

/-! ## Scripts -/

/-- Ends a shell that ends at failures. -/
def checkFailure (tested : Bool) : Run Unit := do
  let s ← shell
  if !tested && s.status != 0 && s.options.contains 'e' then throw (.exit none)

/-- Runs a script by an evaluator for its parts. -/
def Evaluator.runScript (evaluator : Evaluator) (tested : Bool) (script : Script) : Run Unit := do
  if ← hasOption 'n' then return
  runActions (evaluator.text false)
  match script with
  | .nothing => pure ()
  | .call line assignments words redirections =>
    setStatus (← evaluator.call tested line assignments words redirections)
    checkFailure tested
  | .redirected line body redirections =>
    change fun s => { s with line := line }
    let leads ← evaluator.leads redirections
    match ← (try
        let kept ← redirect [] leads
        pure (some kept)
      catch leave =>
        match leave with
        | .error => pure none
        | leave => throw leave : Run (Option (List (Nat × Option Nat)))) with
    | none => setStatus 2
    | some kept => ensuring (evaluator.script tested body) (restoreStreams kept)
  | .pipe commands =>
    setStatus (← evaluator.pipe tested none commands)
    checkFailure tested
  | .background body =>
    startJob body
  | .both first second =>
    evaluator.script true first
    if (← shell).status == 0 then evaluator.script tested second
  | .either first second =>
    evaluator.script true first
    if (← shell).status != 0 then evaluator.script tested second
  | .sequence commands =>
    for command in commands do
      evaluator.script tested command
  | .negated body =>
    evaluator.script true body
    setStatus (if (← shell).status == 0 then 1 else 0)
  | .subshell line body redirections =>
    change fun s => { s with line := line }
    let leads ← evaluator.leads redirections
    let status ← evaluator.inForeground do
      let _ ← redirect [] leads
      evaluator.script tested body
    setStatus status
    checkFailure tested
  | .branch condition yes no =>
    evaluator.script true condition
    if (← shell).status == 0 then evaluator.script tested yes
    else
      match no with
      | .nothing => setStatus 0
      | no => evaluator.script tested no
  | .loop endsOnSuccess condition body => evaluator.loop tested endsOnSuccess condition body
  | .each line name words body =>
    change fun s => { s with line := line }
    let items ← evaluator.allFields words
    setStatus 0
    inLoop (evaluator.each tested name body items)
  | .choice line subject cases =>
    change fun s => { s with line := line }
    let text ← evaluator.wordText subject
    evaluator.choose tested text cases
  | .define name body =>
    change fun s => { s with
      functions := (name, ⟨body, s.texts⟩) :: s.functions.filter (·.1 != name)
      status := 0 }
  runActions (evaluator.text false)

/-- Runs the lines of a source one after another; the result tells whether any of them did
something. -/
def Evaluator.runLines (evaluator : Evaluator) (tested shows : Bool) :
    (more : Nat) → (ran : Bool) → Source → Run Bool
  | 0, ran, _ => return ran
  | more + 1, ran, source => do
    let aliases := (← shell).aliases
    match Line.read { source with aliases := aliases } with
    | .error fault =>
      if shows && (← hasOption 'v') then
        let lines := Bytes.endedLines (String.ofList source.rest)
        printError (String.join (lines.take (fault.line + 1 - source.line)))
      change fun s => { s with line := fault.line }
      fail fault.message
    | .ok none => return ran
    | .ok (some (line, rest)) =>
      if shows && (← hasOption 'v') then
        let size := source.rest.length - rest.rest.length
        printError (String.ofList (source.rest.take size))
      let texts := (← shell).texts
      change fun s => { s with texts := line.texts }
      ensuring (evaluator.script tested line.script) (change fun s => { s with texts := texts })
      let ran := ran || match line.script with
        | .nothing => false
        | _ => true
      evaluator.runLines tested shows more ran rest

/-- Runs a text as a script; a text without commands succeeds. -/
def Evaluator.runText (evaluator : Evaluator) (tested shows : Bool) (text : String) : Run Unit := do
  let ran ← evaluator.runLines tested shows (text.length + 2) false (Source.ofText text)
  if !ran then setStatus 0

/-! ## Shells as programs -/

/-- A shell that is started by another one: it knows only the names that are meant for programs. -/
def Shell.started (s : Shell) (name : String) (process : Nat) : Shell :=
  { s with
    name := name
    arguments := []
    bindings := [("IFS", ⟨some " \t\n", false, false⟩), ("OPTIND", ⟨some "1", false, false⟩),
        ("PPID", ⟨some (toString (s.waiting.headD 0)), false, false⟩), ("PS1", ⟨some "# ", false, false⟩),
        ("PS2", ⟨some "> ", false, false⟩), ("PS4", ⟨some "+ ", false, false⟩)] ++
      (s.bindings.filter fun (name, b) => b.exported && b.value.isSome &&
          ! ["IFS", "OPTIND", "PPID", "PS1", "PS2", "PS4"].contains name).map fun (name, b) =>
        (name, { b with readOnly := false })
    functions := []
    aliases := []
    status := 0
    innerStatus := 0
    line := 0
    builtin := none
    options := []
    traps := s.traps.filter fun (_, action) => action.isEmpty
    pending := []
    texts := []
    loops := 0
    locals := []
    process := process
    leader := process
    background := none
    optionIndex := 1
    optionOffset := none }

/-- The options of a shell that is started: whether it is given a script, whether it reads one from
its input, and what is left of the arguments. -/
structure StartOptions where
  given : Bool
  rest : List String

/-- Sets the options in the letters of one argument of a shell that is started. -/
def startLetters (on : Bool) : List Char → StartOptions → Run StartOptions
  | [], o => return o
  | 'c' :: more, o => startLetters on more { o with given := true }
  | 'o' :: more, o => do
    Builtin.setNamed o.rest.head? on
    startLetters on more { o with rest := o.rest.tail }
  | 'l' :: more, o => startLetters on more o
  | c :: more, o => do
    Builtin.setLetter c on
    startLetters on more o

/-- Sets the options of a shell that is started, at most so many arguments of them. -/
def startOptions : (more : Nat) → StartOptions → Run StartOptions
  | 0, o => return o
  | more + 1, o => do
    match o.rest with
    | [] => return o
    | argument :: rest =>
      match argument.toList with
      | ['-'] => return { o with rest := rest }
      | ['-', '-'] => return { o with rest := rest }
      | '-' :: letters =>
        startOptions more (← startLetters true letters { o with rest := rest })
      | '+' :: letters =>
        startOptions more (← startLetters false letters { o with rest := rest })
      | _ => return o

/-- Runs as a shell that was started with arguments. -/
def Evaluator.beShell (evaluator : Evaluator) (arguments : List String) : Run Unit := do
  let o ← startOptions (arguments.length + 1) ⟨false, arguments⟩
  if o.given then
    match o.rest with
    | [] => fail "-c requires an argument"
    | text :: rest =>
      match rest with
      | name :: arguments => change fun s => { s with name := name, arguments := arguments }
      | [] => pure ()
      change fun s => { s with line := 1 }
      evaluator.runText false false text
  else
    match o.rest, ← hasOption 's' with
    | path :: arguments, false =>
      match ← entryAt path with
      | some .directory =>
        change fun s => { s with name := path, arguments := arguments }
      | _ =>
        match ← fileText? path with
        | none => cannotOpen path
        | some text =>
          change fun s => { s with name := path, arguments := arguments, line := 1 }
          evaluator.runText false true text
    | arguments, _ =>
      change fun s => { s with
        arguments := arguments
        options := if s.options.contains 's' then s.options else 's' :: s.options
        line := 1 }
      evaluator.runText false true (← readInput)

/-- The words that start the interpreter that the first line of a file names, before the words that
the file was started with. -/
def interpreterOf? (text : String) : Option (List String) :=
  if Bytes.startsWith text "#!" then
    let line := String.ofList ((text.toList.drop 2).takeWhile (· != '\n'))
    match Bytes.words line with
    | [] => none
    | [path] => some [path]
    | path :: rest => some [path, " ".intercalate rest]
  else none

/-- Runs a program in a process of its own. -/
def Evaluator.startProgram (evaluator : Evaluator) (program : Program) (words : List String) :
    Run (Nat × Option Nat) := do
  let name := words.headD ""
  let asShell (name : String) (step : Run Unit) : Run (Nat × Option Nat) := evaluator.inChild do
    change fun s => s.started name s.process
    step
  match program with
  | .known tool =>
    if ["sh", "dash", "bash"].contains tool then asShell name (evaluator.beShell words.tail)
    else
      match tool? tool with
      | some run => evaluator.inChild do setStatus (← run evaluator name words.tail)
      | none => return (0, none)
  | .script path text =>
    match interpreterOf? text with
    | some interpreter =>
      match ← findProgram (interpreter.headD "") with
      | .found _ (.known tool) =>
        evaluator.start (.known tool) (interpreter ++ path :: words.tail)
      | _ =>
        warn (name ++ ": not found")
        return (127, none)
    | none => asShell name do
      change fun s => { s with arguments := words.tail, line := 1 }
      evaluator.runText false true text

/-- An evaluator for scripts of so many levels. -/
def evaluator : (depth : Nat) → Evaluator
  | 0 =>
    ⟨fun _ _ => throw (.exit (some 2)), fun _ _ => throw (.exit (some 2)),
      fun _ _ => return (2, none)⟩
  | depth + 1 =>
    let inner := evaluator depth
    ⟨inner.runScript, fun tested => inner.runText tested false, inner.startProgram⟩

end StateExplorer.Shell
