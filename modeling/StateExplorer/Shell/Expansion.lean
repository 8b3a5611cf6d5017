import StateExplorer.Shell.Fields
import StateExplorer.Shell.Program
import StateExplorer.Shell.Signal

/-!
# Expanding words

The pieces of a word are put together from left to right: parameters, the output of scripts and the
values of integer expressions take their places. What was not quoted is then split into fields, and
fields with patterns become the paths that they match. Scripts inside words are run by an evaluator
that is given.
-/

namespace StateExplorer.Shell

open Run

/-- Runs scripts, texts of scripts, and programs with their words, the first of which is the name. A
script is tested where its failure does not end a shell that ends at failures. A program gives its
status and the signal that stopped it. -/
structure Evaluator where
  script : (tested : Bool) → Script → Run Unit
  text : (tested : Bool) → String → Run Unit
  start : Program → List String → Run (Nat × Option Nat)

/-! ## Shells of their own -/

namespace Run

/-- Runs a step and gives how it was left, if it was left early. -/
def attempt (step : Run Unit) : Run (Option Leave) :=
  try
    step
    return none
  catch leave => return some leave

/-- Runs a step of a shell up to its end, so that its status is that of the shell, unless a signal
stops it; `bare` is the status where the step ends the shell without naming one. -/
def settle (bare : Option Nat) (step : Run Unit) : Run (Option (Nat × Nat)) := do
  match ← attempt step with
  | some (.killed process signal) => return some (process, signal)
  | some (.exit (some status)) =>
    setStatus status
    return none
  | some (.returns (some status)) =>
    setStatus status
    return none
  | some (.exit none) =>
    match bare with
    | some status => setStatus status
    | none => pure ()
    return none
  | some .error =>
    setStatus 2
    return none
  | _ => return none

end Run

/-- Runs a step and what a shell does at its end. -/
def Evaluator.toEnd (evaluator : Evaluator) (step : Run Unit) : Run (Option (Nat × Nat)) := do
  match ← settle none step with
  | some killed => return some killed
  | none =>
    match (← shell).traps.lookup "EXIT" with
    | none => return none
    | some action =>
      let status := (← shell).status
      change fun s => { s with
        traps := s.traps.filter (·.1 != "EXIT")
        builtin := none
        loops := 0 }
      settle (some status) do
        evaluator.text false action
        setStatus status

/-- Runs a job that was not run yet. -/
def Evaluator.runJob (evaluator : Evaluator) (job : Job) : Run Unit := do
  let outer ← shell
  modify fun w => { w with shell := job.shell }
  let killed ← evaluator.toEnd (evaluator.script false job.script)
  let status := (← shell).status
  let (status, signal) := match killed with
    | some (process, signal) =>
      if process == job.process then (128 + signal, some signal) else (status, none)
    | none => (status, none)
  modify fun w => { w with
    shell := outer
    jobs := w.jobs.map fun j =>
      if j.process == job.process then { j with status := some status, signal := signal } else j }

/-- Runs the jobs of a process that were not run yet, and forgets them if they are `lost`. -/
def Evaluator.runJobs (evaluator : Evaluator) (parent : Nat) (lost : Bool) : Run Unit := do
  for job in (← get).jobs do
    if job.parent == parent then
      match (← get).jobs.find? (·.process == job.process) with
      | some job => if job.status.isNone then evaluator.runJob job
      | none => pure ()
  if lost then modify fun w => { w with jobs := w.jobs.filter (·.parent != parent) }

/-- Runs a step in a shell of its own, which starts as a copy of this one and keeps what it changes
to itself, and gives its status and the signal that stopped it. -/
def Evaluator.inChild (evaluator : Evaluator) (step : Run Unit) : Run (Nat × Option Nat) := do
  let outer ← shell
  let process := (← get).processes
  modify fun w => { w with
    processes := w.processes + 1
    shell := { w.shell with
      process := process
      waiting := outer.process :: outer.waiting
      traps := w.shell.traps.filter fun (_, action) => action.isEmpty
      pending := [] } }
  let killed ← evaluator.toEnd step
  let status := (← shell).status % 256
  modify fun w => { w with shell := outer }
  evaluator.runJobs process true
  receiveSignals
  match killed with
  | none => return (status, none)
  | some (target, signal) =>
    if target == process then return (128 + signal, some signal)
    else throw (.killed target signal)

/-- Runs a step in a shell of its own and waits for it: a signal that stopped it is told. -/
def Evaluator.inForeground (evaluator : Evaluator) (step : Run Unit) : Run Nat := do
  let (status, signal) ← evaluator.inChild step
  match signal.bind signalText? with
  | some text => printError (text ++ "\n")
  | none => pure ()
  return status

/-- The output of a step that runs in a shell of its own, without the line feeds at its end. -/
def Evaluator.outputOf (evaluator : Evaluator) (step : Run Unit) : Run String := do
  let store ← storeNew ""
  let id ← openNew ⟨some store, 0, true, false, true, true, false⟩
  let status ← evaluator.inForeground do
    setStream 1 (some id)
    step
  change fun s => { s with innerStatus := status }
  let text := ((← get).stores[store]?).getD ""
  modify fun w => w.changeStore store fun _ => ""
  return Bytes.chomp (String.ofList (text.toList.filter (· != '\x00')))

/-! ## Parameters -/

/-- The letters of options in the order in which a script sees them. -/
def optionLetters : List Char :=
  ['u', 'b', 'a', 'C', 'E', 'V', 'v', 'x', 's', 'n', 'm', 'i', 'I', 'f', 'e']

/-- All arguments in one text. -/
def argumentsText (splits quoted isStar : Bool) : Run String := do
  let s ← shell
  let marks ← value? "IFS"
  let ends := String.singleton argumentEnd
  let between :=
    if splits && quoted && !isStar then ends
    else if splits && !quoted then (if marks.isSome then ends else " ")
    else match marks with
      | some marks => Bytes.take 1 marks
      | none => " "
  return between.intercalate s.arguments

/-- The text of a parameter, if it is set. -/
def parameterText? (splits quoted : Bool) (name : String) : Run (Option String) := do
  let s ← shell
  match name with
  | "$" => return some (toString (← shell).leader)
  | "?" => return some (toString s.status)
  | "#" => return some (toString s.arguments.length)
  | "!" => return s.background.map toString
  | "-" => return some (String.ofList (optionLetters.filter s.options.contains))
  | "@" => return some (← argumentsText splits quoted false)
  | "*" => return some (← argumentsText splits quoted true)
  | "0" => return some s.name
  | _ =>
    match Bytes.nat? name with
    | some 0 => return some s.name
    | some n => return s.arguments[n - 1]?
    | none => value? name

/-- The value of an integer expression, whose names take the values it gives them. -/
def arithmeticValue (text : String) : Run String := do
  let s ← shell
  let value (name : String) : Option String := (s.bindings.lookup name).bind Binding.value
  let isReadOnly (name : String) : Bool := (s.bindings.lookup name).any Binding.readOnly
  match Arithmetic.evaluate value isReadOnly text with
  | .ok (n, changes) =>
    for (name, value) in changes do
      assign name (toString value)
    return toString n
  | .error (.form what) => fail ("arithmetic expression: " ++ what ++ ": \"" ++ text ++ "\"")
  | .error (.notANumber text) => fail ("Illegal number: " ++ text)
  | .error (.readOnly name) => fail (name ++ ": is read only")

/-- The cells without a part at one of their ends that matches. Arguments end inside them: a part at
the front stays within the first one, and a part at the back reaches up to the end of one. -/
def trimCells (fromStart longest : Bool) (pattern : List PatternChar) (text : String) : String :=
  let ends (c : Char) : Bool := c == argumentEnd
  let items := Glob.read pattern
  if fromStart then
    let (front, back) := text.toList.span (!ends ·)
    String.ofList (Glob.trim true longest pattern front ++ back)
  else if !text.toList.any ends then
    String.ofList (Glob.trim false longest pattern text.toList)
  else
    let sizes := List.range (text.length + 1)
    match (if longest then sizes else sizes.reverse).find? fun n =>
        Glob.isMatch items ((text.toList.drop n).takeWhile (!ends ·)) with
    | some n => Bytes.take n text
    | none => text

/-! ## Homes -/

/-- The home that a text starts with the name of, and the rest of the text; in a value a colon ends
the name too. The name is whole only if something ends it or nothing follows. -/
def home? (inValue isLast : Bool) (text : List Char) : Run (Option (String × List Char)) := do
  match text with
  | '~' :: rest =>
    let ends (c : Char) : Bool := c == '/' || (inValue && c == ':')
    let (name, rest) := rest.span (!ends ·)
    if rest.isEmpty && !isLast then return none
    else
      let home ← match String.ofList name with
        | "" => value? "HOME"
        | "root" => pure (some "/root")
        | _ => pure none
      return home.map fun home => (home, rest)
  | _ => return none

/-- The cells of open characters; a tilde is looked for at the start where `atStart` is set, and in a
value after each colon. -/
def openCells (inValue isLast : Bool) : (more : Nat) → (atStart : Bool) → List Char →
    Run (List Cell)
  | 0, _, _ => return []
  | _, _, [] => return []
  | more + 1, atStart, c :: rest => do
    match ← (if atStart then home? inValue isLast (c :: rest) else pure none) with
    | some (home, rest) =>
      return cellsOf true home ++ (← openCells inValue isLast more false rest)
    | none =>
      return .char c false :: (← openCells inValue isLast more (inValue && c == ':') rest)

/-! ## Words -/

/-- How a word is expanded: whether it is split later, whether it gives a value to a name, and
whether it stands inside a parameter. -/
structure Manner where
  splits : Bool
  inValue : Bool
  inside : Bool

/-- The stretch of a parameter's text. -/
def parameterStretch (quoted : Bool) (name text : String) : Run Stretch := do
  let s ← shell
  if quoted then
    if name == "@" && !s.arguments.isEmpty then
      return ⟨.atEnds, text.toList.map fun c => .char c true⟩
    else return ⟨.never, cellsOf true text⟩
  else return ⟨.atMarks, cellsOf false text⟩

/-- Whether a piece is quoted. -/
def Piece.isQuoted : Piece → Bool
  | .literal _ quoted => quoted
  | .parameter _ _ quoted => quoted
  | .output _ quoted => quoted
  | .arithmetic _ quoted => quoted

/-- Fails where unset parameters are not allowed. -/
def checkSet (name : String) : Run Unit := do
  if ← hasOption 'u' then fail (name ++ ": parameter not set")

mutual

/-- The stretches of a piece. -/
def pieceStretches (evaluator : Evaluator) (manner : Manner) : Piece → Run (List Stretch)
  | .literal text quoted =>
    return [⟨if manner.inside && !quoted then .atMarks else .never, cellsOf quoted text⟩]
  | .parameter name use quoted => useStretches evaluator manner quoted name use
  | .output script quoted => do
    let text ← evaluator.outputOf (evaluator.script false script)
    return [⟨if quoted then .never else .atMarks, cellsOf quoted text⟩]
  | .arithmetic expression quoted => do
    let text := textIn (← wordStretches evaluator ⟨false, false, false⟩ false none expression)
    return [⟨if quoted then .never else .atMarks, cellsOf quoted (← arithmeticValue text)⟩]

/-- The stretches of what a word asks of a parameter. -/
def useStretches (evaluator : Evaluator) (manner : Manner) (quoted : Bool) (name : String) :
    Use → Run (List Stretch)
  | .value => do
    match ← parameterText? manner.splits quoted name with
    | some text => return [← parameterStretch quoted name text]
    | none =>
      checkSet name
      return if quoted then [⟨.never, [.quotes]⟩] else []
  | .size => do
    let text? ← parameterText? manner.splits quoted name
    if text?.isNone then checkSet name
    let size := toString (text?.getD "").length
    return [⟨if quoted then .never else .atMarks, cellsOf quoted size⟩]
  | .fallback evenEmpty word => do
    match (← parameterText? manner.splits quoted name).filter fun t => !(evenEmpty && t.isEmpty) with
    | some text => return [← parameterStretch quoted name text]
    | none =>
      let inside ← wordStretches evaluator { manner with inside := true } true none word
      return if quoted then ⟨.never, [.quotes]⟩ :: inside else inside
  | .instead evenEmpty word => do
    match (← parameterText? manner.splits quoted name).filter fun t => !(evenEmpty && t.isEmpty) with
    | some _ =>
      let inside ← wordStretches evaluator { manner with inside := true } true none word
      return if quoted then ⟨.never, [.quotes]⟩ :: inside else inside
    | none => return if quoted then [⟨.never, [.quotes]⟩] else []
  | .assign evenEmpty word => do
    match (← parameterText? manner.splits quoted name).filter fun t => !(evenEmpty && t.isEmpty) with
    | some text => return [← parameterStretch quoted name text]
    | none =>
      let text := textIn (← wordStretches evaluator ⟨false, false, false⟩ true none word)
      if !isName name then fail (name ++ ": bad variable name")
      assign name text
      return [← parameterStretch quoted name text]
  | .demand evenEmpty word => do
    match (← parameterText? manner.splits quoted name).filter fun t => !(evenEmpty && t.isEmpty) with
    | some text => return [← parameterStretch quoted name text]
    | none =>
      if word.isEmpty then
        fail (name ++ ": parameter not set" ++ if evenEmpty then " or null" else "")
      else
        let text := textIn (← wordStretches evaluator ⟨false, false, false⟩ true none word)
        fail (name ++ ": " ++ text)
  | .trim fromStart longest pattern => do
    match ← parameterText? manner.splits quoted name with
    | some text =>
      let cells := cellsIn (← wordStretches evaluator ⟨false, false, false⟩ true none pattern)
      return [← parameterStretch quoted name (trimCells fromStart longest (patternOf cells) text)]
    | none =>
      checkSet name
      return if quoted then [⟨.never, [.quotes]⟩] else []
  | .unknown => fail "Bad substitution"

/-- The stretches of a word. A tilde counts at its start where `tilde` is set; `before` tells whether
the piece before was quoted. -/
def wordStretches (evaluator : Evaluator) (manner : Manner) (tilde : Bool)
    (before : Option Bool) : Word → Run (List Stretch)
  | [] => return []
  | .literal text false :: rest => do
    let splitting := if manner.inside then Splitting.atMarks else .never
    let cells ← openCells manner.inValue rest.isEmpty (text.length + 1) (tilde && before.isNone)
      text.toList
    return ⟨splitting, cells⟩ :: (← wordStretches evaluator manner tilde (some false) rest)
  | .parameter "@" .value true :: rest => do
    let alone := before != some true && (rest.head?.map Piece.isQuoted) != some true
    let first ← useStretches evaluator manner true "@" .value
    let none := (← shell).arguments.isEmpty && alone
    let others ← wordStretches evaluator manner tilde (some true) rest
    return if none then others else first ++ others
  | piece :: rest => do
    let first ← pieceStretches evaluator manner piece
    return first ++ (← wordStretches evaluator manner tilde (some piece.isQuoted) rest)

end

/-- The text of a word that is not split. -/
def Evaluator.wordText (evaluator : Evaluator) (word : Word) : Run String :=
  return textIn (← wordStretches evaluator ⟨false, false, false⟩ true none word)

/-- The text of a word that gives a value to a name. -/
def Evaluator.valueText (evaluator : Evaluator) (word : Word) : Run String :=
  return textIn (← wordStretches evaluator ⟨false, true, false⟩ true none word)

/-- The text that was given in the lines below a command. -/
def Evaluator.linesText (evaluator : Evaluator) (word : Word) : Run String :=
  return textIn (← wordStretches evaluator ⟨false, false, false⟩ false none word)

/-- The pattern that a word is. -/
def Evaluator.wordPattern (evaluator : Evaluator) (word : Word) : Run (List PatternChar) :=
  return patternOf (cellsIn (← wordStretches evaluator ⟨false, false, false⟩ true none word))

/-! ## Paths -/

/-- The parts of a pattern between slashes. -/
def patternParts (pattern : List PatternChar) : List (List PatternChar) :=
  let step (p : PatternChar) (acc : List PatternChar × List (List PatternChar)) :=
    if p.char == '/' then ([], acc.1 :: acc.2) else (p :: acc.1, acc.2)
  let (first, rest) := pattern.foldr step ([], [])
  first :: rest

/-- The characters that a pattern without stars and the like stands for. -/
def unescaped : List PatternChar → List Char
  | ⟨'\\', false⟩ :: q :: rest => q.char :: unescaped rest
  | p :: rest => p.char :: unescaped rest
  | [] => []

/-- The paths that match the parts of a pattern after a path. -/
def pathsFrom (start : String) : List (List PatternChar) → Run (List String)
  | [] => return []
  | part :: rest => do
    let ending := if rest.isEmpty then "" else "/"
    let here ←
      if !Glob.isPattern part then pure [String.ofList (unescaped part)]
      else do
        let directory := if start.isEmpty then "." else start
        match ← entryAt directory with
        | some .directory =>
          let items := Glob.read part
          let hidden := (part.head?.map PatternChar.char) == some '.'
          let names := (← get).names (← fullPath directory)
          let names := if hidden then "." :: ".." :: names else names
          pure (names.filter fun name =>
            (hidden || name.toList.head? != some '.') && Glob.isMatch items name.toList)
        | _ => pure []
    let paths := here.map fun name => start ++ name ++ ending
    if rest.isEmpty then paths.filterM fun path => return (← entryAt path).isSome
    else return (← paths.mapM fun path => pathsFrom path rest).flatten

/-- The paths that a field stands for: those it matches, or the field itself. -/
def fieldPaths (field : List Cell) : Run (List String) := do
  let pattern := patternOf field
  if !Glob.isPattern pattern || (← hasOption 'f') then return [textOf field]
  else
    match ← pathsFrom "" (patternParts pattern) with
    | [] => return [textOf field]
    | paths => return paths

/-- The fields of a word. -/
def Evaluator.fields (evaluator : Evaluator) (word : Word) : Run (List String) := do
  let stretches ← wordStretches evaluator ⟨true, false, false⟩ true none word
  let marks := (← value? "IFS").getD " \t\n"
  return (← (Fields.split marks none stretches).mapM fieldPaths).flatten

/-- The fields of words. -/
def Evaluator.allFields (evaluator : Evaluator) (words : List Word) : Run (List String) := do
  return (← words.mapM evaluator.fields).flatten

end StateExplorer.Shell
