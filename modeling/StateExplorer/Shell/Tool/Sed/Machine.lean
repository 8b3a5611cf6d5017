import StateExplorer.Shell.Tool.Sed.Script
import StateExplorer.Shell.Tool.Ends

/-!
# Scripts at work on lines

A script is run for each line of the input. The line at work stands in a space of its own, which the
commands change and which is printed when they are done; another space keeps what has to be held from
line to line.
-/

namespace StateExplorer.Shell.Sed

open Run Tool

/-- A text at work, with whether the line that it came from was ended. -/
structure Space where
  text : String
  ended : Bool

/-- A line of the input with the file it comes from, and whether it is the last one of its kind. -/
structure Line where
  text : String
  ended : Bool
  path : String
  isLast : Bool

/-- What is printed after the line at work: a text, a file, or a line of a file. -/
inductive Addition
  | text (text : String)
  | file (path : String)
  | line (path : String)

/-- Where a range of lines stands: it has not started, it goes on to a line or an end that is looked
for, or it is over for good. -/
inductive Stage
  | before
  | upTo (number : Nat)
  | inside
  | over
deriving DecidableEq

/-- How a script is run. -/
structure Mode where
  quiet : Bool
  mark : Char
  width : Nat

/-- What a run of a script keeps. `lacksEnd` tells that the last line printed was not ended, and
`lacking` holds the files for which the same is true. -/
structure Machine where
  space : Space
  held : Space
  number : Nat
  path : String
  isLast : Bool
  input : List Line
  output : List String
  lacksEnd : Bool
  lacking : List String
  queue : List Addition
  replaced : Bool
  stages : List (Nat × Stage)
  pattern : Option Pattern
  readers : List (String × List String)

/-- A step of a script. -/
abbrev Step (α : Type) := StateT Machine (ExceptT String Run) α

/-- A step of the shell as one of a script. -/
def byShell {α : Type} (step : Run α) : Step α := fun m => ExceptT.lift do
  let a ← step
  return (a, m)

/-- How the run of the commands for a line ends: at their end, with another line without printing,
at their start without another line, or altogether. -/
inductive Ending
  | done
  | next
  | again
  | quit (status : Nat)

/-! ## Output -/

/-- Prints a text after the end that the last line may lack. -/
def put (text : String) : Step Unit :=
  modify fun m => { m with
    output := text :: (if m.lacksEnd then "\n" :: m.output else m.output)
    lacksEnd := false }

/-- Prints a line. -/
def putLine (mode : Mode) (space : Space) : Step Unit := do
  put space.text
  if space.ended then put (String.singleton mode.mark)
  else modify fun m => { m with lacksEnd := true }

/-- Adds a line to a file, or prints it on a stream, after the end that the line before it there may
lack. -/
def writeTo (mode : Mode) (path : String) (space : Space) : Step Unit := do
  let mark := String.singleton mode.mark
  let before := if (← get).lacking.contains path then mark else ""
  let text := before ++ space.text ++ if space.ended then mark else ""
  modify fun m => { m with
    lacking := if space.ended then m.lacking.filter (· != path) else path :: m.lacking }
  if path == "/dev/stdout" then modify fun m => { m with output := text :: m.output }
  else if path == "/dev/stderr" then byShell (printError text)
  else
    byShell do
      let old := (← fileText? path).getD ""
      let _ ← writeFile path (old ++ text)

/-- The next line of a file, with its end. -/
def nextOf (path : String) : Step (Option String) := do
  let m ← get
  let lines ← match m.readers.lookup path with
    | some lines => pure lines
    | none => byShell do
      match ← (if path == "/dev/stdin" then Tool.input else pathText path) with
      | .ok text => return pieces false '\n' text
      | .error _ => return []
  set { m with readers := (path, lines.tail) :: m.readers.filter (·.1 != path) }
  return lines.head?

/-- Prints what was asked for after the line at work. -/
def putQueue : Step Unit := do
  let queue := (← get).queue
  modify fun m => { m with queue := [] }
  for addition in queue do
    match addition with
    | .text text => put text
    | .file path =>
      match ← byShell (if path == "/dev/stdin" then Tool.input else pathText path) with
      | .ok text => put text
      | .error _ => put ""
    | .line path =>
      match ← nextOf path with
      | some text => put text
      | none => pure ()

/-- Asks for something to be printed after the line at work. -/
def queue (addition : Addition) : Step Unit :=
  modify fun m => { m with queue := m.queue ++ [addition] }

/-- Whether there is another line. -/
def hasMore : Step Bool := return !(← get).input.isEmpty

/-- Takes the next line, after the text at work if it is added to it; fails where there is none. -/
def takeLine (mode : Mode) (adds : Bool) : Step Bool := do
  putQueue
  modify fun m => { m with replaced := false }
  match (← get).input with
  | [] => return false
  | line :: rest =>
    modify fun m => { m with
      space := ⟨if adds then m.space.text ++ String.singleton mode.mark ++ line.text
        else line.text, line.ended⟩
      number := m.number + 1
      path := line.path
      isLast := line.isLast
      input := rest }
    return true

/-! ## Conditions -/

/-- The pattern that is meant, which is then the one used last. -/
def patternOf (pattern : Option Pattern) : Step Pattern := do
  match pattern with
  | some p =>
    modify fun m => { m with pattern := some p }
    return p
  | none =>
    match (← get).pattern with
    | some p => return p
    | none => throw "no previous regular expression"

/-- A text as something that a pattern is matched with. -/
def subjectOf (pattern : Pattern) (text : String) : Regex.Subject :=
  ⟨text.toList.toArray, pattern.folds, pattern.manyLines, true⟩

/-- Whether the line at work matches a pattern. -/
def matchesPattern (pattern : Option Pattern) : Step Bool := do
  let p ← patternOf pattern
  return (p.regex.find? (subjectOf p (← get).space.text) 0).isSome

/-- Whether an address is that of the line at work. -/
def isAt (address : Address) : Step Bool := do
  let m ← get
  match address with
  | .line n => return m.number == n
  | .last => return m.isLast
  | .step first 0 => return m.number == first
  | .step first (each + 1) =>
    return first ≤ m.number && (m.number - first) % (each + 1) == 0
  | .regex p => matchesPattern p

/-- The stage of the range of a command. -/
def stageOf (place : Nat) (condition : Condition) : Step Stage := do
  match (← get).stages.lookup place, condition.first with
  | some stage, _ => return stage
  | none, some (.line 0) => return .inside
  | none, _ => return .before

/-- Sets the stage of the range of a command. -/
def setStage (place : Nat) (stage : Stage) : Step Unit :=
  modify fun m => { m with stages := (place, stage) :: m.stages.filter (·.1 != place) }

/-- Whether a range that has not started starts with the line at work. A range from a numbered line on
also starts with a later one, unless its end is passed by then. -/
def startsRange (place : Nat) (first : Address) (stop : RangeEnd) : Step Bool := do
  let number := (← get).number
  let starts ← match first with
    | .line n => pure (decide (n ≤ number))
    | first => isAt first
  if !starts then return false
  let upTo (n : Nat) : Step Unit := do
    if number < n then setStage place (.upTo n)
    else
      match first with
      | .line _ => setStage place .over
      | _ => setStage place .before
  match stop with
  | .line n =>
    upTo n
    return match first with
      | .line start => decide (number ≤ max start n)
      | _ => true
  | .more count => upTo (number + count)
  | .multiple 0 => upTo number
  | .multiple (n + 1) => upTo ((number / (n + 1) + 1) * (n + 1))
  | .last => setStage place .inside
  | .regex _ => setStage place .inside
  return true

/-- Whether the line at work is in a range of lines. -/
def isInRange (place : Nat) (condition : Condition) (first : Address) (stop : RangeEnd) :
    Step Bool := do
  let ends : Stage := match first with
    | .line _ => .over
    | _ => .before
  match ← stageOf place condition with
  | .over => return false
  | .before => startsRange place first stop
  | .upTo n =>
    let number := (← get).number
    if n ≤ number then setStage place ends
    return match stop with
      | .line _ => decide (number ≤ n)
      | _ => true
  | .inside =>
    let isEnd ← match stop with
      | .regex p => matchesPattern p
      | _ => do pure (← get).isLast
    if isEnd then setStage place ends
    return true

/-- Whether a command is run for the line at work. -/
def holds (place : Nat) (condition : Condition) : Step Bool := do
  let inside ← match condition.first, condition.last with
    | none, _ => pure true
    | some first, none => isAt first
    | some first, some stop => isInRange place condition first stop
  return inside != condition.negated

/-! ## Substitutions -/

/-- How the letters of a replacement are changed: all of them and the next one. -/
structure Letters where
  all : Option Char
  next : Option Char

/-- A text with its letters changed, and the change that is left. -/
def Letters.apply (letters : Letters) (text : List Char) : List Char × Letters :=
  let one (mark : Option Char) (c : Char) : Char :=
    match mark with
    | some 'U' | some 'u' => c.toUpper
    | some 'L' | some 'l' => c.toLower
    | _ => c
  match text with
  | [] => ([], letters)
  | c :: rest =>
    let first := match letters.next with
      | some mark => one (some mark) c
      | none => one letters.all c
    (first :: rest.map (one letters.all), { letters with next := none })

/-- The text that takes the place of a match. -/
def expand (s : Regex.Subject) (found : Regex.Match) (parts : List Part) : List Char :=
  let between (first last : Nat) : List Char := (s.text.extract first last).toList
  let step (acc : List (List Char) × Letters) (part : Part) : List (List Char) × Letters :=
    let (out, letters) := acc
    match part with
    | .letters 'E' => (out, ⟨none, none⟩)
    | .letters mark =>
      (out, if mark == 'U' || mark == 'L' then { letters with all := some mark }
        else { letters with next := some mark })
    | .text text =>
      let (text, letters) := letters.apply text
      (text :: out, letters)
    | .group number =>
      let text := if number == 0 then between found.first found.last
        else match found.groups.lookup number with
          | some (first, last) => between first last
          | none => []
      let (text, letters) := letters.apply text
      (text :: out, letters)
  ((parts.foldl step ([], ⟨none, none⟩)).1.reverse).flatten

/-- The pieces of a text, last one first, in which matches from an offset on are replaced, and whether
any was. `count` tells how many matches there were before, `after` where the last one ended. -/
def replaceFrom (s : Regex.Subject) (regex : Regex) (substitution : Substitution) :
    (more : Nat) → (offset count : Nat) → (after : Option Nat) → List (List Char) →
    List (List Char) × Bool
  | 0, _, _, _, out => (out, false)
  | more + 1, offset, count, after, out =>
    let between (first last : Nat) : List Char := (s.text.extract first last).toList
    match regex.find? s offset with
    | none => (between offset s.text.size :: out, false)
    | some found =>
      let out := between offset found.first :: out
      let isEmpty := found.first == found.last
      let step := if isEmpty then between found.first (found.first + 1) else []
      let next := if isEmpty then found.last + 1 else found.last
      if isEmpty && after == some found.first then
        if s.text.size ≤ found.first then (out, false)
        else replaceFrom s regex substitution more next count none (step :: out)
      else if count + 1 < substitution.from_ then
        let out := step :: between found.first found.last :: out
        if s.text.size < next then (out, false)
        else replaceFrom s regex substitution more next (count + 1) (some found.last) out
      else
        let out := step :: expand s found substitution.parts :: out
        if substitution.all && next ≤ s.text.size then
          let (out, _) :=
            replaceFrom s regex substitution more next (count + 1) (some found.last) out
          (out, true)
        else (between next s.text.size :: out, true)

/-- Carries out a substitution. -/
def substitute (mode : Mode) (substitution : Substitution) : Step Unit := do
  let p ← patternOf substitution.pattern
  let m ← get
  let s := subjectOf p m.space.text
  let (pieces, replaced) := replaceFrom s p.regex substitution (2 * s.text.size + 2) 0 0 none []
  if replaced then
    let space : Space := { m.space with text := String.ofList pieces.reverse.flatten }
    modify fun m => { m with space := space, replaced := true }
    if substitution.prints then putLine mode space
    match substitution.path with
    | some path => writeTo mode path space
    | none => pure ()

/-! ## Commands -/

/-- A character as it is shown without doubt. -/
def shownChar (c : Char) : String :=
  match c with
  | '\\' => "\\\\"
  | '\x07' => "\\a"
  | '\x08' => "\\b"
  | '\x0c' => "\\f"
  | '\n' => "\\n"
  | '\r' => "\\r"
  | '\t' => "\\t"
  | '\x0b' => "\\v"
  | c =>
    if 32 ≤ c.toNat && c.toNat < 127 then String.singleton c
    else
      let digits := Nat.toDigits 8 c.toNat
      "\\" ++ String.ofList (List.replicate (3 - digits.length) '0' ++ digits)

/-- A text shown without doubt, in lines of at most a width; a width of nothing means that lines are
never broken. -/
def shownText (width : Nat) (text : String) : String :=
  let step (acc : String × Nat) (c : Char) : String × Nat :=
    let (out, column) := acc
    let shown := shownChar c
    if 0 < width && width ≤ column + shown.length then (out ++ "\\\n" ++ shown, shown.length)
    else (out ++ shown, column + shown.length)
  (text.toList.foldl step ("", 0)).1 ++ "$\n"

/-- The first line of a text, and the rest if there is a mark between them. -/
def firstLine (mark : Char) (text : String) : String × Option String :=
  let (first, rest) := text.toList.span (· != mark)
  (String.ofList first, match rest with
    | _ :: rest => some (String.ofList rest)
    | [] => none)

/-- The first line of the text at work. -/
def firstOf (mode : Mode) (space : Space) : Space :=
  let (first, rest) := firstLine mode.mark space.text
  ⟨first, rest.isSome || space.ended⟩

/-- What comes after a command: the next one, one at another place, or the end of the run. -/
inductive After
  | goesOn
  | jumps (place : Nat)
  | ends (ending : Ending)

/-- The place after the end of a block that starts before a place. -/
def afterBlock (script : Array Command) : (more : Nat) → (place depth : Nat) → Nat
  | 0, place, _ => place
  | more + 1, place, depth =>
    match (script[place]?).map Command.action with
    | none => place
    | some .open_ => afterBlock script more (place + 1) (depth + 1)
    | some .close => if depth == 0 then place + 1 else afterBlock script more (place + 1) (depth - 1)
    | some _ => afterBlock script more (place + 1) depth

/-- The place of a label; without a name it is the end of the script. -/
def labelPlace (script : Array Command) (name : String) : Nat :=
  if name.isEmpty then script.size
  else (script.findIdx? fun c => match c.action with
    | .label other => other == name
    | _ => false).getD script.size

/-- Runs a command that needs nothing but its letter. -/
def plain (mode : Mode) (letter : Char) : Step After := do
  let m ← get
  let mark := String.singleton mode.mark
  let setSpace (space : Space) : Step Unit := modify fun m => { m with space := space }
  match letter with
  | '=' => put (toString m.number ++ "\n")
  | 'd' => return .ends .next
  | 'D' =>
    match firstLine mode.mark m.space.text with
    | (_, some rest) =>
      setSpace { m.space with text := rest }
      return .ends .again
    | (_, none) => return .ends .next
  | 'F' => put (m.path ++ "\n")
  | 'g' => setSpace m.held
  | 'G' => setSpace ⟨m.space.text ++ mark ++ m.held.text, m.held.ended⟩
  | 'h' => modify fun m => { m with held := m.space }
  | 'H' =>
    modify fun m => { m with held := ⟨m.held.text ++ mark ++ m.space.text, m.space.ended⟩ }
  | 'x' => modify fun m => { m with held := m.space, space := m.held }
  | 'z' => setSpace { m.space with text := "" }
  | 'p' => putLine mode m.space
  | 'P' => putLine mode (firstOf mode m.space)
  | 'n' =>
    if !mode.quiet then putLine mode m.space
    if !(← takeLine mode false) then return .ends (.quit 0)
  | 'N' =>
    if !(← hasMore) then
      if !mode.quiet then putLine mode m.space
      putQueue
      return .ends (.quit 0)
    let _ ← takeLine mode true
  | _ => pure ()
  return .goesOn

/-- Runs a command whose addresses hold. -/
def perform (script : Array Command) (mode : Mode) (place : Nat) (command : Command) :
    Step After := do
  let m ← get
  match command.action with
  | .open_ | .close | .label _ => return .goesOn
  | .append text => queue (.text text)
  | .insert text => put text
  | .change text =>
    let inside := match m.stages.lookup place with
      | some (.upTo _) | some .inside => true
      | _ => false
    if command.condition.negated || !inside then put text
    return .ends .next
  | .branch name => return .jumps (labelPlace script name)
  | .branchIf name =>
    if m.replaced then
      set { m with replaced := false }
      return .jumps (labelPlace script name)
  | .branchUnless name =>
    set { m with replaced := false }
    if !m.replaced then return .jumps (labelPlace script name)
  | .quit prints status =>
    if prints then
      if !mode.quiet then putLine mode m.space
      put ""
      putQueue
    return .ends (.quit status)
  | .readFile path => queue (.file path)
  | .readLine path => queue (.line path)
  | .writeFile path => writeTo mode path m.space
  | .writeFirst path => writeTo mode path (firstOf mode m.space)
  | .substitute substitution => substitute mode substitution
  | .translate table =>
    set { m with space := { m.space with
      text := m.space.text.map fun c => (table.lookup c).getD c } }
  | .show_ width => put (shownText (width.getD mode.width) m.space.text)
  | .plain letter => return ← plain mode letter
  return .goesOn

/-- Runs the commands from a place on, at most so many steps. -/
def cycle (script : Array Command) (mode : Mode) : (more : Nat) → (place : Nat) → Step Ending
  | 0, _ => return .done
  | more + 1, place => do
    match script[place]? with
    | none =>
      if !mode.quiet then putLine mode (← get).space
      return .done
    | some command =>
      if ← holds place command.condition then
        match ← perform script mode place command with
        | .goesOn => cycle script mode more (place + 1)
        | .jumps place => cycle script mode more place
        | .ends ending => return ending
      else
        match command.action with
        | .open_ => cycle script mode more (afterBlock script (script.size + 1) (place + 1) 0)
        | _ => cycle script mode more (place + 1)

/-- How many commands are run for one line at most. -/
def cycleLimit : Nat := 200000

/-- Runs a script for line after line, at most so many times; `again` keeps the line at work. -/
def cycles (script : Array Command) (mode : Mode) : (more : Nat) → (again : Bool) → Step Nat
  | 0, _ => return 0
  | more + 1, again => do
    let goesOn ←
      if again then do
        putQueue
        pure true
      else takeLine mode false
    if goesOn then
      match ← cycle script mode cycleLimit 0 with
      | .done | .next => cycles script mode more false
      | .again => cycles script mode more true
      | .quit status => return status
    else return 0

end StateExplorer.Shell.Sed
