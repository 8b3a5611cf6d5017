import StateExplorer.Shell.Expansion
import StateExplorer.Shell.Printing
import StateExplorer.Shell.Program
import StateExplorer.Shell.Tool.Basic

/-!
# Programs that start programs

Some programs change what another one finds when it is started, or start it over and over with
arguments from the input.
-/

namespace StateExplorer.Shell.Tool

open Run

/-- Searches for the program of a name, also where no directories to be searched are known. -/
def findUsual (name : String) : Run Lookup := do
  if name.isEmpty then return .missing
  else if (← Run.value? "PATH").isNone && !name.toList.contains '/' then
    programIn name .missing ["/bin", "/usr/bin"]
  else findProgram name

/-- Becomes another program, or tells why it cannot: nothing is there, or it may not be started. -/
def become (evaluator : Evaluator) (words : List String)
    (cannot : (missing : Bool) → (why : String) → Run Nat) : Run Nat := do
  match ← findUsual (words.headD "") with
  | .found _ program =>
    let process := (← shell).process
    let (status, signal) ← evaluator.start program words
    match signal with
    | some signal => throw (.killed process signal)
    | none => return status
  | .forbidden => cannot false "Permission denied"
  | .missing =>
    match ← programAbsence (words.headD "") with
    | .missing => cannot true Absence.missing.message
    | why => cannot false why.message

/-- Becomes another program; where it cannot, tells so after some words. -/
def becomeOrTell (evaluator : Evaluator) (name before : String) (words : List String) : Run Nat :=
  become evaluator words fun missing why => do
    complain name (before ++ quotedPath (words.headD "") ++ ": " ++ why)
    return if missing then 127 else 126

/-- The names and values that programs are told, oldest first. -/
def environment : Run (List (String × String)) := do
  return ((← shell).bindings.filterMap fun (name, binding) =>
    if binding.exported then binding.value.map fun value => (name, value) else none).reverse

/-- Runs a program with other names and values, or prints all of them. -/
def env : Tool := fun evaluator name arguments =>
  withOptions name 125 (leadingOptions (flags [('i', "ignore-environment"), ('0', "null"),
      ('v', "debug")] ++ valued [('u', "unset"), ('C', "chdir"), ('S', "split-string")])
      arguments) fun given words => do
    let (empties, words) := match words with
      | "-" :: words => (true, words)
      | words => (has given 'i', words)
    if empties then change fun s => { s with bindings := [] }
    for g in given do
      if g.letter == 'u' then
        let other := g.value.getD ""
        if other.isEmpty || other.toList.contains '=' then
          complain name ("cannot unset " ++ quotedPath other ++ ": Invalid argument")
          return 125
        setBinding other none
    let more := match value? given 'S' with
      | some text => Bytes.words text
      | none => []
    let (settings, command) := (more ++ words).span fun word => word.toList.contains '='
    for setting in settings do
      let (key, rest) := setting.toList.span (· != '=')
      setBinding (String.ofList key) (some ⟨some (String.ofList rest.tail), true, false⟩)
    match value? given 'C' with
    | some directory =>
      match ← entryAt directory with
      | some .directory =>
        let full ← fullPath directory
        change fun s => { s with directory := full }
      | found =>
        let why ← if found.isSome then pure Absence.notDirectory.message else whyMissing directory
        complain name ("cannot change directory to " ++ quotedPath directory ++ ": " ++ why)
        return 125
    | none => pure ()
    if command.isEmpty then
      let mark := if has given '0' then "\x00" else "\n"
      print (String.join ((← environment).map fun (key, value) => key ++ "=" ++ value ++ mark))
      return 0
    else becomeOrTell evaluator name "" command

/-- Prints the values of names, or all of them. -/
def printenv : Tool := fun _ name arguments =>
  withOptions name 2 (leadingOptions (flags [('0', "null")]) arguments) fun given words => do
    let mark := if has given '0' then "\x00" else "\n"
    let all ← environment
    if words.isEmpty then
      print (String.join (all.map fun (key, value) => key ++ "=" ++ value ++ mark))
      return 0
    let values := words.map fun word => all.lookup word
    print (String.join (values.filterMap fun value => value.map (· ++ mark)))
    return if values.all Option.isSome then 0 else 1

/-! ## Time -/

/-- The thousandths of a second that a text stands for. -/
def duration? (text : String) : Option Nat :=
  let (whole, count, rest) := spanDigits 10 text.toList
  let (part, size, rest) := match rest with
    | '.' :: rest => spanDigits 10 (rest.take 3) |> fun (n, size, _) =>
      (n, size, (rest.dropWhile Char.isDigit))
    | rest => (0, 0, rest)
  let value := whole * 1000 + part * (if size == 1 then 100 else if size == 2 then 10 else 1)
  if count == 0 && size == 0 then
    if text == "inf" || text == "infinity" then some 0x8000000000000000 else none
  else
    match rest with
    | [] | ['s'] => some value
    | ['m'] => some (value * 60)
    | ['h'] => some (value * 3600)
    | ['d'] => some (value * 86400)
    | _ => none

/-- Waits. Nothing else happens meanwhile, so that nothing can be seen of it. -/
def sleep : Tool := fun _ name arguments =>
  withOptions name 1 (options [] arguments) fun _ words => do
    match words.filter fun word => (duration? word).isNone with
    | [] =>
      if words.isEmpty then
        misuse name "missing operand"
        return 1
      else return 0
    | wrong =>
      for word in wrong.dropLast do
        complain name ("invalid time interval " ++ quotedPath word)
      misuse name ("invalid time interval " ++ quotedPath (wrong.getLastD ""))
      return 1

/-- How long a program takes, as far as that is known. -/
def timeTaken (words : List String) : Nat :=
  match words with
  | "sleep" :: times => times.foldl (fun n time => n + (duration? time).getD 0) 0
  | _ => 0

/-- Runs a program for some time at most. -/
def timeout : Tool := fun evaluator name arguments =>
  withOptions name 125 (leadingOptions (flags [('F', "foreground"), ('P', "preserve-status"),
      ('v', "verbose")] ++ valued [('k', "kill-after"), ('s', "signal")]) arguments)
    fun given words => do
      match words with
      | time :: first :: rest =>
        match duration? time with
        | none =>
          misuse name ("invalid time interval " ++ quotedPath time)
          return 125
        | some limit =>
          let command := first :: rest
          if 0 < limit && limit < timeTaken command then
            let isKilled := match value? given 's' with
              | some signal => signal == "KILL" || signal == "9" || signal == "SIGKILL"
              | none => false
            if isKilled then throw (.killed (← shell).process 9)
            else return 124
          else
            becomeOrTell evaluator name "failed to run command " command
      | _ =>
        printError ("Try '" ++ name ++ " --help' for more information.\n")
        return 125

/-- Runs a program that is not stopped when its terminal is closed. -/
def nohup : Tool := fun evaluator name arguments => do
  if arguments.isEmpty then
    misuse name "missing operand"
    return 125
  else
    becomeOrTell evaluator name "failed to run command " arguments

/-- Runs a program that steps back behind others. -/
def nice : Tool := fun evaluator name arguments =>
  withOptions name 125 (leadingOptions (valued [('n', "adjustment")]) arguments)
    fun given words => do
      if words.isEmpty then
        if has given 'n' then
          misuse name "a command must be given with an adjustment"
          return 125
        print "0\n"
        return 0
      else becomeOrTell evaluator name "" words

/-! ## Printing -/

/-- How programs print by a format. -/
def printStyle : PrintStyle where
  hexEscapes := true
  notANumber text := quoted text ++ ": expected a numeric value"
  notWhole text := quoted text ++ ": value not completely converted"
  tooLarge text := quoted text ++ ": Numerical result out of range"
  unknownDirective text := text ++ ": invalid conversion specification"
  missingCharacter _ := "missing character"

/-- Prints its arguments with blanks between them. -/
def echo : Tool := fun _ _ arguments => do
  let isOption (word : String) : Bool :=
    match word.toList with
    | '-' :: c :: rest => (c :: rest).all fun c => c == 'n' || c == 'e' || c == 'E'
    | _ => false
  let (marks, words) := arguments.span isOption
  let letters := marks.flatMap fun mark => mark.toList.tail
  let escapes := (letters.filter (· != 'n')).getLast? == some 'e'
  let text := " ".intercalate words
  let (shown, cut) := if escapes then withoutEscapes printStyle text.toList else (text.toList, false)
  print (String.ofList shown ++ if letters.contains 'n' || cut then "" else "\n")
  return 0

/-- Prints its arguments by a format. -/
def printf : Tool := fun _ name arguments => do
  let arguments := if arguments.head? == some "--" then arguments.tail else arguments
  match arguments with
  | [] =>
    misuse name "missing operand"
    return 1
  | format :: arguments =>
    let printed := printFormat printStyle 64 format arguments
    for complaint in printed.complaints.reverse do complain name complaint
    print printed.text
    match printed.failure with
    | some message =>
      complain name message
      return 1
    | none =>
      if !printed.used then
        match arguments with
        | extra :: _ =>
          complain name ("warning: ignoring excess arguments, starting with " ++ quotedPath extra)
        | [] => pure ()
      return if printed.complaints.isEmpty then 0 else 1

/-! ## Arguments from the input -/

/-- The words of a line or of several lines, in which quotes and backslashes keep blanks. Each word is
given with whether a line ends after it. -/
def quotedWords : (more : Nat) → (word : Option (List Char)) → List Char →
    Except String (List (String × Bool))
  | 0, _, _ => .ok []
  | _, none, [] => .ok []
  | _, some word, [] => .ok [(String.ofList word.reverse, true)]
  | more + 1, word, c :: rest => do
    if c == '\'' || c == '"' then
      let (inside, after) := rest.span fun d => d != c && d != '\n'
      match after with
      | d :: after =>
        if d == c then quotedWords more (some (inside.reverse ++ word.getD [])) after
        else throw (unmatched c)
      | [] => throw (unmatched c)
    else if c == '\\' then
      match rest with
      | d :: rest => quotedWords more (some (d :: word.getD [])) rest
      | [] => quotedWords more word []
    else if Bytes.isSpace c then
      let others ← quotedWords more none rest
      match word with
      | some word => return (String.ofList word.reverse, c == '\n') :: others
      | none => return if c == '\n' then ("", true) :: others else others
    else quotedWords more (some (c :: word.getD [])) rest
where
  /-- The words for a quote that is not closed. -/
  unmatched (c : Char) : String :=
    "unmatched " ++ (if c == '"' then "double" else "single") ++
      " quote; by default quotes are special to xargs unless you use the -0 option"

/-- The lines of a text in which quotes and backslashes keep blanks, without the blanks at their
start. -/
def quotedLines (lines : List String) : Except String (List String) :=
  lines.filterMapM fun line => do
    let text := line.toList.dropWhile Bytes.isSpace
    if text.isEmpty then return none
    else return some (String.ofList (← plain (text.length + 1) text))
where
  /-- A line without its quotes and backslashes. -/
  plain : (more : Nat) → List Char → Except String (List Char)
    | 0, _ => .ok []
    | _, [] => .ok []
    | more + 1, c :: rest => do
      if c == '\'' || c == '"' then
        let (inside, after) := rest.span (· != c)
        match after with
        | _ :: after => return inside ++ (← plain more after)
        | [] => throw (quotedWords.unmatched c)
      else if c == '\\' then
        match rest with
        | d :: rest => return d :: (← plain more rest)
        | [] => return []
      else return c :: (← plain more rest)

/-- A list in parts of so many elements. -/
def inParts {α : Type} (size : Nat) : (more : Nat) → List α → List (List α)
  | 0, _ => []
  | _, [] => []
  | more + 1, all => all.take size :: inParts size more (all.drop size)

/-- Words in groups of so many lines. -/
def byLines (lines : Nat) (words : List (String × Bool)) : List (List String) :=
  let step (acc : List (List String) × List String) (word : String × Bool) :=
    let (done, line) := acc
    let line := if word.1.isEmpty then line else line ++ [word.1]
    if word.2 && !line.isEmpty then (done ++ [line], []) else (done, line)
  let (done, last) := words.foldl step ([], [])
  let all := if last.isEmpty then done else done ++ [last]
  (inParts lines (all.length + 1) all).map List.flatten

/-- A word as it is shown when commands are told. -/
def toldWord (word : String) : String :=
  let isPlain (c : Char) : Bool :=
    c.isAlphanum || ['%', '+', ',', '-', '.', '/', ':', '@', '_', ']', '{', '}'].contains c
  if !word.isEmpty && word.toList.all isPlain then word else quotedPath word

/-- Runs commands one after another, until one asks to stop. -/
def runAll (evaluator : Evaluator) (name : String) (tells : Bool) :
    (status : Nat) → List (List String) → Run Nat
  | status, [] => return status
  | status, words :: rest => do
    let command := words.headD ""
    if tells then printError (" ".intercalate (words.map toldWord) ++ "\n")
    match ← findUsual command with
    | .missing =>
      match ← programAbsence command with
      | .missing =>
        complain name (command ++ ": " ++ Absence.missing.message)
        return 127
      | why =>
        complain name (command ++ ": " ++ why.message)
        return 126
    | .forbidden =>
      complain name (command ++ ": Permission denied")
      return 126
    | .found _ program =>
      let stream := (← shell).streams.lookup 0
      let empty ← openNew ⟨none, 0, false, true, false, false, false⟩
      setStream 0 (some empty)
      let (ended, signal) ← evaluator.start program words
      setStream 0 stream
      match signal with
      | some signal =>
        complain name (command ++ ": terminated by signal " ++ toString signal)
        return 125
      | none =>
        if ended == 255 then
          complain name (command ++ ": exited with status 255; aborting")
          return 124
        else runAll evaluator name tells (if ended == 0 then status else 123) rest

/-- The character that parts the input, by its text. -/
def delimiter? (text : String) : Option Char :=
  match text.toList with
  | [c] => some c
  | ['\\', 'n'] => some '\n'
  | ['\\', 't'] => some '\t'
  | ['\\', '0'] => some '\x00'
  | ['\\', '\\'] => some '\\'
  | _ => none

/-- Runs a program with arguments from the input. -/
def xargs : Tool := fun evaluator name arguments =>
  withOptions name 1 (leadingOptions (flags [('0', "null"), ('r', "no-run-if-empty"),
      ('t', "verbose"), ('x', "exit"), ('p', "interactive"), ('o', "open-tty")] ++
      valued [('n', "max-args"), ('I', ""), ('d', "delimiter"), ('L', ""), ('P', "max-procs"),
        ('a', "arg-file"), ('E', ""), ('s', "max-chars")] ++
      [⟨'i', "replace", .perhaps⟩, ⟨'l', "max-lines", .perhaps⟩, ⟨'e', "eof", .perhaps⟩])
      arguments) fun given words => do
    let wrong := (given.filter fun g => ['n', 'L', 'P', 's'].contains g.letter).find? fun g =>
      (Bytes.nat? (g.value.getD "")).all fun n => n == 0 && g.letter != 'P'
    match wrong with
    | some g =>
      let option := " for -" ++ String.singleton g.letter ++ " option"
      misuse name (match Bytes.nat? (g.value.getD "") with
        | some n => "value " ++ toString n ++ option ++ " should be >= 1"
        | none => "invalid number \"" ++ g.value.getD "" ++ "\"" ++ option)
      return 1
    | none =>
      let delimiter := (value? given 'd').map delimiter?
      if delimiter == some none then
        complain name ("Invalid input delimiter specification " ++ (value? given 'd').getD "" ++
          ": the delimiter must be either a single character or an escape sequence starting " ++
          "with \\.")
        return 1
      let mark := if has given '0' then some '\x00' else delimiter.join
      let found ← match value? given 'a' with
        | some path => sourceText path
        | none => Tool.input
      match found with
      | .error why =>
        complain name ("Cannot open input file " ++ quotedPath ((value? given 'a').getD "") ++
          ": " ++ why.message)
        return 1
      | .ok text =>
        let command := if words.isEmpty then ["echo"] else words
        let placeholder := if has given 'I' then value? given 'I'
          else if has given 'i' then some ((value? given 'i').getD "\x7b\x7d") else none
        let marked (mark : Char) : List String :=
          let parts := Bytes.split mark text
          if parts.getLast? == some "" then parts.dropLast else parts
        let groups : Except String (List (List String)) := do
          match placeholder with
          | some placeholder =>
            let lines ← match mark with
              | some mark => pure (marked mark)
              | none => quotedLines (Bytes.lines text)
            return lines.map fun line => command.headD "" :: command.tail.map fun word =>
              if placeholder.isEmpty then word else word.replace placeholder line
          | none =>
            let all ← match mark with
              | some mark => pure ((marked mark).map fun word => (word, true))
              | none => quotedWords (text.length + 2) none text.toList
            let all := match value? given 'E' with
              | some stop => all.takeWhile fun word => word.1 != stop
              | none => all
            let perLine := if has given 'L' then value? given 'L'
              else if has given 'l' then some ((value? given 'l').getD "1") else none
            let parts ← match perLine.bind Bytes.nat?, (value? given 'n').bind Bytes.nat? with
              | some lines, _ => pure (byLines lines all)
              | none, some size =>
                let plain := (all.filter fun word => mark.isSome || !isLineEnd word).map Prod.fst
                pure (inParts size (plain.length + 1) plain)
              | none, none =>
                pure [(all.filter fun word => mark.isSome || !isLineEnd word).map Prod.fst]
            let parts := if parts.isEmpty then [[]] else parts
            return (if has given 'r' then parts.filter (!·.isEmpty) else parts).map (command ++ ·)
        match groups with
        | .error message =>
          complain name message
          return 1
        | .ok groups => runAll evaluator name (has given 't') 0 groups
where
  /-- Whether something that was read is the end of a line without a word. -/
  isLineEnd (word : String × Bool) : Bool := word.1.isEmpty && word.2

/-! ## The machine -/

/-- How many bytes are printed about by a program that never ends. -/
def mostBytes : Nat := 200000

/-- Prints its arguments over and over. -/
def yes : Tool := fun _ _ arguments => do
  let line := (if arguments.isEmpty then "y" else " ".intercalate arguments) ++ "\n"
  print (String.join (List.replicate (mostBytes / line.length + 1) line))
  return 0

/-- Prints a line for a program that takes no arguments. -/
def fact (name line : String) (specs : List Spec) (arguments : List String) : Run Nat :=
  withOptions name 1 (options specs arguments) fun _ words => do
    match words with
    | [] =>
      print (line ++ "\n")
      return 0
    | extra :: _ =>
      misuse name ("extra operand " ++ quotedPath extra)
      return 1

/-- Prints who is at work. -/
def whoami : Tool := fun _ name arguments => fact name "root" [] arguments

/-- Prints the number or the name of who is at work. -/
def id : Tool := fun _ name arguments =>
  withOptions name 1 (options (flags [('u', "user"), ('g', "group"), ('G', "groups"), ('n', "name"),
      ('r', "real")]) arguments) fun given words => do
    match words.find? (· != "root") with
    | some word =>
      complain name (quotedPath word ++ ": no such user")
      return 1
    | none =>
      if has given 'u' || has given 'g' || has given 'G' then
        print (if has given 'n' then "root\n" else "0\n")
      else print "uid=0(root) gid=0(root) groups=0(root)\n"
      return 0

/-- Prints the name of the system. -/
def uname : Tool := fun _ name arguments =>
  fact name (if arguments == ["-m"] then "x86_64" else "Linux")
    (flags [('s', "kernel-name"), ('m', "machine"), ('o', "operating-system")]) arguments

end StateExplorer.Shell.Tool
