import StateExplorer.Shell.Tool.Sed.Machine

/-!
# Editing lines

A script comes in pieces: expressions among the arguments, or files. It is run for the lines of all
files together, or for each file on its own, which is then put in place of the file.
-/

namespace StateExplorer.Shell.Sed

open Run Tool

/-- A piece of a script: an expression, or a file by its name. -/
structure ScriptPart where
  path : Option String
  text : String

/-- The words for the place of a fault in pieces of a script, the first of which has a number and
starts after so many characters. -/
def faultPlace (place : Nat) : (number before : Nat) → List ScriptPart → String
  | number, before, piece :: rest =>
    if rest.isEmpty || place ≤ before + piece.text.length then
      match piece.path with
      | some path =>
        let taken := Bytes.take (place - before) piece.text
        "file " ++ path ++ " line " ++
          toString ((taken.toList.filter (· == '\n')).length +
            if Bytes.isEnded taken then 0 else 1)
      | none =>
        "-e expression #" ++ toString number ++ ", char " ++
          toString (if place == 0 then 0 else place - before)
    else
      faultPlace place (if piece.path.isSome then number else number + 1)
        (before + piece.text.length + 1) rest
  | _, _, [] => ""

/-- The lines of a text of a path. -/
def linesOf (mark : Char) (path text : String) : List Line :=
  (pieces false mark text).map fun piece =>
    if piece.toList.getLast? == some mark then
      ⟨String.ofList piece.toList.dropLast, true, path, false⟩
    else ⟨piece, false, path, false⟩

/-- Marks the last line. -/
def markLast (lines : List Line) : List Line :=
  match lines.getLast? with
  | some last => lines.dropLast ++ [{ last with isLast := true }]
  | none => []

/-- The first name of a label that is missing. -/
def missingLabel? (script : Array Command) : Option String :=
  script.toList.findSome? fun c =>
    match c.action with
    | .branch name | .branchIf name | .branchUnless name =>
      if !name.isEmpty && labelPlace script name == script.size then some name else none
    | _ => none

/-- The paths that a script writes to. -/
def writtenPaths (script : Array Command) : List String :=
  script.toList.filterMap fun c =>
    match c.action with
    | .writeFile path | .writeFirst path => some path
    | .substitute s => s.path
    | _ => none

/-- The options. -/
def specs : List Spec :=
  Tool.flags [('n', "quiet"), ('n', "silent"), ('E', "regexp-extended"), ('r', ""),
      ('s', "separate"), ('z', "null-data"), ('u', "unbuffered"), ('b', "binary"),
      ('p', "posix"), ('S', "sandbox"), ('D', "debug"), ('K', "follow-symlinks")] ++
    Tool.valued [('e', "expression"), ('f', "file"), ('l', "line-length")] ++
    [⟨'i', "in-place", .perhaps⟩]

/-- The text of a file of commands, without the line end at its end. -/
def scriptText (text : String) : String :=
  if Bytes.isEnded text then String.ofList text.toList.dropLast else text

/-- The lines that were left when the script was done, given back to the input where it can go
back. -/
def giveBack (m : Machine) : Run Unit := do
  let size := m.input.foldl (fun n line =>
    if line.path == "-" then n + line.text.length + (if line.ended then 1 else 0) else n) 0
  unreadInput size

/-- Runs a script for some lines, prints what it prints, and tells how it ended. -/
def runLines (name : String) (script : Array Command) (mode : Mode) (machine : Machine)
    (write : String → Run Unit) : Run (Option Nat × Machine) := do
  match ← (cycles script mode 10000000 false machine).run with
  | .ok (status, m) =>
    write (String.join m.output.reverse)
    return (some status, m)
  | .error message =>
    complain name ("-e expression #1, char 0: " ++ message)
    return (none, machine)

/-- Runs a script for files. -/
def runScript (name : String) (script : Array Command) (mode : Mode) (separate : Bool)
    (suffix : Option (Option String)) (paths : List String) : Run Nat := do
  for path in writtenPaths script do
    if path != "/dev/stdout" && path != "/dev/stderr" then
      let _ ← writeFile path ""
  let mut files := []
  let mut status := 0
  let mut directory := none
  for path in if paths.isEmpty then ["-"] else paths do
    if directory.isNone then
      let isPath := path == "-" && suffix.isSome
      match ← (if isPath then pathText path else sourceText path) with
      | .ok text => files := (path, text) :: files
      | .error .isDirectory =>
        if suffix.isSome then
          complain name ("couldn't edit " ++ path ++ ": not a regular file")
          status := 4
        else directory := some path
      | .error why =>
        complain name ("can't read " ++ path ++ ": " ++ why.message)
        status := 2
  let found := files.reverse
  let start (lines : List Line) : Machine :=
    { space := ⟨"", true⟩, held := ⟨"", true⟩, number := 0, path := "-", isLast := false,
      input := lines, output := [], lacksEnd := false, lacking := [], queue := [], replaced := false,
      stages := [], pattern := none, readers := [] }
  let together := found.map fun (path, text) => linesOf mode.mark path text
  match suffix with
  | none =>
    let lines := if separate then (together.map markLast).flatten else markLast together.flatten
    let (ended, m) ← runLines name script mode (start lines) print
    giveBack m
    match directory with
    | some path =>
      complain name ("read error on " ++ path ++ ": Is a directory")
      return 4
    | none => return (ended.elim 1 fun n => if n == 0 then status else n)
  | some suffix =>
    let mut machine := start []
    let mut failed := none
    for (path, text) in found do
      if failed.isNone then
        let (ended, m) ← runLines name script mode
          { machine with input := markLast (linesOf mode.mark path text), output := [],
                         lacksEnd := false } fun shown => do
          match suffix with
          | some suffix =>
            let kept := if suffix.toList.contains '*' then
              "/".intercalate ((Bytes.split '/' path).dropLast ++
                [suffix.replace "*" (((Bytes.split '/' path).getLast?).getD "")])
              else path ++ suffix
            let _ ← writeFile kept text
          | none => pure ()
          let _ ← writeFile path shown
        machine := m
        match ended with
        | none => failed := some 1
        | some 0 => pure ()
        | some n => failed := some n
    return failed.getD status

end StateExplorer.Shell.Sed

namespace StateExplorer.Shell.Tool

open Run Sed

/-- Edits the lines of files by a script. -/
def sed : Tool := fun _ name arguments => do
  let usage : Run Unit :=
    printError ("Usage: " ++ name ++ " [OPTION]... \x7bscript-only-if-no-other-script\x7d " ++
      "[input-file]...\n\n")
  match options specs arguments with
  | .error message =>
    complain name message
    usage
    return 1
  | .ok (given, words) =>
    let mut parts : List ScriptPart := []
    let mut missing := none
    for g in given do
      if g.letter == 'e' then parts := ⟨none, g.value.getD ""⟩ :: parts
      else if g.letter == 'f' then
        let path := g.value.getD ""
        match ← sourceText path with
        | .ok text => parts := ⟨some path, scriptText text⟩ :: parts
        | .error .isDirectory => parts := ⟨some path, ""⟩ :: parts
        | .error why => missing := missing <|> some (path, why)
    match missing with
    | some (path, why) =>
      complain name ("couldn't open file " ++ path ++ ": " ++ why.message)
      return 4
    | none =>
      let (all, paths) : List ScriptPart × List String := match parts, words with
        | [], text :: rest => ([⟨none, text⟩], rest)
        | parts, rest => (parts.reverse, rest)
      if all.isEmpty then
        usage
        return 1
      let text := "\n".intercalate (all.map ScriptPart.text)
      let isQuiet := match text.toList with
        | ['#', 'n'] | '#' :: 'n' :: '\n' :: _ => true
        | _ => false
      let extended := has given 'E' || has given 'r'
      match Sed.read extended text with
      | .error fault =>
        complain name (faultPlace fault.place 1 0 all ++ ": " ++ fault.message)
        return 1
      | .ok commands =>
        let script := commands.toArray
        match missingLabel? script with
        | some label =>
          complain name ("can't find label for jump to \x60" ++ label ++ "'")
          return 4
        | none =>
          let mode : Mode :=
            ⟨has given 'n' || isQuiet, if has given 'z' then '\x00' else '\n',
              ((value? given 'l').bind Bytes.nat?).getD 70⟩
          let suffix := if has given 'i' then some (value? given 'i') else none
          if suffix.isSome && paths.isEmpty then
            complain name "no input files"
            return 4
          runScript name script mode (has given 's') suffix paths

end StateExplorer.Shell.Tool
