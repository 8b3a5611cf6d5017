import StateExplorer.Shell.Arithmetic
import StateExplorer.Shell.Bytes
import StateExplorer.Shell.Glob
import StateExplorer.Shell.Syntax

/-!
# The world of a running script

A machine keeps texts of bytes: the contents of files, of pipes, and of what was printed. Entries
name files and directories by their full paths, and a path is followed to a full path part by part.
An open file is a place in a text; the streams of a shell lead to open files, and shells that were
started from it share them.
-/

namespace StateExplorer.Shell

/-- What a path names: a directory, a file with its text and its permissions, a program of the machine,
or the device that keeps nothing. -/
inductive Entry
  | directory
  | file (store : Nat) (mode : Nat)
  | program (name : String)
  | void

/-- A place in a text. Without a text, nothing is there to be read and nothing is kept. A pipe
cannot go back. -/
structure OpenFile where
  store : Option Nat
  offset : Nat
  appends : Bool
  reads : Bool
  writes : Bool
  isPipe : Bool
  isDirectory : Bool

/-- What is known about a name. A name may be marked without having a value. -/
structure Binding where
  value : Option String
  exported : Bool
  readOnly : Bool

/-- A command that a name stands for, with the texts that its lines hold. -/
structure Function where
  body : Script
  texts : List (Nat × Word)

/-- What a shell keeps. Messages name the shell, a line and the builtin command at work. A shell knows
its process, that of the program it is a part of, and those that wait for it, the nearest first. -/
structure Shell where
  name : String
  arguments : List String
  bindings : List (String × Binding)
  functions : List (String × Function)
  aliases : List (String × String)
  streams : List (Nat × Nat)
  directory : String
  status : Nat
  innerStatus : Nat
  line : Nat
  builtin : Option String
  options : List Char
  traps : List (String × String)
  pending : List String
  texts : List (Nat × Word)
  loops : Nat
  locals : List (List (String × Option Binding))
  mask : Nat
  process : Nat
  leader : Nat
  waiting : List Nat
  background : Option Nat
  optionIndex : Nat
  optionOffset : Option Nat

/-- A command that was started in the background, with the shell that started it and the shell of
its own that runs it. It runs when something waits for it, and then has a status; a signal can stop
it before. -/
structure Job where
  process : Nat
  parent : Nat
  script : Script
  shell : Shell
  status : Option Nat
  signal : Option Nat

/-- The characters of a text from a place on. They are kept so that a text need not be taken apart for
each line that is read, and are forgotten when the text is changed. -/
structure Cursor where
  store : Nat
  offset : Nat
  rest : List Char

/-- A machine with a shell at work, the signals that were sent to processes, and the jobs in the
background. -/
structure World where
  stores : Array String
  cursor : Option Cursor
  entries : List (String × Entry)
  opens : Array OpenFile
  processes : Nat
  signals : List (Nat × Nat)
  jobs : List Job
  shell : Shell

/-- Why a command is left before its end: the script ends, with the last status where none is
given, an error ends it, a loop is left or goes on, a function ends, or a process is stopped by a
signal. -/
inductive Leave
  | exit (status : Option Nat)
  | error
  | breaks (levels : Nat)
  | continues (levels : Nat)
  | returns (status : Option Nat)
  | killed (process : Nat) (signal : Nat)

/-- A step of a run. -/
abbrev Run (α : Type) := ExceptT Leave (StateM World) α

namespace Run

/-- What the shell keeps. -/
def shell : Run Shell := return (← get).shell

/-- Changes what the shell keeps. -/
def change (f : Shell → Shell) : Run Unit :=
  modify fun w => { w with shell := f w.shell }

/-- Sets the status of the last command. -/
def setStatus (status : Nat) : Run Unit := change fun s => { s with status := status }

/-- Runs a step and, however it ends, another one after it. -/
def ensuring {α : Type} (step : Run α) (after : Run Unit) : Run α := do
  let result ← (try
    let a ← step
    pure (Except.ok a)
  catch e => pure (Except.error e) : Run (Except Leave α))
  after
  match result with
  | .ok a => return a
  | .error e => throw e

end Run

open Run

/-! ## Paths -/

namespace Path

/-- The parts of a path. -/
def parts (path : String) : List String :=
  (Bytes.split '/' path).filter fun p => !p.isEmpty && p != "."

/-- The full path of parts. -/
def join (parts : List String) : String := "/" ++ "/".intercalate parts

/-- The parts left where a part that leads upwards takes the one before it along; the parts so far
are given last one first. -/
def climb : (above : List String) → List String → List String
  | above, [] => above.reverse
  | above, ".." :: rest => climb above.tail rest
  | above, p :: rest => climb (p :: above) rest

/-- The parts of a path that starts in a directory. -/
def partsFrom (directory path : String) : List String :=
  (if Bytes.startsWith path "/" then [] else parts directory) ++ parts path

/-- The full path of a path that starts in a directory, as it is written: whether anything is there
does not matter. -/
def written (directory path : String) : String := join (climb [] (partsFrom directory path))

/-- The names at the root that lead to other directories. -/
def otherNames : List (String × List String) :=
  [("bin", ["bin", "usr"]), ("lib", ["lib", "usr"]), ("lib64", ["lib64", "usr"]),
    ("sbin", ["sbin", "usr"])]

/-- A name below some parts, which are given last one first as the result is. -/
def below (above : List String) (name : String) : List String :=
  match above with
  | [] => (otherNames.lookup name).getD [name]
  | above => name :: above

/-- The full path of the directory that holds a full path. -/
def parent (path : String) : String := join (parts path).dropLast

/-- The last part of a full path. -/
def name (path : String) : String := ((parts path).getLast?).getD ""

/-- Whether a path has a slash at its end, as only directories may. -/
def endsInSlash (path : String) : Bool := path.toList.getLast? == some '/'

/-- How long a name may be. -/
def mostInName : Nat := 255

/-- How long a path may be. -/
def mostInPath : Nat := 4095

end Path

/-- What a full path names. -/
def World.entryAt (w : World) (path : String) : Option Entry := w.entries.lookup path

/-- The parts of a full path, from the parts of a path that are followed one after another. A part
that leads upwards leads to the directory that holds the one before it. Where that one is no
directory, the rest stays as it is, and nothing has such a path. -/
def World.follow (w : World) : (above : List String) → List String → List String
  | above, [] => above.reverse
  | above, ".." :: rest =>
    match w.entryAt (Path.join above.reverse) with
    | some .directory => w.follow above.tail rest
    | _ => above.reverse ++ ".." :: rest
  | above, p :: rest => w.follow (Path.below above p) rest

/-- The full path of a path that starts in a directory. -/
def World.fullPath (w : World) (directory path : String) : String :=
  Path.join (w.follow [] (Path.partsFrom directory path))

/-- Why a path names nothing. -/
inductive Absence
  | missing
  | notDirectory
  | longName

/-- The words for why a path names nothing. -/
def Absence.message : Absence → String
  | .missing => "No such file or directory"
  | .notDirectory => "Not a directory"
  | .longName => "File name too long"

/-- Why the parts of a full path, below others, name nothing. -/
def World.absenceBelow (w : World) : (above : List String) → List String → Absence
  | _, [] => .missing
  | above, p :: rest =>
    match w.entryAt (Path.join above.reverse) with
    | some .directory =>
      if Path.mostInName < p.length then .longName else w.absenceBelow (p :: above) rest
    | some _ => .notDirectory
    | none => .missing

/-- Gives a full path a new entry, or none. -/
def World.setEntry (w : World) (path : String) (entry : Option Entry) : World :=
  let others := w.entries.filter (·.1 != path)
  { w with entries := match entry with
    | some e => (path, e) :: others
    | none => others }

/-- The names in a directory, in order. -/
def World.names (w : World) (directory : String) : List String :=
  let inside := w.entries.filterMap fun (path, _) =>
    if path != "/" && Path.parent path == directory then some (Path.name path) else none
  let others := if directory == "/" then Path.otherNames.map Prod.fst else []
  (others ++ inside).mergeSort fun a b => decide (a ≤ b)

/-- A machine with one more text. -/
def World.newStore (w : World) (text : String) : World × Nat :=
  ({ w with stores := w.stores.push text }, w.stores.size)

/-- A machine with a text changed. -/
def World.changeStore (w : World) (store : Nat) (f : String → String) : World :=
  { w with
    stores := w.stores.modify store f
    cursor := w.cursor.filter (·.store != store) }

/-- A machine with one more open file. -/
def World.newOpen (w : World) (file : OpenFile) : World × Nat :=
  ({ w with opens := w.opens.push file }, w.opens.size)

/-- The text behind an open file from its place on. -/
def World.textFrom (w : World) (file : OpenFile) : String :=
  match file.store.bind (w.stores[·]?) with
  | some text => if file.offset == 0 then text else Bytes.drop file.offset text
  | none => ""

/-- A text with another one put over it at a place. -/
def overwrite (text : String) (offset : Nat) (put : String) : String :=
  let size := text.length
  if offset == size then text ++ put
  else if size < offset then text.pushn '\x00' (offset - size) ++ put
  else Bytes.take offset text ++ put ++ Bytes.drop (offset + put.length) text

namespace Run

/-- The full path of a path. -/
def fullPath (path : String) : Run String := return (← get).fullPath (← shell).directory path

/-- What a path names. An empty path names nothing, and a path with a slash at its end no file. -/
def entryAt (path : String) : Run (Option Entry) := do
  if path.isEmpty || Path.mostInPath < path.length then return none
  let found := (← get).entryAt (← fullPath path)
  match found with
  | some .directory => return found
  | _ => return if Path.endsInSlash path then none else found

/-- Why a path names nothing. -/
def absence (path : String) : Run Absence := do
  if path.isEmpty then return .missing
  else if Path.mostInPath < path.length then return .longName
  else
    let w ← get
    let full ← fullPath path
    if (w.entryAt full).isSome then return .notDirectory
    else return w.absenceBelow [] (Path.parts full)

/-- Why nothing can be made at a path, unless something can. -/
def obstacle? (path : String) : Run (Option Absence) := do
  let full ← fullPath path
  match (← get).entryAt (Path.parent full) with
  | some .directory =>
    if path.isEmpty then return some .missing
    else if Path.mostInPath < path.length || Path.mostInName < (Path.name full).length then
      return some .longName
    else return none
  | _ => return some (← absence path)

/-- The open file that a stream leads to. -/
def openOf? (stream : Nat) : Run (Option (Nat × OpenFile)) := do
  let w ← get
  match w.shell.streams.lookup stream with
  | some id => return (w.opens[id]?).map fun file => (id, file)
  | none => return none

/-- Leads a stream to an open file, or nowhere. -/
def setStream (stream : Nat) (id : Option Nat) : Run Unit :=
  change fun s =>
    let others := s.streams.filter (·.1 != stream)
    { s with streams := match id with
      | some id => (stream, id) :: others
      | none => others }

/-- A new open file. -/
def openNew (file : OpenFile) : Run Nat := do
  let (w, id) := (← get).newOpen file
  set w
  return id

/-- A new text. -/
def storeNew (text : String) : Run Nat := do
  let (w, id) := (← get).newStore text
  set w
  return id

/-- Writes to an open file; fails where it is not open for that. -/
def writeOpen (id : Nat) (text : String) : Run Bool := do
  let w ← get
  match w.opens[id]? with
  | none => return false
  | some file =>
    if !file.writes then return false
    else
      match file.store with
      | none => return true
      | some store =>
        if file.appends || file.isPipe then
          set (w.changeStore store (· ++ text))
        else
          let w := w.changeStore store fun old => overwrite old file.offset text
          set { w with
            opens := w.opens.modify id fun f => { f with offset := f.offset + text.length } }
        return true

/-- Writes to a stream; fails where the stream leads nowhere. -/
def write (stream : Nat) (text : String) : Run Bool := do
  match (← shell).streams.lookup stream with
  | some id => if text.isEmpty then return true else writeOpen id text
  | none => return text.isEmpty

/-- Prints on the output stream. -/
def print (text : String) : Run Unit := do
  let _ ← write 1 text

/-- Prints on the stream for errors. -/
def printError (text : String) : Run Unit := do
  let _ ← write 2 text

/-- What is left to be read of a stream, which is left unread; nothing where it is not open. -/
def peekInput? (stream : Nat) : Run (Option String) := do
  let w ← get
  return (← openOf? stream).bind fun (_, file) =>
    if file.reads then some (w.textFrom file) else none

/-- The characters that are left to be read of a stream, which are left unread; none where it is not
open. -/
def peekChars (stream : Nat) : Run (List Char) := do
  let w ← get
  match (← openOf? stream).bind fun (_, file) => if file.reads then some file else none with
  | some file =>
    match file.store, w.cursor with
    | some store, some c =>
      if c.store == store && c.offset == file.offset then return c.rest
      else fill store file
    | some store, none => fill store file
    | none, _ => return []
  | none => return []
where
  /-- Takes a text apart from the place of an open file on. -/
  fill (store : Nat) (file : OpenFile) : Run (List Char) := do
    let rest := ((← get).textFrom file).toList
    modify fun w => { w with cursor := some ⟨store, file.offset, rest⟩ }
    return rest

/-- Leaves so many bytes of a stream behind. -/
def skipInput (stream : Nat) (size : Nat) : Run Unit := do
  match ← openOf? stream with
  | some (id, file) =>
    modify fun w => { w with
      opens := w.opens.modify id fun f => { f with offset := f.offset + size }
      cursor := w.cursor.map fun c =>
        if some c.store == file.store && c.offset == file.offset then
          { c with offset := c.offset + size, rest := c.rest.drop size }
        else c }
  | none => pure ()

/-- Reads all that is left of the input. -/
def readInput : Run String := do
  let text := (← peekInput? 0).getD ""
  skipInput 0 text.length
  return text

/-- The text of a file. -/
def fileText? (path : String) : Run (Option String) := do
  match ← entryAt path with
  | some (.file store _) => return (← get).stores[store]?
  | some .void => return some ""
  | _ => return none

/-- Puts a text into a file, which is made where it is missing; fails where it cannot be made. -/
def writeFile (path text : String) : Run Bool := do
  let full ← fullPath path
  let w ← get
  if Path.endsInSlash path then return false
  match w.entryAt full with
  | some (.file store _) =>
    set (w.changeStore store fun _ => text)
    return true
  | some .void => return true
  | some _ => return false
  | none =>
    match ← obstacle? path with
    | none =>
      let store ← storeNew text
      modify fun w => w.setEntry full (some (.file store (0o666 &&& (0o777 ^^^ w.shell.mask))))
      return true
    | some _ => return false

/-! ## Names -/

/-- The binding of a name. -/
def binding? (name : String) : Run (Option Binding) := return (← shell).bindings.lookup name

/-- The value of a name. -/
def value? (name : String) : Run (Option String) := return (← binding? name).bind Binding.value

/-- Gives a name a binding, or none. -/
def setBinding (name : String) (binding : Option Binding) : Run Unit :=
  change fun s =>
    let others := s.bindings.filter (·.1 != name)
    { s with bindings := match binding with
      | some b => (name, b) :: others
      | none => others }

/-! ## Messages -/

/-- Prints a message about the script on the stream for errors. -/
def warn (text : String) : Run Unit := do
  let s ← shell
  let part := match s.builtin with
    | some name => name ++ ": "
    | none => ""
  printError (s.name ++ ": " ++ toString s.line ++ ": " ++ part ++ text ++ "\n")

/-- Ends a script with a message. -/
def fail {α : Type} (text : String) : Run α := do
  warn text
  throw .error

/-- Fails because a path names nothing that could be read. -/
def cannotOpen {α : Type} (path : String) : Run α := do
  let why ← match ← absence path with
    | .longName => pure Absence.longName.message
    | _ => pure "No such file"
  fail ("cannot open " ++ path ++ ": " ++ why)

/-- Fails because no file can be made at a path. -/
def cannotCreate {α : Type} (path : String) : Run α := do
  let why ← match ← obstacle? path with
    | none => pure (if Path.endsInSlash path then "Is a directory" else "Directory nonexistent")
    | some .longName => pure Absence.longName.message
    | some _ => pure "Directory nonexistent"
  fail ("cannot create " ++ path ++ ": " ++ why)

/-- Whether an option is set. -/
def hasOption (letter : Char) : Run Bool := return (← shell).options.contains letter

/-- Gives a name a value; fails where that is forbidden. The name that counts the options starts a new
search for options. -/
def assign (name value : String) : Run Unit := do
  let old ← binding? name
  if old.any (·.readOnly) then fail (name ++ ": is read only")
  if name == "OPTIND" then
    match Bytes.nat? value with
    | some n => change fun s => { s with optionIndex := n, optionOffset := none }
    | none => fail ("Illegal number: " ++ value)
  let exported := old.any (·.exported) || (← hasOption 'a')
  setBinding name (some ⟨some value, exported, false⟩)

end Run

end StateExplorer.Shell
