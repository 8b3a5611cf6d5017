import StateExplorer.Shell.Evaluation
import StateExplorer.Solver.External

/-!
# A machine with a shell

The machine has a shell and the programs that scripts usually call, a few directories, and no other
files than the one a program is called with. A program that is called reads nothing on its input.
-/

namespace StateExplorer.Shell

open Run

/-- The directories of the machine in which files can be made. -/
def directories : List String :=
  ["/", "/boot", "/dev", "/dev/shm", "/etc", "/home", "/media", "/mnt", "/opt", "/root", "/run",
    "/run/lock", "/srv", "/tmp", "/usr", "/usr/bin", "/usr/games", "/usr/include", "/usr/lib",
    "/usr/lib64", "/usr/libexec", "/usr/local", "/usr/local/bin", "/usr/local/etc",
    "/usr/local/games", "/usr/local/include", "/usr/local/lib", "/usr/local/sbin",
    "/usr/local/share", "/usr/local/src", "/usr/sbin", "/usr/share", "/usr/src", "/var",
    "/var/backups", "/var/cache", "/var/lib", "/var/local", "/var/log", "/var/mail", "/var/opt",
    "/var/spool", "/var/tmp", "/work"]

/-- The directories that the machine fills itself. -/
def closedDirectories : List String := ["/proc", "/sys"]

/-- The entries of the machine. -/
def firstEntries : List (String × Entry) :=
  (directories ++ closedDirectories).map (fun path => (path, Entry.directory)) ++
    [("/dev/null", Entry.void), ("/dev/zero", Entry.void)] ++
    toolNames.map fun name => ("/usr/bin/" ++ name, Entry.program name)

/-- The names that every program is told. -/
def firstBindings : List (String × Binding) :=
  [("HOME", ⟨some "/root", true, false⟩),
    ("PATH", ⟨some "/usr/local/sbin:/usr/local/bin:/usr/sbin:/usr/bin:/sbin:/bin", true, false⟩),
    ("PWD", ⟨some "/work", true, false⟩)]

/-- A shell that does nothing but to call programs. -/
def firstShell : Shell where
  name := ""
  arguments := []
  bindings := firstBindings
  functions := []
  aliases := []
  streams := [(0, 0), (1, 1), (2, 2)]
  directory := "/work"
  status := 0
  innerStatus := 0
  line := 0
  builtin := none
  options := []
  traps := []
  pending := []
  texts := []
  loops := 0
  locals := []
  mask := 0o022
  process := 4000
  leader := 4000
  waiting := []
  background := none
  optionIndex := 1
  optionOffset := none

/-- The machine without scratch files; its first texts are what is printed. -/
def firstWorld : World where
  stores := #["", ""]
  cursor := none
  entries := firstEntries
  opens := #[⟨none, 0, false, true, false, false, false⟩, ⟨some 0, 0, true, false, true, true, false⟩,
    ⟨some 1, 0, true, false, true, true, false⟩]
  processes := 4001
  signals := []
  jobs := []
  shell := firstShell

/-- The machine before a call. -/
def worldOf (call : ProgramCall) : World :=
  let (w, store) := firstWorld.newStore (Bytes.ofText call.content)
  w.setEntry (w.fullPath firstShell.directory (Bytes.ofText call.path)) (some (.file store 0o600))

/-- The path of a new file with a name in a directory, if it can be made there. -/
def newPath? (directory name : String) : Option String :=
  let directory :=
    if directory.startsWith "/" then directory else firstShell.directory ++ "/" ++ directory
  let path := directory ++ (if directory.endsWith "/" then "" else "/") ++ name
  let full := firstWorld.fullPath "/" (Bytes.ofText directory)
  if directory.toList.contains '\x00' || Path.mostInPath < path.utf8ByteSize then none
  else if directories.contains full then some path
  else none

/-- How deep scripts may be nested, with the scripts that they run. -/
def mostLevels : Nat := 3000

/-- Why a program that is not there cannot be started. -/
def failureOf : Absence → StartFailure
  | .missing => .missing
  | .notDirectory => .notDirectory
  | .longName => .longName

/-- Calls a program and waits for it and for the jobs that it left. -/
def callProgram (words : List String) : Run ProgramOutcome := do
  let name := words.headD ""
  match ← (if name.isEmpty then pure .missing else findProgram name) with
  | .missing => return .notStarted (failureOf (← programAbsence name))
  | .forbidden => return .notStarted .forbidden
  | .found _ program =>
    let evaluator := evaluator mostLevels
    let (status, signal) ← evaluator.start program words
    for job in (← get).jobs do
      if job.status.isNone then evaluator.runJob job
    let stores := (← get).stores
    let text (store : Nat) : List UInt8 := Bytes.toList ((stores[store]?).getD "")
    return .ended (status == 0 && signal.isNone) (text 0) (text 1)

/-- How a call of a program ends. -/
def runProgram (call : ProgramCall) : ProgramOutcome :=
  let words := call.program :: call.arguments ++ [call.path]
  if words.any fun word => word.toList.contains '\x00' then .notStarted .nulByte
  else
    match ((callProgram (words.map Bytes.ofText)).run (worldOf call)).1 with
    | .ok outcome => outcome
    | .error _ => .ended false [] []

/-- The machine. -/
def host : Host where
  newPath? := newPath?
  run := runProgram

end StateExplorer.Shell
