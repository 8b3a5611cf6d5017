import StateExplorer.Shell.Builtin.Basic

/-!
# Builtin commands for processes and signals

Jobs run when they are waited for, and signals are kept until the script comes to them. A trap is a
text that is run for a signal or at the end.
-/

namespace StateExplorer.Shell.Builtin

open Run

/-- How `kill` is called. -/
def killUsage : String :=
  "Usage: kill [-s sigspec | -signum | -sigspec] [pid | job]... or\nkill -l [exitstatus]"

/-- The signal that is to be sent, if the arguments say one, whether names are to be listed, and the
other arguments. -/
def killOptions (arguments : List String) : Run (Option Nat × Bool × List String) := do
  match arguments with
  | first :: rest =>
    match first.toList with
    | '-' :: c :: name =>
      match signalOf? (String.ofList (c :: name)) with
      | some signal => return (some signal, false, rest)
      | none =>
        let (given, words) ← options [('l', false), ('s', true)] arguments
        let signal ← match given.reverse.find? (·.letter == 's') with
          | some g =>
            match signalOf? g.value with
            | some signal => pure (some signal)
            | none => fail ("invalid signal number or name: " ++ g.value)
          | none => pure none
        return (signal, given.any (·.letter == 'l'), words)
    | _ => return (none, false, arguments)
  | [] => return (none, false, [])

/-- Sends a signal to processes; fails where one of them is not there. -/
def sendAll (signal : Nat) : List String → (status : Nat) → Run Nat
  | [], status => return status
  | word :: rest, status => do
    if Bytes.startsWith word "%" then fail ("No such job: " ++ word)
    let found ←
      if Bytes.startsWith word "-" then do
        let n ← number (Bytes.drop 1 word)
        sendSignal n signal
      else sendSignal (← number word) signal
    if !found then warn "No such process\n"
    sendAll signal rest (if found then status else 1)

/-- Sends signals, or lists their names. -/
def kill (arguments : List String) : Run Nat := do
  let (signal, lists, words) ← killOptions arguments
  if lists then
    if signal.isSome then fail killUsage
    match words with
    | [] => print ("0\n" ++ Bytes.unlines signalNames.tail)
    | word :: _ =>
      let n ← number word
      let n := if 128 < n then n - 128 else n
      if 0 < n && n < signalNames.length then print (signalName n ++ "\n")
      else fail ("invalid signal number or exit status: " ++ word)
    return 0
  else
    if words.isEmpty then fail killUsage
    sendAll (signal.getD 15) words 0

/-- Gives signals an action, or lists the actions. -/
def trap (arguments : List String) : Run Nat := do
  let words ← operands arguments
  match words with
  | [] =>
    let traps := (← shell).traps
    print (String.join (signalNames.filterMap fun name =>
      (traps.lookup name).map fun action =>
        "trap -- " ++ inQuotes action ++ " " ++ name ++ "\n"))
    return 0
  | first :: rest =>
    let isNumber := (Bytes.nat? first).any (· < signalNames.length)
    let (action, names) := if rest.isEmpty || isNumber then ("-", words) else (first, rest)
    setTraps action names
where
  /-- Gives each of some signals an action. -/
  setTraps (action : String) : List String → Run Nat
    | [] => return 0
    | name :: names => do
      match signalOf? name with
      | none =>
        printError ("trap: " ++ name ++ ": bad trap\n")
        return 1
      | some signal =>
        let name := signalName signal
        change fun s =>
          let others := s.traps.filter (·.1 != name)
          { s with traps := if action == "-" then others else (name, action) :: others }
        setTraps action names

/-- Waits for jobs; the status is that of the last one. -/
def wait (evaluator : Evaluator) (arguments : List String) : Run Nat := do
  let words ← operands arguments
  let process := (← shell).process
  if words.isEmpty then
    evaluator.runJobs process true
    receiveSignals
    return 0
  else
    let mut status := 127
    for word in words do
      if Bytes.startsWith word "%" then fail ("No such job: " ++ word)
      let n ← number word
      match (← get).jobs.find? fun j => j.process == n && j.parent == process with
      | none => status := 127
      | some _ =>
        for job in (← get).jobs do
          if job.parent == process && job.process ≤ n then
            match (← get).jobs.find? (·.process == job.process) with
            | some job => if job.status.isNone then evaluator.runJob job
            | none => pure ()
        receiveSignals
        match (← get).jobs.find? (·.process == n) with
        | some job =>
          status := job.status.getD 0
          match job.signal.bind signalText? with
          | some text =>
            printError (text ++ "\n")
            let told (j : Job) : Job := if j.process == n then { j with signal := none } else j
            modify fun w => { w with jobs := w.jobs.map told }
          | none => pure ()
        | none => pure ()
    return status

/-- Lists jobs that have not ended. -/
def jobs (_arguments : List String) : Run Nat := return 0

/-- Refuses to take up a job, as there is no terminal. -/
def resume (_arguments : List String) : Run Nat := fail "No current job"

/-- Tells how long the shell and its children have been at work. -/
def times (_arguments : List String) : Run Nat := do
  print "0m0.000000s 0m0.000000s\n0m0.000000s 0m0.000000s\n"
  return 0

/-- Tells what is limited. -/
def ulimit (arguments : List String) : Run Nat := do
  let _ ← options ("HSatfdscmlpnvwr".toList.map fun c => (c, false)) arguments
  print "unlimited\n"
  return 0

end StateExplorer.Shell.Builtin
