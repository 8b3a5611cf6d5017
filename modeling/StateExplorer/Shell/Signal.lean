import StateExplorer.Shell.World

/-!
# Signals

A signal reaches a process when it is sent, or, if another process is at work, when that one has
ended. A shell may have an action for a signal, which it runs before its next command; without one
most signals stop it.
-/

namespace StateExplorer.Shell

open Run

/-- The names of the signals in the order of their numbers; the end of a shell counts as number
zero. -/
def signalNames : List String :=
  ["EXIT", "HUP", "INT", "QUIT", "ILL", "TRAP", "ABRT", "BUS", "FPE", "KILL", "USR1", "SEGV",
    "USR2", "PIPE", "ALRM", "TERM", "16", "CHLD", "CONT", "STOP", "TSTP", "TTIN", "TTOU", "URG",
    "XCPU", "XFSZ", "VTALRM", "PROF", "WINCH", "IO", "PWR", "SYS", "32", "33", "RTMIN"] ++
  (List.range 15).map (fun n => "RTMIN+" ++ toString (n + 1)) ++
  (List.range 14).map (fun n => "RTMAX-" ++ toString (14 - n)) ++ ["RTMAX"]

/-- The name of a signal. -/
def signalName (signal : Nat) : String := (signalNames[signal]?).getD ""

/-- The signal that a text names, by its number or its name, or by its number alone. -/
def signalOf? (text : String) : Option Nat :=
  match Bytes.nat? text with
  | some n => if n < signalNames.length then some n else none
  | none =>
    signalNames.findIdx? fun name => name.toList.map Char.toLower == text.toList.map Char.toLower

/-- The message about a child that a signal stopped, where there is one. -/
def signalText? (signal : Nat) : Option String :=
  match signal with
  | 1 => some "Hangup"
  | 3 => some "Quit"
  | 4 => some "Illegal instruction"
  | 5 => some "Trace/breakpoint trap"
  | 6 => some "Aborted"
  | 7 => some "Bus error"
  | 8 => some "Floating point exception"
  | 9 => some "Killed"
  | 10 => some "User defined signal 1"
  | 11 => some "Segmentation fault"
  | 12 => some "User defined signal 2"
  | 14 => some "Alarm clock"
  | 15 => some "Terminated"
  | _ => none

/-- Whether a signal that nobody cares for does nothing. -/
def isHarmless (signal : Nat) : Bool := [0, 17, 18, 19, 20, 21, 22, 23, 28].contains signal

/-- Lets the shell have a signal: it is kept for its action, forgotten, or stops the shell. -/
def receiveSignal (signal : Nat) : Run Unit := do
  let s ← shell
  match if signal == 9 then none else s.traps.lookup (signalName signal) with
  | some "" => pure ()
  | some _ =>
    let name := signalName signal
    change fun s => { s with
      pending := if s.pending.contains name then s.pending else s.pending ++ [name] }
  | none => if isHarmless signal then pure () else throw (.killed s.process signal)

/-- Lets the shell have the signals that were sent to it. -/
def receiveSignals : Run Unit := do
  let process := (← shell).process
  let mine := (← get).signals.filter (·.1 == process)
  modify fun w => { w with signals := w.signals.filter (·.1 != process) }
  for (_, signal) in mine.reverse do
    receiveSignal signal

/-- Sends a signal to a process; fails where there is none. -/
def sendSignal (process signal : Nat) : Run Bool := do
  let w ← get
  if process == w.shell.process then
    receiveSignal signal
    return true
  else
    match w.jobs.find? (·.process == process) with
    | some job =>
      if job.status.isSome then return false
      let ignored := (job.shell.traps.lookup (signalName signal)).any (·.isEmpty)
      if !isHarmless signal && !ignored then
        let stop (j : Job) : Job :=
          if j.process == process then
            { j with status := some (128 + signal), signal := some signal }
          else j
        set { w with jobs := w.jobs.map stop }
      return true
    | none =>
      if w.shell.waiting.contains process || process == 1 then
        if signal != 0 then set { w with signals := (process, signal) :: w.signals }
        return true
      else return false

/-- Runs the actions of the signals that came; what they leave as status does not count. -/
def runActions (run : String → Run Unit) : Run Unit := do
  match (← shell).pending with
  | [] => pure ()
  | names =>
    change fun s => { s with pending := [] }
    for name in names do
      match (← shell).traps.lookup name with
      | some action =>
        let status := (← shell).status
        run action
        setStatus status
      | none => pure ()

end StateExplorer.Shell
