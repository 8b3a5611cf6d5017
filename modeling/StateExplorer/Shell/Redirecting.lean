import StateExplorer.Shell.Expansion

/-!
# Redirecting streams

First the words of redirections are expanded, then one stream after another is led elsewhere. What
the streams led to before is kept until the command has ended.
-/

namespace StateExplorer.Shell

open Run

/-- A redirection whose words are expanded. -/
inductive Lead
  | read (path : String)
  | write (clobbers : Bool) (path : String)
  | append (path : String)
  | readWrite (path : String)
  | stream (number : Nat)
  | closed
  | text (text : String)

/-- Expands the words of redirections. -/
def Evaluator.leads (evaluator : Evaluator) : List Redirection → Run (List (Nat × Lead))
  | [] => return []
  | .mk stream target :: rest => do
    let lead ← match target with
      | .read path => do pure (Lead.read (← evaluator.wordText path))
      | .write clobbers path => do pure (Lead.write clobbers (← evaluator.wordText path))
      | .append path => do pure (Lead.append (← evaluator.wordText path))
      | .readWrite path => do pure (Lead.readWrite (← evaluator.wordText path))
      | .stream number => pure (Lead.stream number)
      | .closed => pure Lead.closed
      | .computed word => do
        match (← evaluator.wordText word).toList with
        | ['-'] => pure Lead.closed
        | [d] =>
          if d.isDigit then pure (Lead.stream (d.toNat - '0'.toNat))
          else fail "Syntax error: Bad fd number"
        | _ => fail "Syntax error: Bad fd number"
      | .text number => do
        match (← shell).texts.lookup number with
        | some word => do pure (Lead.text (← evaluator.linesText word))
        | none => pure (Lead.text "")
    return (stream, lead) :: (← evaluator.leads rest)

/-- The stream that a path is another name for. -/
def streamOf? (full : String) : Option Nat :=
  match full with
  | "/dev/stdin" => some 0
  | "/dev/stdout" => some 1
  | "/dev/stderr" => some 2
  | _ =>
    if Bytes.startsWith full "/dev/fd/" then Bytes.nat? (Bytes.drop 8 full)
    else if Bytes.startsWith full "/proc/self/fd/" then Bytes.nat? (Bytes.drop 14 full)
    else none

/-- Opens a path for reading. -/
def openRead (path : String) : Run Nat := do
  match streamOf? (← fullPath path) with
  | some stream =>
    match (← shell).streams.lookup stream with
    | some id => return id
    | none => fail ("cannot open " ++ path ++ ": No such file")
  | none =>
    match ← entryAt path with
    | some (.file store _) => openNew ⟨some store, 0, false, true, false, false, false⟩
    | some .directory => openNew ⟨none, 0, false, true, false, false, true⟩
    | some _ => openNew ⟨none, 0, false, true, false, false, false⟩
    | none => cannotOpen path

/-- Opens a path for writing; `empties` drops what a file held. -/
def openWrite (path : String) (empties appends reads keeps : Bool) : Run Nat := do
  match streamOf? (← fullPath path) with
  | some stream =>
    match (← shell).streams.lookup stream with
    | some id => return id
    | none => fail ("cannot create " ++ path ++ ": Directory nonexistent")
  | none =>
    match ← entryAt path with
    | some .directory => fail ("cannot create " ++ path ++ ": Is a directory")
    | some (.program _) => fail ("cannot create " ++ path ++ ": Text file busy")
    | some .void => openNew ⟨none, 0, appends, reads, true, false, false⟩
    | some (.file ..) =>
      if keeps then fail ("cannot create " ++ path ++ ": File exists")
      if empties then
        let _ ← writeFile path ""
      openFile
    | none =>
      if path.isEmpty || !(← writeFile path "") then cannotCreate path
      openFile
where
  /-- Opens a path that names a file. -/
  openFile : Run Nat := do
    match ← entryAt path with
    | some (.file store _) => openNew ⟨some store, 0, appends, reads, true, false, false⟩
    | _ => fail ("cannot create " ++ path ++ ": Directory nonexistent")

/-- What a stream is to lead to. -/
def openLead (lead : Lead) : Run (Option Nat) := do
  match lead with
  | .read path => return some (← openRead path)
  | .write clobbers path =>
    let keeps := !clobbers && (← hasOption 'C')
    return some (← openWrite path true false false keeps)
  | .append path => return some (← openWrite path false true false false)
  | .readWrite path => return some (← openWrite path false false true false)
  | .stream number =>
    match (← shell).streams.lookup number with
    | some id => return some id
    | none => fail (toString number ++ ": Bad file descriptor")
  | .closed => return none
  | .text text =>
    let store ← storeNew text
    return some (← openNew ⟨some store, 0, false, true, false, true, false⟩)

/-- Leads streams elsewhere, and gives what they led to before, the last one first. Where that fails,
they lead to what they led to before. -/
def redirect : (kept : List (Nat × Option Nat)) → List (Nat × Lead) →
    Run (List (Nat × Option Nat))
  | kept, [] => return kept
  | kept, (stream, lead) :: rest => do
    let id ← (try openLead lead
      catch e =>
        restore kept
        throw e)
    let old := (← shell).streams.lookup stream
    setStream stream id
    redirect ((stream, old) :: kept) rest
where
  /-- Leads streams back to what they led to. -/
  restore (kept : List (Nat × Option Nat)) : Run Unit := do
    for (stream, id) in kept do
      setStream stream id

/-- Leads streams back to what they led to before. -/
def restoreStreams (kept : List (Nat × Option Nat)) : Run Unit := redirect.restore kept

end StateExplorer.Shell
