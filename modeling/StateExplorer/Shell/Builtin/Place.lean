import StateExplorer.Shell.Builtin.Basic

/-!
# Builtin commands for directories and permissions

The directory at work is kept as it was written, with the parts that lead upwards taken out. The mask
holds the permissions that new files do not get.
-/

namespace StateExplorer.Shell.Builtin

open Run

/-- Makes a directory the one at work. -/
def enter (directory : String) : Run Unit := do
  let old := (← shell).directory
  change fun s => { s with directory := directory }
  setBinding "OLDPWD" (some ⟨some old, true, false⟩)
  setBinding "PWD" (some ⟨some directory, true, false⟩)

/-- The full path of a path as it is written, which keeps two slashes at its start. -/
def writtenPath (path : String) : Run String := do
  let directory := (← shell).directory
  let start := if Bytes.startsWith path "/" then path else directory
  let full := Path.written directory path
  return if Bytes.startsWith start "//" && !Bytes.startsWith start "///" then "/" ++ full else full

/-- Whether a path is never looked for in other directories. -/
def isAnchored (path : String) : Bool :=
  Bytes.startsWith path "/" || path == "." || path == ".." || Bytes.startsWith path "./" ||
    Bytes.startsWith path "../"

/-- The first directory in which a path names a directory, as a path to it. -/
def searchDirectory (path : String) : List String → Run (Option String)
  | [] => return none
  | start :: rest => do
    let candidate := if start.isEmpty then path else start ++ "/" ++ path
    match ← entryAt candidate with
    | some .directory => return some candidate
    | _ => searchDirectory path rest

/-- Whether the last of the options asks for the path that leads to a directory itself. -/
def isPhysical (given : List Given) : Bool := given.getLast?.any (·.letter == 'P')

/-- Goes to a directory. -/
def cd (arguments : List String) : Run Nat := do
  let (given, words) ← options [('L', false), ('P', false)] arguments
  let home := (← value? "HOME").getD ""
  let (target, shows) ← match words.head? with
    | none => pure (home, false)
    | some "-" => pure ((← value? "OLDPWD").getD "", true)
    | some path => pure (path, false)
  let path := if target.isEmpty then "." else target
  let others := (← value? "CDPATH").getD ""
  let found ←
    if isAnchored path || others.isEmpty then pure none
    else searchDirectory path (Bytes.split ':' others)
  let shows := shows || found.any (· != path)
  let path := found.getD path
  let directory ← if isPhysical given then pure path else writtenPath path
  match ← entryAt directory with
  | some .directory =>
    enter (← if isPhysical given then fullPath path else pure directory)
    if shows then print ((← shell).directory ++ "\n")
    return 0
  | _ => fail ("can't cd to " ++ path)

/-- Prints the directory at work. -/
def pwd (arguments : List String) : Run Nat := do
  let (given, _) ← options [('L', false), ('P', false)] arguments
  let directory ← if isPhysical given then fullPath "." else do pure (← shell).directory
  print (directory ++ "\n")
  return 0

/-! ## Permissions of new files -/

/-- A number in octal digits, at least four of them. -/
def octalText (n : Nat) : String :=
  let digits := Nat.toDigits 8 n
  String.ofList (List.replicate (4 - digits.length) '0' ++ digits)

/-- The letters of the permissions in the last three bits of a number. -/
def permissionLetters (mode : Nat) : String :=
  (if mode &&& 4 != 0 then "r" else "") ++ (if mode &&& 2 != 0 then "w" else "") ++
    (if mode &&& 1 != 0 then "x" else "")

/-- The bits of a permission letter for everyone. -/
def permissionBits : Char → Option Nat
  | 'r' => some 0o444
  | 'w' => some 0o222
  | 'x' => some 0o111
  | 'X' => some 0o111
  | 's' => some 0
  | 't' => some 0
  | _ => none

/-- The bits of those whom a letter names. -/
def ownerBits : Char → Option Nat
  | 'u' => some 0o700
  | 'g' => some 0o070
  | 'o' => some 0o007
  | 'a' => some 0o777
  | _ => none

/-- Changes permissions by a clause such as `g+rw`. -/
def changeMode (mode : Nat) (clause : List Char) : Option Nat := do
  let (owners, rest) := clause.span fun c => (ownerBits c).isSome
  let who := if owners.isEmpty then 0o777 else owners.foldl (fun n c => n ||| (ownerBits c).getD 0) 0
  match rest with
  | op :: letters =>
    let bits ← letters.mapM permissionBits
    let bits := who &&& bits.foldl (· ||| ·) 0
    match op with
    | '+' => some (mode ||| bits)
    | '-' => some (mode &&& (0o7777 ^^^ bits))
    | '=' => some ((mode &&& (0o7777 ^^^ who)) ||| bits)
    | _ => none
  | [] => none

/-- Permissions after clauses between commas. -/
def changeModes (mode : Nat) (text : String) : Option Nat :=
  (Bytes.split ',' text).foldlM (fun mode clause => changeMode mode clause.toList) mode

/-- The value of a text of octal digits. -/
def octal? (text : String) : Option Nat :=
  let (n, count, rest) := spanDigits 8 text.toList
  if count == 0 || !rest.isEmpty then none else some n

/-- Tells or sets which permissions new files lack. -/
def umask (arguments : List String) : Run Nat := do
  let (given, words) ← options [('S', false)] arguments
  let mask := (← shell).mask
  match words with
  | [] =>
    if given.isEmpty then print (octalText mask ++ "\n")
    else
      let mode := 0o777 ^^^ mask
      print ("u=" ++ permissionLetters (mode / 64) ++ ",g=" ++ permissionLetters (mode / 8 % 8) ++
        ",o=" ++ permissionLetters (mode % 8) ++ "\n")
  | text :: _ =>
    match text.toList with
    | c :: _ =>
      if c.isDigit then
        match octal? text with
        | some n => change fun s => { s with mask := n &&& 0o777 }
        | none => fail ("Illegal number: " ++ text)
      else
        match changeModes (0o777 ^^^ mask) text with
        | some mode => change fun s => { s with mask := (0o777 ^^^ mode) &&& 0o777 }
        | none => fail ("Illegal mode: " ++ text)
    | [] => fail "Illegal mode: "
  return 0

end StateExplorer.Shell.Builtin
