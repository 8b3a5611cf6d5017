import StateExplorer.Shell.Tool.Basic

/-!
# Making and removing files

What is made needs a directory to stand in, a name that is not taken and one that is not too long. What
is removed must be there, and a directory must be empty unless all that is in it goes too.
-/

namespace StateExplorer.Shell

/-- The full paths of what is below a full path, deepest first within each directory. -/
def World.below (w : World) : (more : Nat) → (path : String) → List String
  | 0, _ => []
  | more + 1, path =>
    (w.names path).flatMap fun name =>
      let inner := if path == "/" then "/" ++ name else path ++ "/" ++ name
      match w.entryAt inner with
      | some .directory => w.below more inner ++ [inner]
      | _ => [inner]

namespace Tool

open Run

/-- How deep directories are looked into. -/
def mostDirectories : Nat := 1000

/-- Gives a full path another entry, or none. -/
def putEntry (path : String) (entry : Option Entry) : Run Unit :=
  modify fun w => w.setEntry path entry

/-- The name of something in a directory, as it is reported. -/
def within (path name : String) : String :=
  if path.toList.getLast? == some '/' then path ++ name else path ++ "/" ++ name

/-! ## Removing -/

/-- Removes what is at a path, and tells of each thing that is removed if that is wanted. -/
def removeAll (tells : Bool) : (more : Nat) → (path : String) → Run Unit
  | 0, _ => return
  | more + 1, path => do
    let full ← fullPath path
    match (← get).entryAt full with
    | some .directory =>
      for name in (← get).names full do
        removeAll tells more (within path name)
      putEntry full none
      if tells then print ("removed directory " ++ quotedPath path ++ "\n")
    | some _ =>
      putEntry full none
      if tells then print ("removed " ++ quotedPath path ++ "\n")
    | none => pure ()

/-- Removes files and directories. -/
def rm : Tool := fun _ name arguments =>
  withOptions name 1 (options (flags [('f', "force"), ('r', "recursive"), ('R', ""), ('d', "dir"),
      ('v', "verbose"), ('i', ""), ('I', ""), ('N', "no-preserve-root")]) arguments) fun given paths => do
    let forced := has given 'f'
    let recursive := has given 'r' || has given 'R'
    if paths.isEmpty then
      if forced then return 0
      misuse name "missing operand"
      return 1
    let mut status := 0
    for path in paths do
      let cannot (why : String) : Run Unit :=
        complain name ("cannot remove " ++ quotedPath path ++ ": " ++ why)
      match ← entryAt path with
      | none =>
        if !forced then
          cannot (← whyMissing path)
          status := 1
      | some .directory =>
        let full ← fullPath path
        let last := ((Bytes.split '/' path).filter (!·.isEmpty)).getLast?
        if !recursive && !has given 'd' then
          cannot "Is a directory"
          status := 1
        else if last == some "." || last == some ".." then
          complain name ("refusing to remove '.' or '..' directory: skipping " ++ quotedPath path)
          status := 1
        else if full == "/" then
          complain name "it is dangerous to operate recursively on '/'"
          complain name "use --no-preserve-root to override this failsafe"
          status := 1
        else if !recursive && !((← get).names full).isEmpty then
          cannot "Directory not empty"
          status := 1
        else removeAll (has given 'v') mostDirectories path
      | some _ => removeAll (has given 'v') 1 path
    return status

/-- The paths above a path as it is written, the longest first. -/
def pathsAbove (path : String) : List String :=
  let parts := (Bytes.split '/' path).filter (!·.isEmpty)
  let start := if Bytes.startsWith path "/" then "/" else ""
  ((List.range parts.length).drop 1).reverse.map fun n => start ++ "/".intercalate (parts.take n)

/-- Removes directories that are empty. -/
def rmdir : Tool := fun _ name arguments =>
  withOptions name 1 (options (flags [('p', "parents"), ('v', "verbose"),
      ('e', "ignore-fail-on-non-empty")]) arguments) fun given paths => do
    if paths.isEmpty then
      misuse name "missing operand"
      return 1
    let mut status := 0
    for path in paths do
      let mut goesOn := true
      for path in if has given 'p' then path :: pathsAbove path else [path] do
        if goesOn then
          if has given 'v' then print (name ++ ": removing directory, " ++ quotedPath path ++ "\n")
          let full ← fullPath path
          let isEmpty := ((← get).names full).isEmpty
          let failure ← match ← entryAt path with
            | none => do pure (some (← whyMissing path))
            | some .directory => pure (if isEmpty then none else some "Directory not empty")
            | some _ => pure (some "Not a directory")
          match failure with
          | none => putEntry full none
          | some why =>
            goesOn := false
            if !(has given 'e' && why == "Directory not empty") then
              complain name ("failed to remove " ++ quotedPath path ++ ": " ++ why)
              status := 1
    return status

/-! ## Making -/

/-- Makes a directory; tells why it cannot be made. -/
def makeDirectory (path : String) : Run (Option String) := do
  let full ← fullPath path
  if path.isEmpty then return some Absence.missing.message
  match (← get).entryAt full with
  | some _ => return some "File exists"
  | none =>
    match ← obstacle? path with
    | none =>
      putEntry full (some .directory)
      return none
    | some why => return some why.message

/-- Whether a text is the mode of a file: digits, or who may do what. -/
def isMode (text : String) : Bool :=
  let isDigits := !text.isEmpty && text.length ≤ 5 &&
    text.toList.all fun c => '0' ≤ c && c ≤ '7'
  let isClause (clause : String) : Bool :=
    let rest := clause.toList.dropWhile fun c => ['u', 'g', 'o', 'a'].contains c
    match rest with
    | op :: rest =>
      ['+', '-', '='].contains op &&
        rest.all fun c => ['r', 'w', 'x', 'X', 's', 't', 'u', 'g', 'o', '+', '-', '='].contains c
    | [] => false
  isDigits || (Bytes.split ',' text).all isClause

/-- Makes directories. -/
def mkdir : Tool := fun _ name arguments =>
  withOptions name 1 (options (flags [('p', "parents"), ('v', "verbose"), ('Z', "")] ++
      valued [('m', "mode")]) arguments) fun given paths => do
    if paths.isEmpty then
      misuse name "missing operand"
      return 1
    match (value? given 'm').filter (!isMode ·) with
    | some mode =>
      complain name ("invalid mode " ++ quoted mode)
      return 1
    | none =>
      let mut status := 0
      for path in paths do
        let mut goesOn := true
        let all := if has given 'p' then (pathsAbove path).reverse ++ [path] else [path]
        for path in all do
          if goesOn then
            let isThere := match ← entryAt path with
              | some .directory => true
              | _ => false
            if !(has given 'p' && isThere) then
              match ← makeDirectory path with
              | none =>
                if has given 'v' then
                  print (name ++ ": created directory " ++ quotedPath path ++ "\n")
              | some why =>
                let why := if has given 'p' && why == "File exists" && path != all.getLastD ""
                  then "Not a directory" else why
                complain name ("cannot create directory " ++ quotedPath path ++ ": " ++ why)
                goesOn := false
                status := 1
      return status

/-- Makes files that are missing. -/
def touch : Tool := fun _ name arguments =>
  withOptions name 1 (options (flags [('a', ""), ('c', "no-create"), ('m', ""), ('f', ""),
      ('h', "no-dereference")] ++ valued [('d', "date"), ('r', "reference"), ('t', ""), ('T', "time")])
      arguments) fun given paths => do
    if paths.isEmpty then
      misuse name "missing file operand"
      return 1
    let mut status := 0
    for path in paths do
      let made ← match ← entryAt path with
        | some _ => pure true
        | none =>
          if has given 'c' || path == "-" then pure true
          else if path.isEmpty then pure false
          else writeFile path ""
      if !made then
        let couldBe := Path.endsInSlash path && (← obstacle? path).isNone
        complain name ((if couldBe then "setting times of " else "cannot touch ") ++
          quotedPath path ++ ": " ++ (← whyMissing path))
        status := 1
    return status

/-- A text of a size that depends on a number, for names that must be new. -/
def newLetters (size number : Nat) : String :=
  let letters := "abcdefghijklmnopqrstuvwxyzABCDEFGHIJKLMNOPQRSTUVWXYZ0123456789".toList
  String.ofList ((List.range size).map fun i =>
    letters.getD ((number * 7919 + (i + 1) * (number + 31) * 104729) % letters.length) 'a')

/-- Makes a file or a directory with a new name. -/
def mktemp : Tool := fun _ name arguments =>
  withOptions name 1 (options (flags [('d', "directory"), ('u', "dry-run"), ('q', "quiet"),
      ('t', "")] ++ valued [('S', "suffix")] ++ [⟨'p', "tmpdir", .perhaps⟩])
      (separated arguments)) fun given words => do
    match words with
    | _ :: _ :: _ =>
      misuse name "too many templates"
      return 1
    | words =>
      let template := words.headD "tmp.XXXXXXXXXX"
      let directory ←
        if words.isEmpty || has given 'p' || has given 't' then do
          let usual := ((← Run.value? "TMPDIR").filter (!·.isEmpty)).getD "/tmp"
          pure (some (((value? given 'p').filter (!·.isEmpty)).getD usual))
        else pure none
      let ending := match value? given 'S' with
        | some ending => ending
        | none => String.ofList (template.toList.reverse.takeWhile (· != 'X')).reverse
      let front := if (value? given 'S').isSome then template
        else Bytes.take (template.length - ending.length) template
      let start := String.ofList (front.toList.reverse.dropWhile (· == 'X')).reverse
      let marks := front.length - start.length
      if marks < 3 then
        complain name ("too few X's in template " ++ quoted template)
        return 1
      let whole (text : String) : String := match directory with
        | some directory => within directory text
        | none => text
      let title := whole (front ++ ending)
      let number := (← get).processes + (← get).entries.length + (← get).stores.size
      let path := whole (start ++ newLetters marks number ++ ending)
      let isDirectory := has given 'd'
      let failure ←
        if has given 'u' then pure none
        else if isDirectory then makeDirectory path
        else do
          let made ← writeFile path ""
          if made then
            let full ← fullPath path
            match (← get).entryAt full with
            | some (.file store _) => putEntry full (some (.file store 0o600))
            | _ => pure ()
          if made then pure none else do pure (some (← whyMissing path))
      match failure with
      | none =>
        print (path ++ "\n")
        return 0
      | some why =>
        if !has given 'q' then
          complain name ("failed to create " ++ (if isDirectory then "directory" else "file") ++
            " via template " ++ quoted title ++ ": " ++ why)
        return 1
where
  /-- Arguments in which the letter for a directory is written together with its value. -/
  separated : List String → List String
    | "-p" :: directory :: rest => ("-p" ++ directory) :: separated rest
    | argument :: rest => argument :: separated rest
    | [] => []

/-! ## Modes -/

/-- A mode after a clause such as `u+x`, for a file or a directory, with the mask of the shell. -/
def applyClause (mask : Nat) (clause : String) (mode : Nat) : Nat :=
  let (who, rest) := clause.toList.span fun c => ['u', 'g', 'o', 'a'].contains c
  let bits (c : Char) : Nat :=
    match c with
    | 'u' => 0o700
    | 'g' => 0o070
    | 'o' => 0o007
    | _ => 0o777
  let reach := if who.isEmpty then 0o777 &&& (0o777 ^^^ mask) else who.foldl (fun n c => n ||| bits c) 0
  let letter (c : Char) : Nat :=
    match c with
    | 'r' => 0o444
    | 'w' => 0o222
    | 'x' => 0o111
    | 'X' => if mode &&& 0o111 == 0 then 0 else 0o111
    | 'u' => (mode >>> 6 &&& 7) * 0o111
    | 'g' => (mode >>> 3 &&& 7) * 0o111
    | 'o' => (mode &&& 7) * 0o111
    | _ => 0
  match rest with
  | op :: letters =>
    let value := letters.foldl (fun n c => n ||| letter c) 0 &&& reach
    match op with
    | '+' => mode ||| value
    | '-' => mode &&& (0o7777 ^^^ value)
    | _ => (mode &&& (0o7777 ^^^ (if who.isEmpty then 0o777 else reach))) ||| value
  | [] => mode

/-- The mode that a text makes of another one. -/
def changedMode (mask : Nat) (text : String) (mode : Nat) : Nat :=
  if text.toList.all Char.isDigit then (spanDigits 8 text.toList).1
  else (Bytes.split ',' text).foldl (fun mode clause => applyClause mask clause mode) mode

/-- Changes who may do what with files. -/
def chmod : Tool := fun _ name arguments =>
  let isPlain (argument : String) : Bool :=
    match argument.toList with
    | '-' :: c :: _ => ['r', 'w', 'x', 'X', 's', 't', 'u', 'g', 'o'].contains c
    | _ => false
  let (taken, others) := arguments.partition isPlain
  withOptions name 1 (options (flags [('R', "recursive"), ('f', "silent"), ('f', "quiet"),
      ('v', "verbose"), ('c', "changes")]) others) fun given words => do
    let words := taken ++ words
    match words with
    | [] =>
      misuse name "missing operand"
      return 1
    | [mode] =>
      misuse name ("missing operand after " ++ quotedPath mode)
      return 1
    | text :: paths =>
      if !isMode text then
        misuse name ("invalid mode: " ++ quoted text)
        return 1
      let mut status := 0
      for path in paths do
        let full ← fullPath path
        match ← entryAt path with
        | none =>
          if !has given 'f' then
            complain name ("cannot access " ++ quotedPath path ++ ": " ++ (← whyMissing path))
          status := 1
        | some (.file store mode) =>
          putEntry full (some (.file store (changedMode (← shell).mask text mode)))
        | some _ => pure ()
      return status

end Tool

end StateExplorer.Shell
