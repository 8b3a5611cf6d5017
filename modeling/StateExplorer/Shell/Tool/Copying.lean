import StateExplorer.Shell.Tool.Inspecting
import StateExplorer.Shell.Tool.Naming

/-!
# Copying, moving and listing files

Each of these programs takes paths and a target, which is the last path, a place in the directory that
it names, or the value of an option. A path that cannot be used is told of, and the others are still
served. A listing sorts names and puts directories after files.
-/

namespace StateExplorer.Shell.Tool

open Run

/-! ## Copying -/

/-- The text of something that is no directory. -/
def entryText (entry : Entry) : Run String := do
  match entry with
  | .file store _ => return ((← get).stores[store]?).getD ""
  | .program name => return "\x7fELF " ++ name ++ "\n"
  | _ => return ""

/-- How files are copied or moved. -/
structure Transfer where
  name : String
  recursive : Bool
  keeps : Bool
  tells : Bool

/-- Copies a file to a path where there is none yet, or into a file; tells whether it could. -/
def copyFile (path target : String) : Run Bool := do
  match ← entryAt path with
  | none => return false
  | some entry =>
    let text ← entryText entry
    let isNew := (← entryAt target).isNone
    let made ← writeFile target text
    if made && isNew then
      let full ← fullPath target
      let mask := (← shell).mask
      let mode := match entry with
        | .file _ mode => mode &&& (0o777 ^^^ mask)
        | .program _ => 0o755
        | _ => 0o644
      match (← get).entryAt full with
      | some (.file store _) => putEntry full (some (.file store mode))
      | _ => pure ()
    return made

/-- The words for why a path cannot even be looked for, if it cannot. -/
def unreachable? (path : String) : Run (Option String) := do
  if (← entryAt path).isSome then return none
  else
    match ← absence path with
    | .missing => return none
    | why => return some why.message

/-- Copies what is at a path to another path; tells whether it could. -/
def copyTo (t : Transfer) : (more : Nat) → (path target : String) → Run Bool
  | 0, _, _ => return true
  | more + 1, path, target => do
    let source ← fullPath path
    let full ← fullPath target
    let told : Run Unit := do
      if t.tells then print (quotedPath path ++ " -> " ++ quotedPath target ++ "\n")
    let lost ← unreachable? target
    match ← entryAt path with
    | none =>
      complain t.name ("cannot stat " ++ quotedPath path ++ ": " ++ (← whyMissing path))
      return false
    | some .directory =>
      if !t.recursive then
        complain t.name ("-r not specified; omitting directory " ++ quotedPath path)
        return false
      match (← get).entryAt full with
      | some .directory => pure ()
      | some _ =>
        complain t.name ("cannot overwrite non-directory " ++ quotedPath target ++
          " with directory " ++ quotedPath path)
        return false
      | none =>
        match ← makeDirectory target with
        | none => told
        | some why =>
          complain t.name ("cannot create directory " ++ quotedPath target ++ ": " ++ why)
          return false
      if full == source || Bytes.startsWith full (source ++ "/") then
        complain t.name ("cannot copy a directory, " ++ quotedPath path ++ ", into itself, " ++
          quotedPath target)
        return false
      let mut done := true
      for name in (← get).names source do
        let copied ← copyTo t more (within path name) (within target name)
        done := done && copied
      return done
    | some _ =>
      if let some why := lost then
        complain t.name ("cannot stat " ++ quotedPath target ++ ": " ++ why)
        return false
      if full == source then
        complain t.name (quotedPath path ++ " and " ++ quotedPath target ++ " are the same file")
        return false
      match (← get).entryAt full with
      | some .directory =>
        complain t.name ("cannot overwrite directory " ++ quotedPath target ++
          " with non-directory")
        return false
      | some _ =>
        if t.keeps then return true
        told
        copyFile path target
      | none =>
        let why ← whyMissing target
        let made ← copyFile path target
        if made then
          told
          return true
        else
          complain t.name ("cannot create regular file " ++ quotedPath target ++ ": " ++
            if Path.endsInSlash target then Absence.notDirectory.message else why)
          return false

/-! ## Moving -/

/-- Moves what is at a path to another path; tells whether it could. -/
def moveTo (t : Transfer) (path target : String) : Run Bool := do
  let source ← fullPath path
  let full ← fullPath target
  let moved (entry : Entry) : Run Bool := do
    let inside := (← get).entries.filterMap fun (other, entry) =>
      if Bytes.startsWith other (source ++ "/") then some (other, entry) else none
    for (other, _) in inside do putEntry other none
    putEntry source none
    putEntry full (some entry)
    for (other, entry) in inside do
      putEntry (full ++ Bytes.drop source.length other) (some entry)
    if t.tells then print ("renamed " ++ quotedPath path ++ " -> " ++ quotedPath target ++ "\n")
    return true
  match ← entryAt path with
  | none =>
    complain t.name ("cannot stat " ++ quotedPath path ++ ": " ++ (← whyMissing path))
    return false
  | some entry =>
    let isDirectory := match entry with
      | .directory => true
      | _ => false
    if let some why ← unreachable? target then
      complain t.name ("cannot stat " ++ quotedPath target ++ ": " ++ why)
      return false
    if full == source then
      complain t.name (quotedPath path ++ " and " ++ quotedPath target ++ " are the same file")
      return false
    if isDirectory && Bytes.startsWith full (source ++ "/") then
      complain t.name ("cannot move " ++ quotedPath path ++ " to a subdirectory of itself, " ++
        quotedPath target)
      return false
    let cannot (why : String) : Run Bool := do
      complain t.name ("cannot move " ++ quotedPath path ++ " to " ++ quotedPath target ++ ": " ++
        why)
      return false
    match (← get).entryAt full, isDirectory with
    | some .directory, false =>
      complain t.name ("cannot overwrite directory " ++ quotedPath target ++
        " with non-directory " ++ quotedPath path)
      return false
    | some .directory, true =>
      if ((← get).names full).isEmpty then moved entry
      else
        complain t.name ("cannot overwrite " ++ quotedPath target ++ ": Directory not empty")
        return false
    | some _, true =>
      complain t.name ("cannot overwrite non-directory " ++ quotedPath target ++
        " with directory " ++ quotedPath path)
      return false
    | some _, false =>
      if t.keeps then
        complain t.name ("not replacing " ++ quotedPath target)
        return false
      else moved entry
    | none, _ =>
      match ← obstacle? target with
      | none =>
        if !isDirectory && Path.endsInSlash target then cannot Absence.notDirectory.message
        else moved entry
      | some why => cannot why.message

/-- Gives what is at a path another name as well; tells whether it could. -/
def linkTo (t : Transfer) (forced : Bool) (path target : String) : Run Bool := do
  let full ← fullPath target
  match ← entryAt path with
  | none =>
    complain t.name ("failed to access " ++ quotedPath path ++ ": " ++ (← whyMissing path))
    return false
  | some .directory =>
    complain t.name (shownPath path ++ ": hard link not allowed for directory")
    return false
  | some entry =>
    let cannot (why : String) : Run Bool := do
      complain t.name ("failed to create hard link " ++ quotedPath target ++ why)
      return false
    match (← get).entryAt full with
    | some _ =>
      if forced then
        putEntry full (some entry)
        return true
      else cannot ": File exists"
    | none =>
      match ← obstacle? target with
      | none =>
        if Path.endsInSlash target then
          cannot (" => " ++ quotedPath path ++ ": " ++ Absence.missing.message)
        else
          putEntry full (some entry)
          if t.tells then print (quotedPath target ++ " => " ++ quotedPath path ++ "\n")
          return true
      | some why => cannot (" => " ++ quotedPath path ++ ": " ++ why.message)

/-- The words for why nothing can be put inside of a path. -/
def whyNotInside (path : String) : Run String := do
  if (← entryAt path).isSome then return Absence.notDirectory.message else whyMissing path

/-- Carries out a step for each path and the target that is meant for it: the last path, or a place
in the directory that it is. -/
def transfer (name : String) (given : List Given) (paths : List String)
    (step : String → String → Run Bool) : Run Nat := do
  let isDirectory (path : String) : Run Bool := do
    match ← entryAt path with
    | some .directory => return true
    | _ => return false
  let each (directory : String) (paths : List String) : Run Nat := do
    let mut done := true
    for path in paths do
      let part := lastPart path
      let target := if part == "." || part == ".." then directory else within directory part
      let one ← step path target
      done := done && one
    return if done then 0 else 1
  match value? given 't', paths with
  | some directory, paths =>
    if paths.isEmpty then
      misuse name "missing file operand"
      return 1
    if ← isDirectory directory then each directory paths
    else
      complain name ("target directory " ++ quotedPath directory ++ ": " ++
        (← whyNotInside directory))
      return 1
  | none, [] =>
    misuse name "missing file operand"
    return 1
  | none, [path] =>
    if name == "ln" then
      let target := lastPart path
      let done ← step path target
      return if done then 0 else 1
    misuse name ("missing destination file operand after " ++ quotedPath path)
    return 1
  | none, [path, target] =>
    let inside ← isDirectory target
    if inside && !has given 'T' then each target [path]
    else
      let done ← step path target
      return if done then 0 else 1
  | none, paths =>
    let target := paths.getLastD ""
    if has given 'T' then
      misuse name ("extra operand " ++ quotedPath ((paths[2]?).getD ""))
      return 1
    if ← isDirectory target then each target paths.dropLast
    else
      complain name ("target " ++ quotedPath target ++ ": " ++ (← whyNotInside target))
      return 1

/-- The options of programs that copy, move or link. -/
def transferSpecs : List Spec :=
  flags [('f', "force"), ('i', "interactive"), ('n', "no-clobber"), ('v', "verbose"),
      ('T', "no-target-directory"), ('u', "update"), ('Z', "")] ++
    valued [('t', "target-directory"), ('S', "suffix")] ++ [⟨'b', "backup", .perhaps⟩]

/-- Copies files and directories. -/
def cp : Tool := fun _ name arguments =>
  withOptions name 1 (options (transferSpecs ++ flags [('r', "recursive"), ('R', ""),
      ('a', "archive"), ('p', ""), ('d', ""), ('L', "dereference"), ('P', "no-dereference"),
      ('H', ""), ('l', "link"), ('s', "symbolic-link"), ('x', "one-file-system")] ++
      [⟨'k', "preserve", .perhaps⟩]) arguments) fun given paths => do
    if has given 'n' then
      complain name ("warning: behavior of -n is non-portable and may change in future; " ++
        "use --update=none instead")
    let t : Transfer :=
      ⟨name, has given 'r' || has given 'R' || has given 'a', has given 'n', has given 'v'⟩
    transfer name given paths (copyTo t mostDirectories)

/-- Moves files and directories. -/
def mv : Tool := fun _ name arguments =>
  withOptions name 1 (options transferSpecs arguments) fun given paths =>
    transfer name given paths (moveTo ⟨name, true, has given 'n', has given 'v'⟩)

/-- Gives files more names. -/
def ln : Tool := fun _ name arguments =>
  withOptions name 1 (options (transferSpecs ++ flags [('L', "logical"), ('P', "physical")])
      arguments) fun given paths =>
    transfer name given paths (linkTo ⟨name, false, false, has given 'v'⟩ (has given 'f'))

/-! ## Listing -/

/-- How names are listed. -/
structure ListStyle where
  all : Bool
  almostAll : Bool
  directories : Bool
  recursive : Bool
  backwards : Bool
  quotes : Bool
  slashes : Bool
  marks : Bool
  commas : Bool
  long : Bool

/-- The name of something as it is listed. -/
def ListStyle.shown (style : ListStyle) (name : String) (entry : Option Entry) : String :=
  let text := if style.quotes then "\"" ++ name ++ "\"" else name
  let mark := match entry with
    | some .directory => if style.slashes || style.marks then "/" else ""
    | some (.file _ mode) => if style.marks && mode &&& 0o111 != 0 then "*" else ""
    | some (.program _) => if style.marks then "*" else ""
    | _ => ""
  text ++ mark

/-- Names in an order. -/
def ListStyle.sorted (style : ListStyle) (names : List String) : List String :=
  let names := names.mergeSort fun a b => decide (a ≤ b)
  if style.backwards then names.reverse else names

/-- Prints names. -/
def ListStyle.put (style : ListStyle) (names : List String) : Run Unit := do
  if !names.isEmpty then
    if style.commas then print (", ".intercalate names ++ "\n")
    else print (String.join (names.map (· ++ "\n")))

/-- Prints names with what is known about them. -/
def ListStyle.putLong (style : ListStyle) (titled : Bool) (names : List (String × String)) :
    Run Unit := do
  let rows ← names.mapM fun (name, path) => do
    let entry := (← get).entryAt path
    let facts ← factsOf (entry.getD .directory)
    return (style.shown name entry, facts)
  if titled then
    let blocks := rows.foldl (fun n row => n + (row.2.size + 4095) / 4096 * 4) 0
    print ("total " ++ toString blocks ++ "\n")
  let width (value : FileFacts → Nat) : Nat :=
    rows.foldl (fun n row => max n (toString (value row.2)).length) 0
  let links := width FileFacts.links
  let sizes := width FileFacts.size
  for (name, facts) in rows do
    print (facts.letters ++ " " ++ Bytes.padLeft links (toString facts.links) ++ " root root " ++
      Bytes.padLeft sizes (toString facts.size) ++ " Jan  1 00:00 " ++ name ++ "\n")

/-- Lists what is in a directory, and in those below it. -/
def ListStyle.directory (style : ListStyle) : (more : Nat) → (titled first : Bool) →
    (path : String) → Run Unit
  | 0, _, _, _ => return
  | more + 1, titled, first, path => do
    let full ← fullPath path
    let w ← get
    let found := (w.names full).filter fun name =>
      style.all || style.almostAll || !Bytes.startsWith name "."
    let names := style.sorted (found ++ if style.all then [".", ".."] else [])
    let entryOf (name : String) : Option Entry :=
      w.entryAt (w.fullPath full name)
    if titled then print ((if first then "" else "\n") ++ path ++ ":\n")
    if style.long then
      style.putLong true (names.map fun name => (name, w.fullPath full name))
    else style.put (names.map fun name => style.shown name (entryOf name))
    if style.recursive then
      for name in names do
        if name != "." && name != ".." then
          match entryOf name with
          | some .directory => style.directory more true false (within path name)
          | _ => pure ()

/-- Lists files and directories. -/
def ls : Tool := fun _ name arguments =>
  withOptions name 2 (options (flags [('a', "all"), ('A', "almost-all"), ('d', "directory"),
      ('R', "recursive"), ('r', "reverse"), ('Q', "quote-name"), ('p', ""), ('m', ""), ('1', ""),
      ('l', ""), ('h', ""), ('t', ""), ('S', ""), ('C', ""), ('x', ""), ('N', "literal"),
      ('q', "hide-control-chars"), ('b', "escape"), ('U', ""),
      ('v', ""), ('f', ""), ('B', "ignore-backups"), ('L', "dereference"), ('H', "")] ++
      valued [('w', "width"), ('I', "ignore"), ('T', "tabsize")] ++
      [⟨'F', "classify", .perhaps⟩, ⟨'Y', "color", .perhaps⟩]) (separated arguments))
    fun given paths => do
      let style : ListStyle :=
        { all := has given 'a' || has given 'f', almostAll := has given 'A',
          directories := has given 'd', recursive := has given 'R', backwards := has given 'r',
          quotes := has given 'Q', slashes := has given 'p', marks := has given 'F',
          commas := has given 'm', long := has given 'l' }
      let paths := if paths.isEmpty then ["."] else paths
      let mut status := 0
      let mut files := []
      let mut directories := []
      for path in style.sorted paths do
        match ← entryAt path with
        | none =>
          complain name ("cannot access " ++ quotedPath path ++ ": " ++ (← whyMissing path))
          status := 2
        | some .directory =>
          if style.directories then files := path :: files else directories := path :: directories
        | some _ => files := path :: files
      if style.long then
        style.putLong false (← files.reverse.mapM fun path => do return (path, ← fullPath path))
      else
        style.put (← files.reverse.mapM fun path => do return style.shown path (← entryAt path))
      let titled := 1 < paths.length || style.recursive
      let mut first := files.isEmpty
      for path in directories.reverse do
        style.directory mostDirectories titled first path
        first := false
      return status
where
  /-- Arguments in which the letter that may have a value stands on its own. -/
  separated : List String → List String
    | argument :: rest =>
      match argument.toList with
      | '-' :: '-' :: _ => argument :: separated rest
      | '-' :: letters =>
        let others := letters.filter (· != 'F')
        (if others.isEmpty then [] else [String.ofList ('-' :: others)]) ++
          (if letters.contains 'F' then ["-F"] else []) ++
          (if letters.isEmpty then [argument] else []) ++ separated rest
      | _ => argument :: separated rest
    | [] => []

end StateExplorer.Shell.Tool
