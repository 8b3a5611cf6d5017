import StateExplorer.Shell.Tool.Basic

/-!
# Parts of paths

A path is taken apart as it is written, or followed to the full path of what it names. Only the last
part of a path that is followed may be missing, unless options say otherwise.
-/

namespace StateExplorer.Shell.Tool

open Run

/-- A path without the slashes at its end, unless there is nothing else. -/
def withoutEndSlashes (path : String) : String :=
  let kept := (path.toList.reverse.dropWhile (· == '/')).reverse
  if kept.isEmpty && !path.isEmpty then "/" else String.ofList kept

/-- The last part of a path as it is written. -/
def lastPart (path : String) : String :=
  let path := withoutEndSlashes path
  if path == "/" then "/" else ((Bytes.split '/' path).getLast?).getD ""

/-- A path as it is written without its last part. -/
def firstParts (path : String) : String :=
  let path := withoutEndSlashes path
  if path == "/" then "/"
  else
    let front := ((path.toList.reverse.dropWhile (· != '/')).dropWhile (· == '/')).reverse
    if path.toList.contains '/' then (if front.isEmpty then "/" else String.ofList front) else "."

/-- A text without something at its end, unless it is nothing else. -/
def withoutEnd (ending text : String) : String :=
  if text != ending && ending.toList.isSuffixOf text.toList then
    Bytes.take (text.length - ending.length) text
  else text

/-- Prints the last part of paths. -/
def basename : Tool := fun _ name arguments =>
  withOptions name 1 (leadingOptions (flags [('a', "multiple"), ('z', "zero")] ++
      valued [('s', "suffix")]) arguments) fun given words => do
    let mark := if has given 'z' then "\x00" else "\n"
    let ending := value? given 's'
    let shown (ending : Option String) (path : String) : String :=
      let part := lastPart path
      (match ending with
        | some ending => if part == "/" then part else withoutEnd ending part
        | none => part) ++ mark
    match words with
    | [] =>
      misuse name "missing operand"
      return 1
    | path :: rest =>
      if has given 'a' || ending.isSome then
        print (String.join (words.map (shown ending)))
        return 0
      else
        match rest with
        | _ :: extra :: _ =>
          misuse name ("extra operand " ++ quotedPath extra)
          return 1
        | rest =>
          print (shown rest.head? path)
          return 0

/-- Prints paths without their last part. -/
def dirname : Tool := fun _ name arguments =>
  withOptions name 1 (options (flags [('z', "zero")]) arguments) fun given words => do
    if words.isEmpty then
      misuse name "missing operand"
      return 1
    let mark := if has given 'z' then "\x00" else "\n"
    print (String.join (words.map fun path => firstParts path ++ mark))
    return 0

/-- Prints full paths; `all` tells whether everything must be there, and `none_` whether nothing has to
be. Else only the last part of a path may be missing. -/
def fullPaths (name : String) (all none_ quiet : Bool) (mark : String) (paths : List String) :
    Run Nat := do
  let mut status := 0
  for path in paths do
    let isThere := (← entryAt path).isSome || (!all && !path.isEmpty && (← canBeThere path))
    if none_ && !path.isEmpty then
      print (pathThrough (← shell).directory path ++ mark)
    else if isThere then print ((← fullPath path) ++ mark)
    else
      if !quiet then complain name (shownPath path ++ ": " ++ (← whyMissing path))
      status := 1
  return status
where
  /-- The full path of a path, in which what is not there counts as a directory. -/
  pathThrough (directory path : String) : String :=
    Path.join (Path.climb [] ((Path.partsFrom directory path).foldl
      (fun above p => if above.isEmpty then (Path.below [] p).reverse else above ++ [p]) []))
  /-- Whether a path that names nothing has a directory above its last part. -/
  canBeThere (path : String) : Run Bool := do
    let full ← fullPath path
    match (← get).entryAt full, (← get).entryAt (Path.parent full) with
    | none, some .directory => return true
    | _, _ => return false

/-- Prints the full paths of paths. -/
def realpath : Tool := fun _ name arguments =>
  withOptions name 1 (options (flags [('e', "canonicalize-existing"), ('m', "canonicalize-missing"),
      ('s', "strip"), ('s', "no-symlinks"), ('q', "quiet"), ('z', "zero"), ('L', "logical"),
      ('P', "physical")]) arguments) fun given paths => do
    if paths.isEmpty then
      misuse name "missing operand"
      return 1
    fullPaths name (has given 'e') (has given 'm') (has given 'q')
      (if has given 'z' then "\x00" else "\n") paths

/-- Prints where links lead. There are no links, so only full paths can be asked for. -/
def readlink : Tool := fun _ name arguments =>
  withOptions name 1 (options (flags [('f', "canonicalize"), ('e', "canonicalize-existing"),
      ('m', "canonicalize-missing"), ('n', "no-newline"), ('q', "quiet"), ('s', "silent"),
      ('v', "verbose"), ('z', "zero")]) arguments) fun given paths => do
    if paths.isEmpty then
      misuse name "missing operand"
      return 1
    if has given 'f' || has given 'e' || has given 'm' then
      fullPaths name (has given 'e') (has given 'm') (!has given 'v')
        (if has given 'n' then "" else if has given 'z' then "\x00" else "\n") paths
    else return 1

/-- Prints the directory at work. -/
def pwd : Tool := fun _ name arguments =>
  withOptions name 1 (options (flags [('L', "logical"), ('P', "physical")]) arguments)
    fun _ words => do
      if !words.isEmpty then complain name "ignoring non-option arguments"
      print ((← fullPath ".") ++ "\n")
      return 0

end StateExplorer.Shell.Tool
