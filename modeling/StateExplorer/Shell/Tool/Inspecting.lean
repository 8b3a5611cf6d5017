import StateExplorer.Shell.Builtin.Test
import StateExplorer.Shell.Printing
import StateExplorer.Shell.Program
import StateExplorer.Shell.Tool.Ends
import StateExplorer.Shell.Tool.Files

/-!
# Sizes and kinds of files

These programs tell what an entry is, where a program is found and whether a condition on files and
texts holds, and they cut files to a size.
-/

namespace StateExplorer.Shell.Tool

open Run

/-- What is known about something that a path names. -/
structure FileFacts where
  isDirectory : Bool
  mode : Nat
  size : Nat
  links : Nat

/-- What is known about an entry. -/
def factsOf (entry : Entry) : Run FileFacts := do
  let w ← get
  match entry with
  | .directory => return ⟨true, 0o755, 4096, 2⟩
  | .void => return ⟨false, 0o666, 0, 1⟩
  | .program _ => return ⟨false, 0o755, 40000, 1⟩
  | .file store mode =>
    let links := w.entries.countP fun (_, other) => match other with
      | .file s _ => s == store
      | _ => false
    return ⟨false, mode, ((w.stores[store]?).getD "").length, links⟩

/-- The letters for who may do what. -/
def FileFacts.letters (f : FileFacts) : String :=
  let three (bits : Nat) : List Char :=
    [if bits &&& 4 != 0 then 'r' else '-', if bits &&& 2 != 0 then 'w' else '-',
      if bits &&& 1 != 0 then 'x' else '-']
  String.ofList ((if f.isDirectory then 'd' else '-') :: three (f.mode >>> 6) ++
    three (f.mode >>> 3) ++ three f.mode)

/-- The words for the kind of a file. -/
def FileFacts.kind (f : FileFacts) : String :=
  if f.isDirectory then "directory"
  else if f.size == 0 then "regular empty file" else "regular file"

/-- What is told about a file by a format. -/
def FileFacts.format (f : FileFacts) (path : String) : List Char → String
  | '%' :: c :: rest =>
    (match c with
      | 'a' => String.ofList (Nat.toDigits 8 f.mode)
      | 'A' => f.letters
      | 'F' => f.kind
      | 'f' => String.ofList (Nat.toDigits 16 (f.mode + if f.isDirectory then 0o40000 else 0o100000))
      | 'g' | 'u' => "0"
      | 'G' | 'U' => "root"
      | 'h' => toString f.links
      | 'n' => path
      | 'N' => quotedPath path
      | 's' => toString f.size
      | 'b' => toString ((f.size + 4095) / 4096 * 8)
      | 'B' => "512"
      | 'o' => "4096"
      | '%' => "%"
      | _ => "?") ++ f.format path rest
  | c :: rest => String.singleton c ++ f.format path rest
  | [] => ""

/-- Tells about files by a format. -/
def stat : Tool := fun _ name arguments =>
  withOptions name 1 (options (flags [('L', "dereference"), ('f', "file-system"), ('t', "terse")] ++
      valued [('c', "format"), ('P', "printf")]) arguments) fun given paths => do
    if paths.isEmpty then
      misuse name "missing operand"
      return 1
    let mut status := 0
    for path in paths do
      match ← entryAt path with
      | none =>
        complain name ("cannot statx " ++ quotedPath path ++ ": " ++ (← whyMissing path))
        status := 1
      | some entry =>
        let facts ← factsOf entry
        match value? given 'P', value? given 'c' with
        | some format, _ =>
          let (text, _) := withoutEscapes ⟨true, fun t => t, fun t => t, fun t => t, fun t => t,
            fun t => t⟩ format.toList
          print (facts.format path text)
        | none, format => print (facts.format path (format.getD "%n").toList ++ "\n")
    return status

/-- Prints the paths of programs. -/
def which : Tool := fun _ _ arguments => do
  let mut status := if arguments.isEmpty then 1 else 0
  for word in arguments do
    if !Bytes.startsWith word "-" then
      match ← findProgram word with
      | .found path _ => print (path ++ "\n")
      | _ => status := 1
  return status

/-- A text cut to a size, or filled up to it. -/
def ofSize (size : Nat) (text : String) : String :=
  if size ≤ text.length then Bytes.take size text else text.pushn '\x00' (size - text.length)

/-- Cuts files to a size, or fills them up to it. -/
def truncate : Tool := fun _ name arguments =>
  withOptions name 1 (options (flags [('c', "no-create"), ('o', "io-blocks")] ++
      valued [('s', "size"), ('r', "reference")]) arguments) fun given paths => do
    match value? given 's' with
    | none =>
      misuse name "you must specify either '--size' or '--reference'"
      return 1
    | some text =>
      let (sign, digits) := match text.toList with
        | '+' :: rest => (some '+', rest)
        | '-' :: rest => (some '-', rest)
        | rest => (none, rest)
      match amount? (String.ofList digits) with
      | none =>
        complain name ("Invalid number: " ++ quoted text)
        return 1
      | some n =>
        if paths.isEmpty then
          misuse name "missing file operand"
          return 1
        let mut status := 0
        for path in paths do
          let old ← fileText? path
          if old.isSome || !has given 'c' then
            let text := old.getD ""
            let size := match sign with
              | some '+' => text.length + n
              | some _ => text.length - n
              | none => n
            if !(← writeFile path (ofSize size text)) then
              complain name ("cannot open " ++ quotedPath path ++ " for writing: " ++
                (← whyMissing path))
              status := 1
        return status

/-- Removes one file. -/
def unlink : Tool := fun _ name arguments =>
  withOptions name 1 (options [] arguments) fun _ paths => do
    match paths with
    | [] =>
      misuse name "missing operand"
      return 1
    | [path] =>
      let cannot (why : String) : Run Nat := do
        complain name ("cannot unlink " ++ quotedPath path ++ ": " ++ why)
        return 1
      match ← entryAt path with
      | none => cannot (← whyMissing path)
      | some .directory => cannot "Is a directory"
      | some _ =>
        putEntry (← fullPath path) none
        return 0
    | _ :: extra :: _ =>
      misuse name ("extra operand " ++ quotedPath extra)
      return 1

/-- Copies blocks of bytes. -/
def dd : Tool := fun _ name arguments => do
  let known := ["if", "of", "bs", "ibs", "obs", "count", "skip", "seek", "status", "conv", "iflag",
    "oflag"]
  let parts := arguments.map fun word =>
    let (key, value) := word.toList.span (· != '=')
    (String.ofList key, String.ofList value.tail, word)
  match parts.find? fun (key, _, word) => !known.contains key || !word.toList.contains '=' with
  | some (_, _, word) =>
    misuse name ("unrecognized operand " ++ quotedPath word)
    return 1
  | none =>
    let value? (key : String) : Option String :=
      ((parts.reverse.find? (·.1 == key)).map fun part => part.2.1)
    let number? (key : String) : Option Nat := (value? key).bind amount?
    match ["bs", "ibs", "obs", "count", "skip", "seek"].find? fun key =>
        (value? key).isSome && (number? key).isNone with
    | some key =>
      complain name ("invalid number: " ++ quoted ((value? key).getD ""))
      return 1
    | none =>
      let size := (number? "bs").getD ((number? "ibs").getD 512)
      let found ← match value? "if" with
        | some path => pathText path
        | none => Tool.input
      match found with
      | .error why =>
        complain name (match value? "if", why with
          | some path, .missing _ => "failed to open " ++ quotedPath path ++ ": " ++ why.message
          | path, why => "error reading " ++ quotedPath (path.getD "standard input") ++ ": " ++
            why.message)
        return 1
      | .ok text =>
        let skipped := (number? "skip").getD 0 * size
        let rest := Bytes.drop skipped text
        let taken := match number? "count" with
          | some count => Bytes.take (count * size) rest
          | none => rest
        if (value? "if").isNone then unreadInput (rest.length - taken.length)
        let conversions := Bytes.split ',' ((value? "conv").getD "")
        let shown := if conversions.contains "ucase" then taken.map Char.toUpper
          else if conversions.contains "lcase" then taken.map Char.toLower else taken
        let done ← match value? "of" with
          | none => do
            print shown
            pure true
          | some path => do
            let old := (← fileText? path).getD ""
            let place := (number? "seek").getD 0 * (number? "bs").getD ((number? "obs").getD 512)
            let new := overwrite old place shown
            writeFile path (if conversions.contains "notrunc" then new
              else Bytes.take (place + shown.length) new)
        if !done then
          let path := (value? "of").getD ""
          complain name ("failed to open " ++ quotedPath path ++ ": " ++ (← whyUnwritten path))
          return 1
        if value? "status" != some "none" then
          let records := toString (shown.length / size) ++ "+" ++
            (if shown.length % size == 0 then "0" else "1") ++ " records "
          printError (records ++ "in\n" ++ records ++ "out\n")
          if value? "status" != some "noxfer" then
            printError (toString shown.length ++ " bytes copied, 0.0001 s, 1.0 MB/s\n")
        return 0

/-- Tests its arguments; `bracket` tells whether a closing bracket must be the last of them. -/
def test (bracket : Bool) : Tool := fun _ name arguments => do
  if bracket && arguments.getLast? != some "]" then
    complain name "missing ']'"
    return 2
  let words := if bracket then arguments.dropLast else arguments
  try
    let holds ← TestExpression.evaluate (words.length + 1) words
    return if holds then 0 else 1
  catch _ => return 2

end StateExplorer.Shell.Tool
