import StateExplorer.Shell.Redirecting

/-!
# What programs share

Arguments that start with a dash are options: letters, each of which may ask for a value, or words
after two dashes, which may be cut short as long as they stay clear. They may stand anywhere before an
argument of two dashes. Files are named by paths, and a single dash names the input.
-/

namespace StateExplorer.Shell

open Run

/-- What a program does with its name and its arguments, with the status that it ends with. -/
abbrev Tool := Evaluator → (name : String) → List String → Run Nat

namespace Tool

/-! ## Options -/

/-- Whether an option goes with a value: never, always, or only if it is written together with it. -/
inductive Wants
  | nothing
  | value
  | perhaps
deriving DecidableEq

/-- An option of a program: its letter, its word, and its value. An option without a letter of its own
has one that nobody can write. -/
structure Spec where
  letter : Char
  word : String
  wants : Wants

/-- An option that was given. -/
structure Given where
  letter : Char
  value : Option String

/-- Options that need no value. -/
def flags (letters : List (Char × String)) : List Spec :=
  letters.map fun (letter, word) => ⟨letter, word, .nothing⟩

/-- Options with a value. -/
def valued (letters : List (Char × String)) : List Spec :=
  letters.map fun (letter, word) => ⟨letter, word, .value⟩

/-- The options in the letters of one argument, and the arguments after it. -/
def letterOptions (specs : List Spec) : List Char → List String →
    Except String (List Given × List String)
  | [], rest => .ok ([], rest)
  | c :: more, rest => do
    match specs.find? (·.letter == c) with
    | none => throw ("invalid option -- '" ++ String.singleton c ++ "'")
    | some spec =>
      match spec.wants with
      | .nothing =>
        let (given, rest) ← letterOptions specs more rest
        return (⟨c, none⟩ :: given, rest)
      | .perhaps =>
        return ([⟨c, if more.isEmpty then none else some (String.ofList more)⟩], rest)
      | .value =>
        match more, rest with
        | [], [] => throw ("option requires an argument -- '" ++ String.singleton c ++ "'")
        | [], value :: rest => return ([⟨c, some value⟩], rest)
        | more, rest => return ([⟨c, some (String.ofList more)⟩], rest)

/-- The option that a word after two dashes is, and the arguments after it. -/
def wordOption (specs : List Spec) (text : String) (rest : List String) :
    Except String (Given × List String) := do
  let (word, value) := match Bytes.split '=' text with
    | word :: part :: parts => (word, some ("=".intercalate (part :: parts)))
    | _ => (text, none)
  let known := specs.filter fun s => !s.word.isEmpty && Bytes.startsWith s.word word
  let exact := known.filter (·.word == word)
  let known := if exact.isEmpty then known else exact
  let same : Bool := match known with
    | s :: others => others.all (·.letter == s.letter)
    | [] => false
  match known with
  | [] => throw ("unrecognized option '--" ++ text ++ "'")
  | spec :: _ =>
    if !same then
      throw ("option '--" ++ text ++ "' is ambiguous; possibilities:" ++
        String.join (known.map fun s => " '--" ++ s.word ++ "'"))
    match spec.wants, value with
    | .nothing, some _ =>
      throw ("option '--" ++ spec.word ++ "' doesn't allow an argument")
    | .nothing, none => return (⟨spec.letter, none⟩, rest)
    | .perhaps, value => return (⟨spec.letter, value⟩, rest)
    | .value, some value => return (⟨spec.letter, some value⟩, rest)
    | .value, none =>
      match rest with
      | value :: rest => return (⟨spec.letter, some value⟩, rest)
      | [] => throw ("option '--" ++ spec.word ++ "' requires an argument")

/-- The options and the other arguments, at most so many arguments; `mixed` tells whether options may
come after other arguments. -/
def splitOptions (specs : List Spec) (mixed : Bool) : (more : Nat) → List String →
    Except String (List Given × List String)
  | 0, arguments => .ok ([], arguments)
  | _, [] => .ok ([], [])
  | more + 1, argument :: rest => do
    match argument.toList with
    | ['-', '-'] => return ([], rest)
    | '-' :: '-' :: word =>
      let (given, rest) ← wordOption specs (String.ofList word) rest
      let (others, rest) ← splitOptions specs mixed more rest
      return (given :: others, rest)
    | '-' :: c :: letters =>
      let (given, rest) ← letterOptions specs (c :: letters) rest
      let (others, rest) ← splitOptions specs mixed more rest
      return (given ++ others, rest)
    | _ =>
      if mixed then
        let (given, rest) ← splitOptions specs mixed more rest
        return (given, argument :: rest)
      else return ([], argument :: rest)

/-- The options and the other arguments. -/
def options (specs : List Spec) (arguments : List String) :
    Except String (List Given × List String) :=
  splitOptions specs true (arguments.length + 1) arguments

/-- The options that come first, and the other arguments. -/
def leadingOptions (specs : List Spec) (arguments : List String) :
    Except String (List Given × List String) :=
  splitOptions specs false (arguments.length + 1) arguments

/-- Whether an option was given. -/
def has (given : List Given) (letter : Char) : Bool := given.any (·.letter == letter)

/-- The value of an option that was given last. -/
def value? (given : List Given) (letter : Char) : Option String :=
  (given.reverse.find? (·.letter == letter)).bind Given.value

/-! ## Messages -/

/-- Prints a message of a program. -/
def complain (name text : String) : Run Unit := printError (name ++ ": " ++ text ++ "\n")

/-- Prints a message about the way a program was called. -/
def misuse (name text : String) : Run Unit :=
  printError (name ++ ": " ++ text ++ "\nTry '" ++ name ++ " --help' for more information.\n")

/-- Runs a program with its options, or tells what is wrong with them and ends with a status. -/
def withOptions (name : String) (status : Nat) (found : Except String (List Given × List String))
    (step : List Given → List String → Run Nat) : Run Nat := do
  match found with
  | .ok (given, rest) => step given rest
  | .error message =>
    misuse name message
    return status

/-- Whether a character can stand in a name without quotes. -/
def needsNoQuotes (c : Char) : Bool :=
  c.isAlphanum || ['%', '+', ',', '-', '.', '/', ':', '@', '_', ']', '^', '{', '}', '=', '~',
    '#'].contains c || 128 ≤ c.toNat

/-- A text in quotes. -/
def quoted (text : String) : String :=
  "'" ++ String.join (text.toList.map fun c =>
    match c with
    | '\'' => "\\'"
    | '\\' => "\\\\"
    | '\n' => "\\n"
    | '\t' => "\\t"
    | '\r' => "\\r"
    | c =>
      if c.toNat < 32 || 127 ≤ c.toNat then
        let digits := Nat.toDigits 8 c.toNat
        "\\" ++ String.ofList (List.replicate (3 - digits.length) '0' ++ digits)
      else String.singleton c) ++ "'"

/-- A path in quotes. -/
def quotedPath (text : String) : String :=
  if text.toList.contains '\'' && !text.toList.contains '"' then "\"" ++ text ++ "\""
  else "'" ++ text ++ "'"

/-- A path as messages name it: in quotes only where it needs them. -/
def shownPath (text : String) : String :=
  if !text.isEmpty && text.toList.all needsNoQuotes &&
      ! ['~', '#'].contains ((text.toList.head?).getD 'a') then text
  else quotedPath text

/-! ## Files -/

/-- The words for why nothing is at a path. -/
def whyMissing (path : String) : Run String := return (← absence path).message

/-- The words for why no file can be put at a path. -/
def whyUnwritten (path : String) : Run String := do
  match ← entryAt path with
  | some .directory => return "Is a directory"
  | _ =>
    match ← obstacle? path with
    | none => return if Path.endsInSlash path then "Is a directory" else Absence.missing.message
    | some why => return why.message

/-- Why a file cannot be read. -/
inductive Unreadable
  | missing (why : Absence)
  | isDirectory
  | notOpen

/-- The words for why a file cannot be read. -/
def Unreadable.message : Unreadable → String
  | .missing why => why.message
  | .isDirectory => "Is a directory"
  | .notOpen => "Bad file descriptor"

/-- The rest of the input. -/
def input : Run (Except Unreadable String) := do
  match ← openOf? 0 with
  | none => return .error .notOpen
  | some (_, file) =>
    if file.isDirectory then return .error .isDirectory
    else if !file.reads then return .error .notOpen
    else return .ok (← readInput)

/-- Gives so many bytes back to the input, where it can go back. -/
def unreadInput (size : Nat) : Run Unit := do
  match ← openOf? 0 with
  | some (id, file) =>
    if !file.isPipe then
      modify fun w => { w with
        opens := w.opens.modify id fun f => { f with offset := f.offset - size } }
  | none => pure ()

/-- The text of a path. -/
def pathText (path : String) : Run (Except Unreadable String) := do
  let full ← fullPath path
  if full == "/dev/stdin" || full == "/dev/fd/0" || full == "/proc/self/fd/0" then input
  else
    match ← entryAt path with
    | none => return .error (.missing (← absence path))
    | some .directory => return .error .isDirectory
    | some (.program name) => return .ok ("\x7fELF " ++ name ++ "\n")
    | some .void => return .ok ""
    | some (.file store _) => return .ok (((← get).stores[store]?).getD "")

/-- The text of an argument: a path, or a dash for the input. -/
def sourceText (path : String) : Run (Except Unreadable String) :=
  if path == "-" then input else pathText path

/-- The texts of arguments, or the input where there are none; a message is told for each that cannot
be read, and whether there was any such. -/
def sources (paths : List String) (tell : String → Unreadable → Run Unit) :
    Run (List (String × String) × Bool) := do
  let mut texts := []
  let mut failed := false
  for path in if paths.isEmpty then ["-"] else paths do
    match ← sourceText path with
    | .ok text => texts := (path, text) :: texts
    | .error why =>
      tell path why
      failed := true
  return (texts.reverse, failed)

/-- Tells that a path cannot be read, with the path in front. -/
def tellPlainly (name path : String) (why : Unreadable) : Run Unit :=
  complain name (shownPath path ++ ": " ++ why.message)

end Tool

end StateExplorer.Shell
