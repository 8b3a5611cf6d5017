import StateExplorer.Shell.Builtin.Basic

/-!
# Builtin commands for names

Names can be marked for programs that are started, or against changes; they can be forgotten, made
local to a function, or given values from the arguments, the options or the input.
-/

namespace StateExplorer.Shell.Builtin

open Run

/-- The names with values of a shell that a test picks, in order, each as the command that would give
the name its value. -/
def listing (start : String) (isPicked : Binding → Bool) : Run String := do
  let picked := (← shell).bindings.filter (isPicked ·.2)
  let sorted := picked.mergeSort fun a b => decide (a.1 ≤ b.1)
  return String.join (sorted.map fun (name, binding) =>
    start ++ name ++ (match binding.value with
      | some value => "=" ++ inQuotes value
      | none => "") ++ "\n")

/-- Marks names, and gives values to those that come with one; without names it lists those that are
marked. -/
def mark (command : String) (isMarked : Binding → Bool) (put : Binding → Binding)
    (arguments : List String) : Run Nat := do
  let (given, words) ← options [('p', false)] arguments
  if words.isEmpty || !given.isEmpty then
    print (← listing (command ++ " ") isMarked)
  else
    for word in words do
      checkName word
      let (name, value) := splitName word
      match value with
      | some value => assign name value
      | none => pure ()
      let old := (← binding? name).getD ⟨none, false, false⟩
      setBinding name (some (put old))
  return 0

/-- Marks names for programs. -/
def export_ (arguments : List String) : Run Nat :=
  mark "export" Binding.exported (fun b => { b with exported := true }) arguments

/-- Marks names against changes. -/
def readOnly (arguments : List String) : Run Nat :=
  mark "readonly" Binding.readOnly (fun b => { b with readOnly := true }) arguments

/-- Forgets the values of names, or functions. -/
def unset (arguments : List String) : Run Nat := do
  let (given, words) ← options [('v', false), ('f', false)] arguments
  let ofFunctions := (given.getLast?.map Given.letter) == some 'f'
  for word in words do
    if ofFunctions then
      change fun s => { s with functions := s.functions.filter (·.1 != word) }
    else
      if !isName word then fail (wouldBeName word ++ ": bad variable name")
      if (← binding? word).any (·.readOnly) then fail (word ++ ": is read only")
      setBinding word none
  return 0

/-- Makes names local to the function at work. -/
def local_ (arguments : List String) : Run Nat := do
  match (← shell).locals with
  | [] => fail "not in a function"
  | _ =>
    for word in arguments do
      checkName word
      let (name, value) := splitName word
      let old ← binding? name
      change fun s => match s.locals with
        | inner :: outer =>
          if inner.any (·.1 == name) then s
          else { s with locals := ((name, old) :: inner) :: outer }
        | [] => s
      match value with
      | some value => assign name value
      | none => pure ()
    return 0

/-! ## Options of the shell -/

/-- The names of options with their letters, in the order in which they are listed. -/
def optionNames : List (String × Char) :=
  [("errexit", 'e'), ("noglob", 'f'), ("ignoreeof", 'I'), ("interactive", 'i'), ("monitor", 'm'),
    ("noexec", 'n'), ("stdin", 's'), ("xtrace", 'x'), ("verbose", 'v'), ("vi", 'V'),
    ("emacs", 'E'), ("noclobber", 'C'), ("allexport", 'a'), ("notify", 'b'), ("nounset", 'u'),
    ("privileged", 'p'), ("nolog", '1'), ("debug", '2')]

/-- Sets an option or takes it back. -/
def setOption (letter : Char) (on : Bool) : Run Unit :=
  change fun s =>
    let others := s.options.filter (· != letter)
    { s with options := if on then letter :: others else others }

/-- Sets an option by its letter. -/
def setLetter (letter : Char) (on : Bool) : Run Unit := do
  if letter != '1' && letter != '2' && optionNames.any (·.2 == letter) then
    if letter == 'm' && on then
      warn "can't access tty; job control turned off"
    else setOption letter on
  else fail ("Illegal option " ++ (if on then "-" else "+") ++ String.singleton letter)

/-- Sets an option by its name; without a name it lists them all. -/
def setNamed (name : Option String) (on : Bool) : Run Unit := do
  match name with
  | none =>
    let set := (← shell).options
    if on then
      print ("Current option settings\n" ++ String.join (optionNames.map fun (name, letter) =>
        Bytes.padRight 16 name ++ (if set.contains letter then "on" else "off") ++ "\n"))
    else
      print (String.join (optionNames.map fun (name, letter) =>
        "set " ++ (if set.contains letter then "-o " else "+o ") ++ name ++ "\n"))
  | some name =>
    match optionNames.lookup name with
    | some letter => setOption letter on
    | none => fail ("Illegal option " ++ (if on then "-o " else "+o ") ++ name)

/-- Sets the options in the letters of one argument, and gives what is left of the arguments. -/
def setLetters (on : Bool) : List Char → List String → Run (List String)
  | [], rest => return rest
  | 'o' :: more, rest => do
    setNamed rest.head? on
    setLetters on more rest.tail
  | c :: more, rest => do
    setLetter c on
    setLetters on more rest

/-- Sets options, at most so many arguments of them, and gives the new arguments of the shell, if there
are any. -/
def setOptions : (more : Nat) → List String → Run (Option (List String))
  | 0, arguments => return if arguments.isEmpty then none else some arguments
  | _, [] => return none
  | more + 1, argument :: rest => do
    match argument.toList with
    | ['-'] =>
      setOption 'x' false
      setOption 'v' false
      return if rest.isEmpty then none else some rest
    | ['-', '-'] => return some rest
    | '-' :: letters => setOptions more (← setLetters true letters rest)
    | '+' :: letters => setOptions more (← setLetters false letters rest)
    | _ => return some (argument :: rest)

/-- Sets options and arguments; without any it lists names and their values. -/
def set (arguments : List String) : Run Nat := do
  if arguments.isEmpty then
    print (← listing "" fun b => b.value.isSome)
  else
    match ← setOptions (arguments.length + 1) arguments with
    | some arguments =>
      change fun s => { s with arguments := arguments, optionIndex := 1, optionOffset := none }
    | none => pure ()
  return 0

/-- Drops arguments at the front. -/
def shift (arguments : List String) : Run Nat := do
  let n ← match arguments with
    | text :: _ => number text
    | [] => pure 1
  let s ← shell
  if s.arguments.length < n then fail "can't shift that many"
  change fun s => { s with
    arguments := s.arguments.drop n, optionIndex := 1, optionOffset := none }
  return 0

/-! ## Options of a script -/

/-- The kind of an option letter: whether it is known and whether it asks for a value. -/
def scriptOption? (letters : List Char) (c : Char) : Option Bool :=
  let rec search : List Char → Option Bool
    | [] => none
    | d :: ':' :: rest => if d == c then some true else search rest
    | d :: rest => if d == c then some false else search rest
  search letters

/-- What is found when the options of a script are searched: the letter for the script, the index of
the next argument, the place inside the argument before it, and the value. A value of `none` is
forgotten. -/
structure FoundOption where
  letter : Char
  index : Nat
  offset : Option Nat
  value : Option (Option String)
  message : String
  ended : Bool

/-- The next option among arguments. -/
def findOption (letters : String) (index : Nat) (offset : Option Nat) (arguments : List String) :
    FoundOption :=
  let silent := letters.toList.head? == some ':'
  let inside : List Char := match offset with
    | some offset =>
      if index ≤ 1 then [] else ((arguments[index - 2]?).getD "").toList.drop offset
    | none => []
  let start : Option (List Char × Nat) :=
    if !inside.isEmpty then some (inside, index)
    else
      match (arguments[index - 1]?).map String.toList with
      | some ('-' :: c :: rest) => some (c :: rest, index + 1)
      | _ => none
  match start with
  | none => ⟨'?', index, none, none, "", true⟩
  | some ([], index) => ⟨'?', index, none, none, "", true⟩
  | some (c :: rest, index) =>
    if c == '-' && rest.isEmpty && inside.isEmpty then ⟨'?', index, none, none, "", true⟩
    else
      let before := (arguments[index - 2]?).getD ""
      let offset := some (before.length - rest.length)
      match scriptOption? letters.toList c with
      | none =>
        if silent then ⟨'?', index, offset, some (some (String.singleton c)), "", false⟩
        else
          ⟨'?', index, offset, some none, "Illegal option -" ++ String.singleton c ++ "\n", false⟩
      | some false => ⟨c, index, offset, some (some ""), "", false⟩
      | some true =>
        if !rest.isEmpty then ⟨c, index, none, some (some (String.ofList rest)), "", false⟩
        else
          match arguments[index - 1]? with
          | some value => ⟨c, index + 1, none, some (some value), "", false⟩
          | none =>
            if silent then ⟨':', index, offset, some (some (String.singleton c)), "", false⟩
            else
              ⟨'?', index, offset, some none,
                "No arg for -" ++ String.singleton c ++ " option\n", false⟩

/-- Searches the arguments for the next option. -/
def getOptions (arguments : List String) : Run Nat := do
  match arguments with
  | letters :: name :: given =>
    let s ← shell
    let searched := if given.isEmpty then s.arguments else given
    let (index, offset) :=
      if searched.length + 1 < s.optionIndex then (1, none) else (s.optionIndex, s.optionOffset)
    let found := findOption letters (max index 1) offset searched
    match found.value with
    | some (some value) => assign "OPTARG" value
    | some none => setBinding "OPTARG" none
    | none => pure ()
    if !found.message.isEmpty then printError found.message
    assign "OPTIND" (toString found.index)
    if !isName name then fail (wouldBeName name ++ ": bad variable name")
    assign name (String.singleton found.letter)
    change fun s => { s with optionIndex := found.index, optionOffset := found.offset }
    return if found.ended then 1 else 0
  | _ => fail "Usage: getopts optstring var [arg...]"

/-! ## Reading input -/

/-- What was read of a line: its stretches, last one first, how many bytes it took, and whether it
ended. A character after a backslash is no mark. -/
structure Taken where
  stretches : List Stretch
  size : Nat
  ended : Bool

/-- Takes a line from a text; `raw` keeps backslashes. -/
def takeLine (raw : Bool) : List Char → List Char → Taken → Taken
  | [], open_, taken =>
    { taken with
      stretches := ⟨.atMarks, cellsOf false (String.ofList open_.reverse)⟩ :: taken.stretches }
  | '\n' :: _, open_, taken =>
    ⟨⟨.atMarks, cellsOf false (String.ofList open_.reverse)⟩ :: taken.stretches, taken.size + 1, true⟩
  | '\x00' :: rest, open_, taken => takeLine raw rest open_ { taken with size := taken.size + 1 }
  | '\\' :: rest, open_, taken =>
    if raw then takeLine raw rest ('\\' :: open_) { taken with size := taken.size + 1 }
    else
      let before : Stretch := ⟨.atMarks, cellsOf false (String.ofList open_.reverse)⟩
      match rest with
      | [] => { taken with stretches := before :: taken.stretches, size := taken.size + 1 }
      | '\n' :: rest =>
        takeLine raw rest [] { taken with
          stretches := before :: taken.stretches, size := taken.size + 2 }
      | c :: rest =>
        takeLine raw rest [] { taken with
          stretches := ⟨.never, [.char c true]⟩ :: before :: taken.stretches
          size := taken.size + 2 }
  | c :: rest, open_, taken => takeLine raw rest (c :: open_) { taken with size := taken.size + 1 }

/-- Gives names the fields of a text; names without one get nothing. -/
def assignFields : List String → List (List Cell) → Run Unit
  | [], _ => pure ()
  | name :: names, fields => do
    if !isName name then fail (wouldBeName name ++ ": bad variable name")
    assign name (textOf (fields.headD []))
    assignFields names fields.tail

/-- Reads a line of the input into names. -/
def read (arguments : List String) : Run Nat := do
  let (given, names) ← options [('p', true), ('r', false)] arguments
  if names.isEmpty then fail "arg count"
  let raw := given.any (·.letter == 'r')
  let taken := takeLine raw (← peekChars 0) [] ⟨[], 0, false⟩
  skipInput 0 taken.size
  let marks := (← value? "IFS").getD " \t\n"
  assignFields names (Fields.split marks (some names.length) taken.stretches.reverse)
  return if taken.ended then 0 else 1

/-! ## Other names for commands -/

/-- Gives other names to commands, or lists them. -/
def alias_ (arguments : List String) : Run Nat := do
  let shown (name value : String) : String := name ++ "=" ++ inQuotes value ++ "\n"
  if arguments.isEmpty then
    print (String.join ((← shell).aliases.map fun (name, value) => shown name value))
    return 0
  else
    let mut status := 0
    for word in arguments do
      match Bytes.split '=' word with
      | name :: part :: parts =>
        let value := "=".intercalate (part :: parts)
        change fun s => { s with
          aliases := s.aliases.filter (·.1 != name) ++ [(name, value)] }
      | _ =>
        match (← shell).aliases.lookup word with
        | some value => print (shown word value)
        | none =>
          printError ("alias: " ++ word ++ " not found\n")
          status := 1
    return status

/-- Forgets other names for commands. -/
def unalias (arguments : List String) : Run Nat := do
  let (given, names) ← options [('a', false)] arguments
  if !given.isEmpty then
    change fun s => { s with aliases := [] }
    return 0
  else
    let mut status := 0
    for name in names do
      if (← shell).aliases.any (·.1 == name) then
        change fun s => { s with aliases := s.aliases.filter (·.1 != name) }
      else
        printError ("unalias: " ++ name ++ " not found\n")
        status := 1
    return status

end StateExplorer.Shell.Builtin
