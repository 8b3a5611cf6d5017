import StateExplorer.Shell.Printing
import StateExplorer.Shell.Tool.Basic

/-!
# Programs that count

Lines, words and bytes of texts are counted, and numbers are counted up and down.
-/

namespace StateExplorer.Shell.Tool

open Run

/-! ## Counting what is in texts -/

/-- How many lines, words and bytes a text has, and the width of its widest line. -/
structure Counts where
  lines : Nat
  words : Nat
  bytes : Nat
  widest : Nat

/-- What is kept while a text is counted. -/
structure Counting where
  counts : Counts
  inWord : Bool
  column : Nat

/-- Counts one more character. -/
def Counting.add (s : Counting) (c : Char) : Counting :=
  let n := s.counts
  let n := { n with bytes := n.bytes + 1 }
  let closed : Counts := { n with widest := max n.widest s.column }
  if c == '\n' then ⟨{ closed with lines := n.lines + 1 }, false, 0⟩
  else if c == '\r' || c == '\x0c' then ⟨closed, false, 0⟩
  else if c == '\t' then ⟨n, false, s.column + (8 - s.column % 8)⟩
  else if c == ' ' then ⟨n, false, s.column + 1⟩
  else if c == '\x0b' then ⟨n, false, s.column⟩
  else
    let shows := 0x20 ≤ c.toNat && c.toNat ≤ 0x7E
    ⟨if s.inWord then n else { n with words := n.words + 1 }, true,
      if shows then s.column + 1 else s.column⟩

/-- The counts of a text. -/
def countText (text : String) : Counts :=
  let s := text.toList.foldl Counting.add ⟨⟨0, 0, 0, 0⟩, false, 0⟩
  { s.counts with widest := max s.counts.widest s.column }

/-- The sum of counts; the widest line is the widest of all. -/
def Counts.add (a b : Counts) : Counts :=
  ⟨a.lines + b.lines, a.words + b.words, a.bytes + b.bytes, max a.widest b.widest⟩

/-- The size of a path's file if it is an ordinary one. -/
def ordinarySize (path : String) : Run (Option Nat) := do
  if path == "-" then
    match ← openOf? 0 with
    | some (_, file) =>
      if file.isPipe || file.isDirectory then return none
      else
        match file.store with
        | some store => return some (((← get).stores[store]?).getD "").length
        | none => return none
    | none => return none
  else
    match ← entryAt path with
    | some (.file store _) => return some (((← get).stores[store]?).getD "").length
    | some (.program _) => return some 100000
    | some _ => return none
    | none => return some 0

/-- Counts lines, words and bytes. -/
def wc : Tool := fun _ name arguments =>
  withOptions name 1 (options (flags [('c', "bytes"), ('m', "chars"), ('l', "lines"),
      ('L', "max-line-length"), ('w', "words")] ++ valued [('T', "total"), ('F', "files0-from")])
      arguments) fun given paths => do
    let shown := given.filter fun g => g.letter != 'T' && g.letter != 'F'
    let is (letter : Char) : Bool := has shown letter
    let usual := shown.isEmpty
    let columns (n : Counts) : List Nat :=
      (if usual || is 'l' then [n.lines] else []) ++ (if usual || is 'w' then [n.words] else []) ++
        (if is 'm' then [n.bytes] else []) ++ (if usual || is 'c' then [n.bytes] else []) ++
        (if is 'L' then [n.widest] else [])
    let named := !paths.isEmpty
    let paths := if paths.isEmpty then ["-"] else paths
    let sizes ← paths.mapM ordinarySize
    let single := paths.length == 1 && (columns ⟨0, 0, 0, 0⟩).length == 1
    let total := sizes.foldl (fun n size => n + size.getD 0) 0
    let width :=
      if single then 1
      else max (toString total).length (if sizes.any Option.isNone then 7 else 1)
    let line (n : Counts) (title : Option String) : String :=
      " ".intercalate ((columns n).map fun k => Bytes.padLeft width (toString k)) ++
        (match title with
          | some title => " " ++ title
          | none => "") ++ "\n"
    let mut sum : Counts := ⟨0, 0, 0, 0⟩
    let mut status := 0
    for path in paths do
      match ← sourceText path with
      | .ok text =>
        let n := countText text
        sum := sum.add n
        if value? given 'T' != some "only" then
          print (line n (if named then some (shownPath path) else none))
      | .error why =>
        tellPlainly name path why
        status := 1
        match why with
        | .isDirectory => print (line ⟨0, 0, 0, 0⟩ (some (shownPath path)))
        | _ => pure ()
    match value? given 'T' with
    | some "only" => print (line sum none)
    | some "never" => pure ()
    | some "always" => print (line sum (some "total"))
    | _ => if 1 < paths.length then print (line sum (some "total"))
    return status

/-! ## Rows of numbers -/

/-- How a number of a row is written: an integer scaled by so many places. -/
structure RowNumber where
  value : Int
  places : Nat

/-- The number that a text is, as an exact one with its places; nothing where it is none, or too
large to be told. -/
def rowNumber? (text : String) : Option (Int × Nat × Nat) :=
  let chars := text.toList.dropWhile Bytes.isSpace
  let (negative, body) := match chars with
    | '-' :: rest => (true, rest)
    | '+' :: rest => (false, rest)
    | rest => (false, rest)
  let sign (n : Nat) : Int := if negative then -(n : Int) else n
  match body with
  | '0' :: x :: digits =>
    if (x == 'x' || x == 'X') && !digits.isEmpty && digits.all isHexDigit then
      some (sign (spanDigits 16 digits).1, 0, text.length)
    else decimal sign body
  | _ => decimal sign body
where
  /-- Reads a decimal number with an optional part and exponent. -/
  decimal (sign : Nat → Int) (body : List Char) : Option (Int × Nat × Nat) :=
    let (whole, rest) := body.span Char.isDigit
    let (part, rest) := match rest with
      | '.' :: rest => rest.span Char.isDigit
      | rest => ([], rest)
    if whole.isEmpty && part.isEmpty then none
    else
      let (exponent, rest) := Floating.readExponent ['e', 'E'] rest
      if !rest.isEmpty then none
      else
        let n := (spanDigits 10 (whole ++ part)).1
        let places : Int := (part.length : Int) - exponent
        if places < 0 then some (sign (n * Nat.pow 10 places.natAbs), 0, text.length)
        else
          let shownPlaces := places.toNat
          some (sign n, shownPlaces, text.length)

/-- A number with so many places. -/
def showRowNumber (width places : Nat) (value : Int) : String :=
  let digits := Floating.digits (places + 1) value.natAbs
  let whole := digits.take (digits.length - places)
  let part := digits.drop (digits.length - places)
  let text := if places == 0 then whole else whole ++ '.' :: part
  let sign := if value < 0 then ['-'] else []
  String.ofList (sign ++ List.replicate (width - sign.length - text.length) '0' ++ text)

/-- The numbers of a row from a first one to a last one, at most so many. -/
def rowValues (step last : Int) : (more : Nat) → Int → List Int
  | 0, _ => []
  | more + 1, n =>
    if (0 < step && last < n) || (step < 0 && n < last) then []
    else n :: rowValues step last more (n + step)

/-- The directive in a format for numbers: the text before it, the directive, and the text after
it. -/
def rowFormat? (format : String) : Except String Unit :=
  let rec search : (more : Nat) → (found : Bool) → List Char → Except String Unit
    | 0, _, _ => .ok ()
    | _, found, [] =>
      if found then .ok () else .error ("format " ++ quoted format ++ " has no % directive")
    | more + 1, found, '%' :: '%' :: rest => search more found rest
    | more + 1, found, '%' :: rest =>
      if found then .error ("format " ++ quoted format ++ " has too many % directives")
      else
        let rest := rest.dropWhile fun c => ['-', '+', '#', '0', ' ', '\''].contains c
        let rest := rest.dropWhile Char.isDigit
        let rest := match rest with
          | '.' :: rest => rest.dropWhile Char.isDigit
          | rest => rest
        let rest := match rest with
          | 'L' :: rest => rest
          | rest => rest
        match rest with
        | [] => .error ("format " ++ quoted format ++ " ends in %")
        | c :: rest =>
          if ['a', 'A', 'e', 'E', 'f', 'F', 'g', 'G'].contains c then search more true rest
          else
            .error ("format " ++ quoted format ++ " has unknown %" ++ String.singleton c ++
              " directive")
    | more + 1, found, _ :: rest => search more found rest
  search (format.length + 1) false format.toList

/-- How numbers of a row are printed by a format. -/
def rowStyle : PrintStyle where
  hexEscapes := false
  notANumber text := text
  notWhole text := text
  tooLarge text := text
  unknownDirective text := text
  missingCharacter text := text

/-- The exact text of a number with places. -/
def exactText (places : Nat) (value : Int) : String := showRowNumber 0 places value

/-- The options of `seq` and its operands: numbers below zero are no options. -/
def rowOptions : (more : Nat) → List String → Except String (List Given × List String)
  | 0, arguments => .ok ([], arguments)
  | _, [] => .ok ([], [])
  | more + 1, argument :: rest => do
    let specs := valued [('f', "format"), ('s', "separator")] ++ flags [('w', "equal-width")]
    match argument.toList with
    | ['-', '-'] => return ([], rest)
    | '-' :: '-' :: word =>
      let (given, rest) ← wordOption specs (String.ofList word) rest
      let (others, rest) ← rowOptions more rest
      return (given :: others, rest)
    | '-' :: c :: letters =>
      if c.isDigit || c == '.' then return ([], argument :: rest)
      else
        let (given, rest) ← letterOptions specs (c :: letters) rest
        let (others, rest) ← rowOptions more rest
        return (given ++ others, rest)
    | _ => return ([], argument :: rest)

/-- The largest number of values in a row without an end. -/
def longestRow : Nat := 2000000

/-- Prints a row of numbers. -/
def seq : Tool := fun _ name arguments =>
  withOptions name 1 (rowOptions (arguments.length + 1) arguments) fun given words => do
    if words.isEmpty then
      misuse name "missing operand"
      return 1
    if 3 < words.length then
      misuse name ("extra operand " ++ quoted ((words[3]?).getD ""))
      return 1
    match words.find? fun w => (rowNumber? w).isNone && w != "inf" with
    | some bad =>
      misuse name ("invalid floating point argument: " ++ quoted bad)
      return 1
    | none =>
      let numbers := words.map fun w => (rowNumber? w).getD (0x7FFFFFFFFFFFFFFF, 0, 3)
      let (first, step, last) := match numbers with
        | [last] => ((1, 0, 1), (1, 0, 1), last)
        | [first, last] => (first, (1, 0, 1), last)
        | first :: step :: last :: _ => (first, step, last)
        | [] => ((1, 0, 1), (1, 0, 1), (1, 0, 1))
      if step.1 == 0 then
        misuse name ("invalid Zero increment value: " ++ quoted ((words[1]?).getD ""))
        return 1
      let format := value? given 'f'
      match rowFormat? (format.getD "%g") with
      | .error message =>
        complain name message
        return 1
      | .ok () =>
        let places := max first.2.1 step.2.1
        let all := max places last.2.1
        let scaled (n : Int × Nat × Nat) : Int := n.1 * (Nat.pow 10 (all - n.2.1) : Nat)
        let values := rowValues (scaled step) (scaled last) longestRow (scaled first)
        let lower : Nat := Nat.pow 10 (all - places)
        let shownLast := (scaled last).tdiv lower
        let width :=
          if has given 'w' then
            max (exactText places ((scaled first).tdiv lower)).length
              (max (exactText places shownLast).length
                (if first.2.1 == 0 && last.2.1 == 0 then max (wordLength first words 0)
                  (wordLength last words (words.length - 1)) else 0))
          else 0
        let shown (n : Int) : String :=
          match format with
          | some format => (printFormat rowStyle 64 format [exactText all n]).text
          | none => showRowNumber width places (n.tdiv lower)
        let mark := (value? given 's').getD "\n"
        if !values.isEmpty then print (mark.intercalate (values.map shown) ++ "\n")
        return 0
where
  /-- The length of a number as it was written. -/
  wordLength (_n : Int × Nat × Nat) (words : List String) (index : Nat) : Nat :=
    if index == 0 && words.length == 1 then 1
    else
      let word := (words[index]?).getD ""
      if word.toList.all fun c => c.isDigit || c == '-' then word.length else 0

end StateExplorer.Shell.Tool
