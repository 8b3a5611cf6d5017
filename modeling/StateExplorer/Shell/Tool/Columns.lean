import StateExplorer.Shell.CharClass
import StateExplorer.Shell.Tool.Basic

/-!
# Programs for columns and widths

Lines are cut into columns by bytes or by fields, put side by side, or folded to a width. Columns are
counted from one.
-/

namespace StateExplorer.Shell.Tool

open Run

/-! ## Cutting parts out of lines -/

/-- A range of positions, which are counted from one; without a last one it is open. -/
structure Span where
  first : Nat
  last : Option Nat

/-- Whether a position is in a range. -/
def Span.has (s : Span) (n : Nat) : Bool := s.first ≤ n && s.last.all (n ≤ ·)

/-- A range from its text. -/
def Span.read (ofFields : Bool) (text : String) : Except String Span := do
  let zero : String :=
    if ofFields then "fields are numbered from 1" else "byte/character positions are numbered from 1"
  let bad (part : String) : String :=
    if ofFields then "invalid field value " ++ quoted part
    else "invalid byte/character position " ++ quoted part
  let number (part : String) : Except String Nat :=
    match Bytes.nat? part with
    | some n => .ok n
    | none => .error (bad part)
  match Bytes.split '-' text with
  | [one] =>
    if one.isEmpty then throw zero
    let n ← number one
    if n == 0 then throw zero
    return ⟨n, some n⟩
  | [low, high] =>
    if low.isEmpty && high.isEmpty then throw "invalid range with no endpoint: -"
    let first ← if low.isEmpty then pure 1 else number low
    if first == 0 then throw zero
    if high.isEmpty then return ⟨first, none⟩
    let last ← number high
    if last < first then throw "invalid decreasing range"
    return ⟨first, some last⟩
  | _ => throw (if ofFields then "invalid field range" else "invalid byte or character range")

/-- The ranges of a list between commas or blanks. -/
def readSpans (ofFields : Bool) (text : String) : Except String (List Span) :=
  ((Bytes.split ',' text).flatMap fun part =>
    (Bytes.split ' ' part).flatMap (Bytes.split '\t')).mapM (Span.read ofFields)

/-- Numbers each of some things from one on. -/
def numbered {α : Type} (items : List α) : List (α × Nat) := items.zipIdx 1

/-- Whether a position starts a range that does not go on from the one before it. -/
def startsSpan (spans : List Span) (n : Nat) : Bool :=
  spans.any (·.first == n) && !(spans.any fun s => s.first < n && s.has n) 

/-- The wanted characters of a line, with a mark between ranges. -/
def cutChars (wanted : Nat → Bool) (starts : Nat → Bool) (mark : String) (line : String) : String :=
  let step (acc : List String × Bool × Bool) (item : Char × Nat) : List String × Bool × Bool :=
    let (out, before, any) := acc
    if wanted item.2 then
      let gap := if any && (!before || starts item.2) then mark else ""
      ((gap.push item.1) :: out, true, true)
    else (out, false, any)
  String.join ((numbered line.toList).foldl step ([], false, false)).1.reverse

/-- Cuts parts out of lines. -/
def cut : Tool := fun _ name arguments =>
  let specs := valued [('b', "bytes"), ('c', "characters"), ('d', "delimiter"), ('f', "fields"),
      ('O', "output-delimiter")] ++
    flags [('n', ""), ('s', "only-delimited"), ('z', "zero-terminated"), ('C', "complement")]
  withOptions name 1 (options specs arguments) fun given paths => do
    let lists := given.filter fun g => ['b', 'c', 'f'].contains g.letter
    let mark := value? given 'd'
    let problem : Option String :=
      match lists with
      | [] => some "you must specify a list of bytes, characters, or fields"
      | [g] =>
        if g.letter != 'f' && mark.isSome then
          some "an input delimiter may be specified only when operating on fields"
        else if g.letter != 'f' && has given 's' then
          some "suppressing non-delimited lines makes sense\n\tonly when operating on fields"
        else if mark.any fun m => 1 < m.length then
          some "the delimiter must be a single character"
        else none
      | _ => some "only one list may be specified"
    match problem, lists with
    | some problem, _ =>
      misuse name problem
      return 1
    | none, [] => return 1
    | none, g :: _ =>
      match readSpans (g.letter == 'f') (g.value.getD "") with
      | .error message =>
        misuse name message
        return 1
      | .ok spans =>
        let (texts, failed) ← sources paths (tellPlainly name)
        let complements := has given 'C'
        let wanted (n : Nat) : Bool := (spans.any (·.has n)) != complements
        let lineMark := if has given 'z' then '\x00' else '\n'
        let lines := texts.flatMap fun (_, text) =>
          let parts := Bytes.split lineMark text
          if parts.getLast? == some "" then parts.dropLast else parts
        let shown :=
          if g.letter == 'f' then
            let mark := match mark.map String.toList with
              | some (c :: _) => c
              | some [] => '\x00'
              | none => '\t'
            let between := (value? given 'O').getD (String.singleton mark)
            lines.filterMap fun line =>
              match Bytes.split mark line with
              | [_] => if has given 's' then none else some line
              | parts =>
                some (between.intercalate
                  (((numbered parts).filter fun (_, n) => wanted n).map Prod.fst))
          else
            let between := (value? given 'O').getD ""
            lines.map (cutChars wanted (fun n => !complements && startsSpan spans n) between)
        print (String.join (shown.map fun line => line.push lineMark))
        return if failed then 1 else 0

/-! ## Putting lines side by side -/

/-- The marks of a list of them, of which an empty one stands for none. -/
def readMarks : List Char → Option (List String)
  | [] => some []
  | ['\\'] => none
  | '\\' :: c :: rest =>
    let mark := match c with
      | 'n' => "\n"
      | 't' => "\t"
      | '0' => ""
      | '\\' => "\\"
      | 'b' => "\x08"
      | 'f' => "\x0c"
      | 'r' => "\r"
      | 'v' => "\x0b"
      | c => String.singleton c
    (readMarks rest).map (mark :: ·)
  | c :: rest => (readMarks rest).map (String.singleton c :: ·)

/-- Joins parts with marks that are used in turn. -/
def joinInTurn (marks : List String) (parts : List String) : String :=
  let mark (i : Nat) : String := (marks[i % marks.length]?).getD ""
  match parts with
  | [] => ""
  | first :: rest =>
    first ++ String.join ((rest.zipIdx).map fun (part, i) => mark i ++ part)

/-- Rows of the first lines of each list, then of the next ones, until all are at their ends. A list
with a number is the input, which several of them share. -/
def rows (marks : List String) : (more : Nat) → List (Option Nat × List String) →
    (shared : List String) → List String
  | 0, _, _ => []
  | more + 1, lists, shared =>
    let isOver := lists.all fun (isShared, lines) =>
      if isShared.isSome then shared.isEmpty else lines.isEmpty
    if isOver then []
    else
      let step (acc : List String × List (Option Nat × List String) × List String)
          (list : Option Nat × List String) :=
        let (parts, rest, shared) := acc
        if list.1.isSome then
          (shared.headD "" :: parts, (list.1, []) :: rest, shared.tail)
        else (list.2.headD "" :: parts, (none, list.2.tail) :: rest, shared)
      let (parts, rest, shared) := lists.foldl step ([], [], shared)
      (joinInTurn marks parts.reverse ++ "\n") :: rows marks more rest.reverse shared

/-- Puts lines of files side by side, or the lines of each file on one line. -/
def paste : Tool := fun _ name arguments =>
  withOptions name 1 (options (valued [('d', "delimiters")] ++ flags [('s', "serial"),
      ('z', "zero-terminated")]) arguments) fun given paths => do
    let list := (value? given 'd').getD "\t"
    match readMarks list.toList with
    | none =>
      complain name ("delimiter list ends with an unescaped backslash: " ++ list)
      return 1
    | some marks =>
      let marks := if marks.isEmpty then [""] else marks
      let paths := if paths.isEmpty then ["-"] else paths
      if has given 's' then
        let (texts, failed) ← sources paths (tellPlainly name)
        for (_, text) in texts do
          print (joinInTurn marks (Bytes.lines text) ++ "\n")
        return if failed then 1 else 0
      else
        let mut lists : List (Option Nat × List String) := []
        let mut failed := false
        for path in paths do
          if !failed then
            if path == "-" then lists := (some 0, []) :: lists
            else
              match ← sourceText path with
              | .ok text => lists := (none, Bytes.lines text) :: lists
              | .error why =>
                tellPlainly name path why
                failed := true
        if failed then return 1
        let shared ←
          if lists.any (·.1.isSome) then do
            match ← input with
            | .ok text => pure (Bytes.lines text)
            | .error _ => pure []
          else pure []
        let most := lists.foldl (fun n list => n + list.2.length) (shared.length + 1)
        print (String.join (rows marks most lists.reverse shared))
        return 0

/-! ## Breaking lines -/

/-- The column after a character. -/
def columnAfter (ofBytes : Bool) (column : Nat) (c : Char) : Nat :=
  if ofBytes then column + 1
  else match c with
    | '\x08' => column - 1
    | '\r' => 0
    | '\t' => column + (8 - column % 8)
    | _ => column + 1

/-- The width of characters. -/
def widthOf (ofBytes : Bool) (chars : List Char) : Nat :=
  chars.foldl (columnAfter ofBytes) 0

/-- Breaks a line, at most so often, into parts that are no wider than a width; the part at work is
given last character first. -/
def breakLine (ofBytes atBlanks : Bool) (width : Nat) : (more : Nat) → List Char →
    (part : List Char) → (column : Nat) → List String
  | 0, _, part, _ => [String.ofList part.reverse]
  | _, [], part, _ => [String.ofList part.reverse]
  | more + 1, c :: rest, part, column =>
    let next := columnAfter ofBytes column c
    if next ≤ width || part.isEmpty then breakLine ofBytes atBlanks width more rest (c :: part) next
    else
      let isBlank (d : Char) : Bool := d == ' ' || d == '\t'
      let after := part.takeWhile (!isBlank ·)
      if atBlanks && after.length < part.length then
        let before := part.drop after.length
        String.ofList before.reverse ::
          breakLine ofBytes atBlanks width more (c :: rest) after (widthOf ofBytes after.reverse)
      else
        String.ofList part.reverse :: breakLine ofBytes atBlanks width more (c :: rest) [] 0

/-- Breaks lines that are too wide. -/
def fold : Tool := fun _ name arguments =>
  let arguments := arguments.map fun a =>
    match a.toList with
    | '-' :: d :: rest =>
      if d.isDigit && rest.all Char.isDigit then "-w" ++ String.ofList (d :: rest) else a
    | _ => a
  withOptions name 1 (options (flags [('b', "bytes"), ('c', ""), ('s', "spaces")] ++
      valued [('w', "width")]) arguments) fun given paths => do
    let text := (value? given 'w').getD "80"
    match Bytes.nat? text with
    | some (width + 1) =>
      let (texts, failed) ← sources paths (tellPlainly name)
      let broken (line : String) : String :=
        let isEnded := line.toList.getLast? == some '\n'
        let chars := if isEnded then line.toList.dropLast else line.toList
        let parts :=
          breakLine (has given 'b') (has given 's') (width + 1) (3 * chars.length + 3) chars [] 0
        "\n".intercalate parts ++ if isEnded then "\n" else ""
      for (_, text) in texts do
        print (String.join ((Bytes.endedLines text).map broken))
      return if failed then 1 else 0
    | some 0 =>
      complain name ("invalid number of columns: " ++ quoted text ++
        ": Numerical result out of range")
      return 1
    | none =>
      complain name ("invalid number of columns: " ++ quoted text)
      return 1

/-- Puts blanks in the place of tabs. -/
def expand : Tool := fun _ name arguments =>
  withOptions name 1 (options (flags [('i', "initial")] ++ valued [('t', "tabs")]) arguments)
    fun given paths => do
      let (texts, failed) ← sources paths (tellPlainly name)
      let size := max 1 (((value? given 't').bind Bytes.nat?).getD 8)
      let step (acc : List Char × Nat × Bool) (c : Char) : List Char × Nat × Bool :=
        let (out, column, stops) := acc
        match c with
        | '\n' => ('\n' :: out, 0, false)
        | '\t' =>
          if stops then ('\t' :: out, column + 1, stops)
          else
            let n := size - column % size
            (List.replicate n ' ' ++ out, column + n, stops)
        | c => (c :: out, column + 1, stops || (has given 'i' && c != ' '))
      for (_, text) in texts do
        print (String.ofList (text.toList.foldl step ([], 0, false)).1.reverse)
      return if failed then 1 else 0

end StateExplorer.Shell.Tool
