import StateExplorer.Shell.Regex
import StateExplorer.Shell.Tool.Ends

/-!
# Searching lines

Lines that match one of some patterns are shown, or those that match none, or only what matched. Lines
around them can be shown as well.
-/

namespace StateExplorer.Shell.Tool

open Run

namespace Grep

/-- What is looked for in a line. -/
structure Search where
  patterns : List Regex
  folds : Bool
  wholeWords : Bool
  wholeLines : Bool
  inverts : Bool

/-- Whether a match stands on its own as a word. -/
def isWord (s : Regex.Subject) (first last : Nat) : Bool :=
  !s.isWordBefore first && !s.isWordAt last

/-- The end of the longest match that starts at an offset. -/
def Search.endAt? (search : Search) (s : Regex.Subject) (offset : Nat) : Option Nat :=
  let all := search.patterns.flatMap fun r => r.ends s r.hasAgain ⟨offset, []⟩
  let fitting := all.filter fun p =>
    (!search.wholeLines || (offset == 0 && p.offset == s.text.size)) &&
      (!search.wholeWords || search.wholeLines || isWord s offset p.offset)
  match fitting with
  | [] => none
  | p :: rest => some (rest.foldl (fun n q => max n q.offset) p.offset)

/-- The first match from an offset on, at most so much later. -/
def Search.find? (search : Search) (s : Regex.Subject) : (more : Nat) → (offset : Nat) →
    Option (Nat × Nat)
  | 0, offset => (search.endAt? s offset).map fun last => (offset, last)
  | more + 1, offset =>
    match search.endAt? s offset with
    | some last => some (offset, last)
    | none => if search.wholeLines then none else search.find? s more (offset + 1)

/-- A line as something to be searched. -/
def Search.subject (search : Search) (line : String) : Regex.Subject :=
  ⟨line.toList.toArray, search.folds, false, true⟩

/-- Whether a line is wanted. -/
def Search.wants (search : Search) (line : String) : Bool :=
  let s := search.subject line
  (search.find? s s.text.size 0).isSome != search.inverts

/-- The matches in a line from an offset on that are not empty, at most so many. -/
def Search.parts (search : Search) (s : Regex.Subject) : (more : Nat) → (offset : Nat) →
    List (Nat × Nat)
  | 0, _ => []
  | more + 1, offset =>
    if s.text.size < offset then []
    else
      match search.find? s (s.text.size - offset) offset with
      | none => []
      | some (first, last) =>
        if first == last then search.parts s more (first + 1)
        else (first, last) :: search.parts s more last

/-- How what was found is shown. -/
structure View where
  counts : Bool
  onlyParts : Bool
  names : Bool
  numbers : Bool
  offsets : Bool
  tabs : Bool
  nulls : Bool
  before : Nat
  after : Nat
  most : Option Nat
  mark : Char

/-- The text before a line: the name of the file, the number of the line, and its place. -/
def View.front (v : View) (title : String) (sign : Char) (number offset : Nat) : String :=
  let sep := String.singleton sign
  (if v.names then title ++ (if v.nulls then "\x00" else sep) else "") ++
    (if v.numbers then (if v.tabs then Bytes.padLeft 3 (toString number) else toString number) ++ sep
      else "") ++
    (if v.offsets then (if v.tabs then Bytes.padLeft 6 (toString offset) else toString offset) ++ sep
      else "") ++
    (if v.tabs && (v.names || v.numbers || v.offsets) then "\t" else "")

/-- A line with its number, its place, and whether it is wanted. -/
structure Entry where
  line : String
  number : Nat
  offset : Nat
  wanted : Bool

/-- The lines of a text with what is known about them; after so many that are wanted the rest are
not. -/
def entries (search : Search) (most : Option Nat) (lines : List String) : List Entry :=
  let step (acc : List Entry × Nat × Nat × Nat) (line : String) :=
    let (out, number, offset, found) := acc
    let wanted := most.all (found < ·) && search.wants line
    (⟨line, number, offset, wanted⟩ :: out, number + 1, offset + line.length + 1,
      if wanted then found + 1 else found)
  (lines.foldl step ([], 1, 0, 0)).1.reverse

/-- The entries that are shown: the wanted ones and those around them, each with whether it follows a
gap. -/
def around (before after : Nat) (all : List Entry) : List (Entry × Bool) :=
  let wanted := (all.filter Entry.wanted).map Entry.number
  let near (rest : List Nat) (e : Entry) : Bool :=
    match rest with
    | n :: _ => e.number ≤ n && n ≤ e.number + before
    | [] => false
  let step (acc : List (Entry × Bool) × List Nat × Option Nat × Option Nat) (e : Entry) :=
    let (out, rest, lastWanted, lastShown) := acc
    let isAfter := lastWanted.any fun n => e.number ≤ n + after
    if e.wanted || isAfter || near rest e then
      let gap := lastShown.any fun n => n + 1 < e.number
      ((e, gap) :: out, if e.wanted then rest.tail else rest,
        if e.wanted then some e.number else lastWanted, some e.number)
    else (out, rest, lastWanted, lastShown)
  (all.foldl step ([], wanted, none, none)).1.reverse

/-- What is shown of a text. -/
def View.ofText (v : View) (search : Search) (title : String) (startsWithGap : Bool)
    (text : String) : String × Nat :=
  let parts := Bytes.split v.mark text
  let lines := if parts.getLast? == some "" then parts.dropLast else parts
  let all := entries search v.most lines
  let found := (all.filter Entry.wanted).length
  let sep := if v.names then title ++ (if v.nulls then "\x00" else ":") else ""
  if v.counts then (sep ++ toString found ++ "\n", found)
  else if v.onlyParts then
    if search.inverts then ("", found)
    else
      let shown := (all.filter Entry.wanted).flatMap fun e =>
        let s := search.subject e.line
        (search.parts s (s.text.size + 1) 0).map fun (first, last) =>
          (v.front title ':' e.number (e.offset + first) ++
            Bytes.take (last - first) (Bytes.drop first e.line)).push v.mark
      (String.join shown, found)
  else
    let hasContext := 0 < v.before || 0 < v.after
    let shown := (around v.before v.after all).map fun (e, gap) =>
      (if gap && hasContext then "--\n" else "") ++
        (v.front title (if e.wanted then ':' else '-') e.number e.offset ++ e.line).push v.mark
    let start := if startsWithGap && hasContext && !shown.isEmpty then "--\n" else ""
    (start ++ String.join shown, found)

/-- The options. -/
def specs : List Spec :=
  flags [('E', "extended-regexp"), ('F', "fixed-strings"), ('G', "basic-regexp"),
      ('P', "perl-regexp"), ('i', "ignore-case"), ('y', ""), ('J', "no-ignore-case"),
      ('w', "word-regexp"), ('x', "line-regexp"), ('z', "null-data"), ('s', "no-messages"),
      ('v', "invert-match"), ('V', "version"), ('b', "byte-offset"), ('n', "line-number"),
      ('H', "with-filename"), ('h', "no-filename"), ('o', "only-matching"), ('q', "quiet"),
      ('q', "silent"), ('a', "text"), ('I', ""), ('r', "recursive"),
      ('R', "dereference-recursive"), ('L', "files-without-match"), ('l', "files-with-matches"),
      ('c', "count"), ('T', "initial-tab"), ('Z', "null"), ('U', "binary"), ('u', ""),
      ('X', "line-buffered")] ++
    valued [('e', "regexp"), ('f', "file"), ('m', "max-count"), ('A', "after-context"),
      ('B', "before-context"), ('C', "context"), ('d', "directories"), ('D', "devices"),
      ('N', "binary-files"), ('O', "label"), ('K', "include"), ('M', "exclude"),
      ('Q', "exclude-dir")] ++
    [⟨'Y', "color", .perhaps⟩, ⟨'Y', "colour", .perhaps⟩]

/-- A short form such as `-3` as the option that it stands for. -/
def withoutDigits (arguments : List String) : List String :=
  arguments.map fun a =>
    match a.toList with
    | '-' :: d :: rest =>
      if d.isDigit && rest.all Char.isDigit then "-C" ++ String.ofList (d :: rest) else a
    | _ => a

/-- A pattern of characters that stand for themselves. -/
def fixed (text : String) : Regex :=
  text.toList.foldr (fun c rest => .append (.char c) rest) .empty

/-- A pattern in which a backslash before a letter also names a class of digits. -/
def withDigitClasses : List Char → List Char
  | '\\' :: 'd' :: rest => "[0-9]".toList ++ withDigitClasses rest
  | '\\' :: 'D' :: rest => "[^0-9]".toList ++ withDigitClasses rest
  | '\\' :: 't' :: rest => '\t' :: withDigitClasses rest
  | '(' :: '?' :: ':' :: rest => '(' :: withDigitClasses rest
  | '\\' :: c :: rest => '\\' :: c :: withDigitClasses rest
  | c :: rest => c :: withDigitClasses rest
  | [] => []

/-- The texts in directories below some paths, with their names. -/
def below : (more : Nat) → List String → Run (List String)
  | 0, _ => return []
  | _, [] => return []
  | more + 1, path :: rest => do
    match ← entryAt path with
    | some .directory =>
      let names := (← get).names (← fullPath path)
      let start := if path.toList.getLast? == some '/' then path else path ++ "/"
      let inside ← below more (names.map (start ++ ·))
      return inside ++ (← below more rest)
    | _ => return path :: (← below more rest)

/-- The kind of the patterns, by the options. -/
def patternKind (given : List Given) (base : Char) : Char :=
  (given.reverse.find? fun g => ['E', 'F', 'G', 'P'].contains g.letter).elim base Given.letter

/-- The extended or plain expression, or the fixed text, of each pattern. -/
def readPatterns (given : List Given) (base : Char) (patterns : List String) :
    Except String (List Regex) :=
  let kind := patternKind given base
  patterns.mapM fun pattern =>
    if kind == 'F' then .ok (fixed pattern)
    else
      let text := if kind == 'P' then String.ofList (withDigitClasses pattern.toList) else pattern
      let parts := text.toList
      let isClass := match parts with
        | '[' :: ':' :: _ => parts.length < 20 && Bytes.startsWith (String.ofList parts.reverse) "]:"
        | _ => false
      if isClass then .error Regex.Fault.classSyntax.message
      else
        let plain := (Regex.read (kind != 'G') false text).map Prod.fst
        let found := match (Regex.read (kind != 'G') true text).map Prod.fst with
          | .ok regex => if has given 'o' || regex.hasAgain then plain else .ok regex
          | .error _ => plain
        found.mapError Regex.Fault.message

/-- What is repeated at the start of a branch of an extended expression, where there is nothing yet to
be repeated. -/
def strayRepeats : (more : Nat) → (atStart : Bool) → List Char → List String
  | 0, _, _ => []
  | _, _, [] => []
  | more + 1, atStart, c :: rest =>
    match c with
    | '\\' =>
      let isEdge := rest.head?.any fun d => ['b', 'B', '<', '>', '\x60', '\''].contains d
      strayRepeats more (atStart && isEdge) rest.tail
    | '(' | '|' => strayRepeats more true rest
    | '^' | '$' => strayRepeats more atStart rest
    | '*' | '+' | '?' =>
      (if atStart then [String.singleton c] else []) ++ strayRepeats more atStart rest
    | '{' =>
      match Regex.interval true rest with
      | .ok (_, _, rest) =>
        (if atStart then ["\x7b...\x7d"] else []) ++ strayRepeats more false rest
      | .error _ => strayRepeats more false rest
    | '[' =>
      let start := match rest with
        | '^' :: ']' :: _ => 2
        | '^' :: _ => 1
        | ']' :: _ => 1
        | _ => 0
      strayRepeats more false ((rest.drop start).dropWhile (· != ']')).tail
    | _ => strayRepeats more false rest

end Grep

open Grep in
/-- Searches files for lines; the letter tells how patterns are read where nothing else is said. -/
def grep (base : Char) : Tool := fun _ name arguments => do
  let usage : Run Unit := printError
    ("Usage: grep [OPTION]... PATTERNS [FILE]...\nTry 'grep --help' for more information.\n")
  match options specs (withoutDigits arguments) with
  | .error message =>
    complain name message
    usage
    return 2
  | .ok (given, words) =>
    let is (letter : Char) : Bool := has given letter
    let files ← (given.filter (·.letter == 'f')).mapM fun g => sourceText (g.value.getD "")
    let fromFiles := files.flatMap fun file => match file with
      | .ok text => Bytes.lines text
      | .error _ => []
    let named := given.any fun g => g.letter == 'e' || g.letter == 'f'
    let fromOptions := (given.filter (·.letter == 'e')).flatMap fun g =>
      (g.value.getD "").splitOn "\n"
    match named, words with
    | false, [] =>
      usage
      return 2
    | _, _ =>
      let patterns := if named then fromOptions ++ fromFiles else (words.headD "").splitOn "\n"
      let paths := if named then words else words.tail
      let number (letter : Char) : Option (Option Nat) := (value? given letter).map Bytes.nat?
      if number 'm' == some none then
        complain name "invalid max count"
        return 2
      match ['A', 'B', 'C'].find? fun c => number c == some none with
      | some c =>
        complain name ((value? given c).getD "" ++ ": invalid context length argument")
        return 2
      | none =>
        match readPatterns given base patterns with
        | .error message =>
          complain name message
          return 2
        | .ok regexes =>
          if patternKind given base == 'E' then
            for pattern in patterns do
              for sign in strayRepeats (pattern.length + 1) true pattern.toList do
                complain name ("warning: " ++ sign ++ " at start of expression")
          let context := (number 'C').join.getD 0
          let search : Search :=
            ⟨regexes, is 'i' || is 'y', is 'w', is 'x', is 'v'⟩
          let recursive := is 'r' || is 'R' || value? given 'd' == some "recurse"
          let paths ←
            if recursive then
              if paths.isEmpty then do
                let found ← below 1000 ["."]
                pure (found.map (Bytes.drop 2))
              else below 1000 paths
            else pure (if paths.isEmpty then ["-"] else paths)
          let view : View :=
            ⟨is 'c', is 'o', (1 < paths.length || recursive || is 'H') && !is 'h', is 'n', is 'b',
              is 'T', is 'Z', (number 'B').join.getD context, (number 'A').join.getD context,
              (number 'm').join, if is 'z' then '\x00' else '\n'⟩
          let quiet := is 'q'
          let lists := (given.reverse.find? fun g => g.letter == 'l' || g.letter == 'L').map (·.letter)
          let mut any := false
          let mut failed := false
          let mut printed := false
          for path in paths do
            if !(quiet && any) then
              match ← sourceText path with
              | .error why =>
                let skips := match why with
                  | .isDirectory => value? given 'd' == some "skip"
                  | _ => false
                if !skips then
                  failed := true
                  if !is 's' then
                    complain name (path ++ ": " ++ why.message)
              | .ok text =>
                let title := if path == "-" then (value? given 'O').getD "(standard input)" else path
                let isBinary := text.toList.contains '\x00' && !is 'a' && !is 'z' &&
                  value? given 'N' != some "text"
                if !(isBinary && (is 'I' || value? given 'N' == some "without-match")) then
                  let (shown, found) := view.ofText search title printed text
                  if 0 < found then any := true
                  if quiet then pure ()
                  else if lists.isSome then
                    if (0 < found) == (lists == some 'l') then
                      print (title ++ if is 'Z' then "\x00" else "\n")
                  else if isBinary && !view.counts then
                    if 0 < found then
                      print (name ++ ": " ++ title ++ ": binary file matches\n")
                  else
                    print shown
                    if !shown.isEmpty then printed := true
          if quiet && any then return 0
          if failed then return 2
          return if any then 0 else 1

end StateExplorer.Shell.Tool
