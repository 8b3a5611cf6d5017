import StateExplorer.Shell.CharClass
import StateExplorer.Shell.Tool.Basic

/-!
# The first and the last part of texts

So many lines or bytes of a text are passed on, counted from one of its ends.
-/

namespace StateExplorer.Shell.Tool

open Run

/-- The factor that the letters after a number stand for. -/
def unit? (letters : String) : Option Nat :=
  let kilo := 1024
  match letters with
  | "" => some 1
  | "b" => some 512
  | "kB" | "KB" => some 1000
  | "k" | "K" | "KiB" => some kilo
  | "MB" => some 1000000
  | "m" | "M" | "MiB" => some (kilo * kilo)
  | "GB" => some 1000000000
  | "G" | "GiB" => some (kilo * kilo * kilo)
  | _ => none

/-- The value of digits with a unit. -/
def amount? (text : String) : Option Nat :=
  let (n, count, rest) := spanDigits 10 text.toList
  match unit? (String.ofList rest) with
  | some factor =>
    if count == 0 && rest.isEmpty then none
    else some ((if count == 0 then 1 else n) * factor)
  | none => none

/-- A part of a text at one of its ends: so many lines or bytes, counted from the start or from the
end. -/
structure Extent where
  ofBytes : Bool
  fromStart : Bool
  size : Nat

/-- The pieces of a text that are counted: bytes, or lines with the marks that end them. -/
def pieces (ofBytes : Bool) (mark : Char) (text : String) : List String :=
  if ofBytes then text.toList.map String.singleton
  else
    let parts := Bytes.split mark text
    let ended := parts.dropLast.map (·.push mark)
    match parts.getLast? with
    | some "" => ended
    | some last => ended ++ [last]
    | none => ended

/-- The first part of a text: so many pieces, or all but so many. -/
def Extent.first (e : Extent) (mark : Char) (text : String) : String :=
  if e.ofBytes && e.fromStart then Bytes.take e.size text
  else if e.ofBytes then Bytes.take (text.length - e.size) text
  else
    let parts := pieces false mark text
    String.join (parts.take (if e.fromStart then e.size else parts.length - e.size))

/-- The last part of a text: so many pieces, or all from a piece on. -/
def Extent.last (e : Extent) (mark : Char) (text : String) : String :=
  if e.ofBytes && e.fromStart then Bytes.drop (e.size - 1) text
  else if e.ofBytes then Bytes.drop (text.length - e.size) text
  else
    let parts := pieces false mark text
    String.join (parts.drop (if e.fromStart then e.size - 1 else parts.length - e.size))

/-- The words for a number that cannot be read. -/
def invalidAmount (ofBytes : Bool) (text : String) : String :=
  "invalid number of " ++ (if ofBytes then "bytes" else "lines") ++ ": " ++ quoted text ++
    if (Bytes.nat? text).isSome then ": Value too large for defined data type" else ""

/-- Reads a number, which must not be too large. -/
def smallAmount? (text : String) : Option Nat :=
  (amount? text).filter (· < 0x8000000000000000)

/-- An argument such as `-5` before all others, as the option that it is short for. -/
def withoutShortForm (arguments : List String) : Except String (List String) :=
  match arguments with
  | first :: rest =>
    match first.toList with
    | '-' :: d :: more =>
      if d.isDigit then
        let (digits, letters) := (d :: more).span Char.isDigit
        let isKnown (c : Char) : Bool := ['c', 'l', 'q', 'v', 'z', 'f', 'b', 'k', 'm'].contains c
        match letters.find? (!isKnown ·) with
        | some c => .error ("invalid trailing option -- " ++ String.singleton c)
        | none =>
          let letter := if letters.contains 'c' then "-c" else "-n"
          let others := (letters.filter fun c => ['q', 'v', 'z', 'f'].contains c).map fun c =>
            String.ofList ['-', c]
          .ok ((letter ++ String.ofList digits) :: others ++ rest)
      else .ok arguments
    | _ => .ok arguments
  | [] => .ok []

/-- The text of a path of which so much is wanted. One device has as many zeros as anyone wants. -/
def partText (e : Extent) (path : String) : Run (Except Unreadable String) := do
  let full ← fullPath path
  if full == "/dev/zero" && e.ofBytes && e.fromStart then return .ok ("".pushn '\x00' e.size)
  else sourceText path

/-- Passes a part of each file on, under its name where there are several; what comes after a first part
is given back to the input. -/
def passParts (name : String) (given : List Given) (paths : List String) (e : Extent)
    (isFirst : Bool) (mark : Char) : Run Nat := do
  let paths := if paths.isEmpty then ["-"] else paths
  let titled := (1 < paths.length || has given 'v') && !has given 'q'
  let mut status := 0
  let mut first := true
  for path in paths do
    let title := if path == "-" then "standard input" else path
    let heading := (if first then "" else "\n") ++ "==> " ++ title ++ " <==\n"
    match ← partText e path with
    | .ok text =>
      if titled then print heading
      first := false
      let shown := if isFirst then e.first mark text else e.last mark text
      print shown
      if path == "-" && isFirst then unreadInput (text.length - shown.length)
    | .error why =>
      status := 1
      match why with
      | .missing _ =>
        complain name ("cannot open " ++ quotedPath path ++ " for reading: " ++ why.message)
      | why =>
        if titled then print heading
        first := false
        complain name ("error reading " ++ quotedPath title ++ ": " ++ why.message)
  return status

/-- Passes the first part of files on. -/
def head : Tool := fun _ name arguments =>
  withOptions name 1 ((withoutShortForm arguments).bind (options (valued [('n', "lines"),
      ('c', "bytes")] ++ flags [('q', "quiet"), ('q', "silent"), ('v', "verbose"),
      ('z', "zero-terminated")]))) fun given paths => do
    let wanted := (given.reverse.find? fun g => g.letter == 'n' || g.letter == 'c')
    let ofBytes := wanted.any (·.letter == 'c')
    let text := (wanted.bind Given.value).getD "10"
    let (fromStart, digits) := match text.toList with
      | '-' :: rest => (false, rest)
      | '+' :: rest => (true, rest)
      | rest => (true, rest)
    match smallAmount? (String.ofList digits) with
    | none =>
      complain name (invalidAmount ofBytes text)
      return 1
    | some n =>
      let mark := if has given 'z' then '\x00' else '\n'
      passParts name given paths ⟨ofBytes, fromStart, n⟩ true mark

/-- Passes the last part of files on. -/
def tail : Tool := fun _ name arguments =>
  let arguments := match arguments with
    | first :: rest =>
      match first.toList with
      | '+' :: d :: more =>
        if d.isDigit && rest.length ≤ 1 then ("-n+" ++ String.ofList (d :: more)) :: rest
        else arguments
      | _ => arguments
    | [] => []
  withOptions name 1 ((withoutShortForm arguments).bind (options (valued [('n', "lines"),
      ('c', "bytes"), ('s', "sleep-interval"), ('p', "pid")] ++ [⟨'f', "follow", .perhaps⟩] ++
      flags [('F', ""), ('q', "quiet"), ('q', "silent"), ('v', "verbose"),
      ('z', "zero-terminated"), ('\x01', "retry")]))) fun given paths => do
    let wanted := (given.reverse.find? fun g => g.letter == 'n' || g.letter == 'c')
    let ofBytes := wanted.any (·.letter == 'c')
    let text := (wanted.bind Given.value).getD "10"
    let (fromStart, digits) := match text.toList with
      | '-' :: rest => (false, rest)
      | '+' :: rest => (true, rest)
      | rest => (false, rest)
    match smallAmount? (String.ofList digits) with
    | none =>
      complain name (invalidAmount ofBytes text)
      return 1
    | some n =>
      let mark := if has given 'z' then '\x00' else '\n'
      passParts name given paths ⟨ofBytes, fromStart, n⟩ false mark

end StateExplorer.Shell.Tool
