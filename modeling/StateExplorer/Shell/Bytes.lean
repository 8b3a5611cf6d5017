import StateExplorer.Text.Decimal
import StateExplorer.Text.Utf8

/-!
# Texts of bytes

A machine knows bytes, not characters. Its texts are strings each of whose characters is the code
of one byte, so that every row of bytes is a text, also one that is no UTF-8.
-/

namespace StateExplorer.Shell.Bytes

/-- The bytes of a text in UTF-8, a character for each of them. -/
def ofText (s : String) : String :=
  String.ofList ((Text.bytes s).map fun b => Char.ofNat b.toNat)

/-- The bytes that a text of bytes stands for. -/
def toList (s : String) : List UInt8 :=
  s.toList.map fun c => UInt8.ofNat c.toNat

/-- The lines of a text, without the line feeds that end them. -/
def lines (text : String) : List String :=
  match (text.splitOn "\n").reverse with
  | "" :: rest => rest.reverse
  | parts => parts.reverse

/-- Whether the last line of a text is ended. -/
def isEnded (text : String) : Bool :=
  text.toList.getLast? == some '\n'

/-- The lines of a text, with the line feeds that end them. -/
def endedLines (text : String) : List String :=
  match (text.splitOn "\n").reverse with
  | last :: rest => (rest.map (· ++ "\n")).reverse ++ if last.isEmpty then [] else [last]
  | [] => []

/-- Lines put together, with a line feed after each. -/
def unlines (lines : List String) : String :=
  String.join (lines.map (· ++ "\n"))

/-- A text without the line feeds at its end. -/
def chomp (text : String) : String :=
  String.ofList (text.toList.reverse.dropWhile (· == '\n')).reverse

/-- A text with blanks before it up to a width. -/
def padLeft (width : Nat) (text : String) : String :=
  "".pushn ' ' (width - text.length) ++ text

/-- A text with blanks after it up to a width. -/
def padRight (width : Nat) (text : String) : String :=
  text.pushn ' ' (width - text.length)

/-- The value of a text of decimal digits. -/
def nat? (text : String) : Option Nat := Text.digits? text.toList

/-- The value of a text of decimal digits after an optional sign. -/
def int? (text : String) : Option Int :=
  match text.toList with
  | '-' :: digits => (Text.digits? digits).map fun n => -(n : Int)
  | '+' :: digits => (Text.digits? digits).map Int.ofNat
  | digits => (Text.digits? digits).map Int.ofNat

/-- A blank of the plainest kind: a space, a tab, a line feed or one of its kin. -/
def isSpace (c : Char) : Bool :=
  c == ' ' || (9 ≤ c.toNat && c.toNat ≤ 13)

/-- Whether a text starts with another one. -/
def startsWith (text start : String) : Bool :=
  start.toList.isPrefixOf text.toList

/-- The first so many characters of a text. -/
def take (n : Nat) (text : String) : String := String.ofList (text.toList.take n)

/-- A text without its first so many characters. -/
def drop (n : Nat) (text : String) : String := String.ofList (text.toList.drop n)

/-- The parts of a text between occurrences of a character. -/
def split (mark : Char) (text : String) : List String :=
  text.splitOn (String.singleton mark)

/-- The words of a text between blanks. -/
def words (text : String) : List String :=
  let step (c : Char) (acc : List (List Char) × List Char) : List (List Char) × List Char :=
    if isSpace c then (if acc.2.isEmpty then acc.1 else acc.2 :: acc.1, [])
    else (acc.1, c :: acc.2)
  let (done, last) := text.toList.foldr step ([], [])
  ((if last.isEmpty then done else last :: done)).map String.ofList

end StateExplorer.Shell.Bytes
