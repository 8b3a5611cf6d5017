import StateExplorer.Toml.Scalar
import StateExplorer.Toml.Table

/-!
# TOML

A document is read line by line: a header opens a table, a key with a value adds to the table
that was opened last. Lists may span lines and hold comments, inline tables may not. The result is
a tree of data; dates are records, and texts have no quotes left.
-/

namespace StateExplorer

namespace Toml

/-- Reads the items of a list after its opening bracket; at most `more` of them. -/
def listItems (item : Reader Datum) : (more : Nat) → Reader (List Datum)
  | 0, _ => none
  | more + 1, chars =>
    match skipGap false chars with
    | ']' :: rest => some ([], rest)
    | chars => do
      let (found, rest) ← item chars
      match skipGap false rest with
      | ',' :: rest =>
        let (others, rest) ← listItems item more rest
        return (found :: others, rest)
      | ']' :: rest => return ([found], rest)
      | _ => none

/-- Reads a key, an equals sign and a value into a table. -/
def assignment (item : Reader Datum) (entries : Entries) : Reader Entries := fun chars => do
  let ((path, last), rest) ← key chars
  let (found, rest) ← item (skipBlanks (← expect '=' rest))
  return (← entries.assign last found path, rest)

/-- Reads the entries of an inline table after its first key could begin; at most `more`. -/
def inlineEntries (item : Reader Datum) : (more : Nat) → Entries → Reader Entries
  | 0, _, _ => none
  | more + 1, entries, chars => do
    let (entries, rest) ← assignment item entries chars
    match skipBlanks rest with
    | ',' :: rest => inlineEntries item more entries rest
    | '\x7d' :: rest => return (entries, rest)
    | _ => none

/-- Reads an inline table after its opening brace. -/
def inlineTable (item : Reader Datum) : Reader Datum := fun chars => do
  match skipBlanks chars with
  | '\x7d' :: rest => return (.record [], rest)
  | chars =>
    let (entries, rest) ← inlineEntries item chars.length [] chars
    return ((Item.table .headed entries).toDatum, rest)

/-- Reads a value in which lists and inline tables nest at most `depth` deep. -/
def value : (depth : Nat) → Reader Datum
  | depth, chars =>
    match depth, chars with
    | depth + 1, '[' :: rest =>
      (listItems (value depth) chars.length rest).map fun (items, rest) => (.list items, rest)
    | depth + 1, '\x7b' :: rest => inlineTable (value depth) rest
    | _, '"' :: _ => (text chars).map fun (s, rest) => (.ofString s, rest)
    | _, '\'' :: _ => (text chars).map fun (s, rest) => (.ofString s, rest)
    | _, _ => scalar chars

/-- A document while it is read: its tables, and the path of the one that was opened last. -/
structure Reading where
  root : Entries
  opened : List String

/-- Opens a table or an element of an array of tables that a header names. -/
def Reading.open (reading : Reading) (path : List String) (last : String)
    (f : String → Entries → Option Entries) : Option Reading := do
  return ⟨← reading.root.descend (f last) path, path ++ [last]⟩

/-- Reads one line that holds more than a comment. -/
def line (reading : Reading) : Reader Reading
  | '[' :: '[' :: chars => do
    let ((path, last), rest) ← key chars
    let rest ← expect ']' (← expect ']' rest)
    return (← reading.open path last fun k => Entries.openElement k, ← endLine? rest)
  | '[' :: chars => do
    let ((path, last), rest) ← key chars
    let rest ← expect ']' rest
    return (← reading.open path last fun k => Entries.openTable k, ← endLine? rest)
  | chars => do
    let ((path, last), rest) ← key chars
    let (found, rest) ← value maxDepth (skipBlanks (← expect '=' rest))
    let root ← reading.root.descend (fun table => table.assign last found path) reading.opened
    return (⟨root, reading.opened⟩, ← endLine? rest)

/-- Reads lines to the end of a document, at most `more` of them. -/
def lines : (more : Nat) → Reading → List Char → Option Reading
  | 0, _, _ => none
  | more + 1, reading, chars =>
    match skipBlanks chars with
    | [] => some reading
    | chars =>
      match endLine? chars with
      | some rest => lines more reading rest
      | none => do
        let (reading, rest) ← line reading chars
        lines more reading rest

/-- A record written as a list may have more items than entries. -/
def lenient : Datum.Form := ⟨true⟩

end Toml

/-- The tree of a TOML document, which may begin with a byte order mark. -/
def Datum.ofToml? (document : String) : Option Datum := do
  let chars := match document.toList with
    | '\ufeff' :: rest => rest
    | chars => chars
  let reading ← Toml.lines (chars.length + 1) ⟨[], []⟩ chars
  return (Toml.Item.table .headed reading.root).toDatum

end StateExplorer
