import StateExplorer.Datum.Basic

/-!
# Tables of TOML

A table may come to be in three ways: it is implied by the header of a table inside it, by a
dotted key, or it has a header of its own. How it came to be decides what may still be added. A
header may be given once, also to a table that was only implied; dotted keys reach only tables
without a header, and end in one that dotted keys made.
-/

namespace StateExplorer.Toml

/-- How a table came to be. -/
inductive Origin
  | implied
  | dotted
  | headed
deriving DecidableEq

/-- What a key of a table stands for. -/
inductive Item
  | value (datum : Datum)
  | table (origin : Origin) (entries : List (String × Item))
  | tables (elements : List (List (String × Item)))

/-- The entries of a table. -/
abbrev Entries := List (String × Item)

namespace Entries

/-- The entries with one replaced, or put at the end if the key is new. -/
def put (entries : Entries) (key : String) (item : Item) : Entries :=
  if entries.any (·.1 == key) then entries.map fun e => if e.1 = key then (key, item) else e
  else entries ++ [(key, item)]

/-- The tables with the last one changed. -/
def changeLast (f : Entries → Option Entries) : List Entries → Option (List Entries)
  | [] => none
  | [last] => (f last).map fun last => [last]
  | first :: rest => (changeLast f rest).map (first :: ·)

/-- The entries with a value under a new key, reached by the parts of a dotted key. -/
def assign (key : String) (datum : Datum) : List String → Entries → Option Entries
  | [], entries => if entries.any (·.1 == key) then none else some (entries.put key (.value datum))
  | part :: path, entries =>
    match entries.lookup part with
    | none => (assign key datum path []).map fun inner => entries.put part (.table .dotted inner)
    | some (.table origin inner) =>
      if origin = .headed || (path.isEmpty && origin != .dotted) then none
      else (assign key datum path inner).map fun inner => entries.put part (.table origin inner)
    | some (.tables elements) =>
      if path.isEmpty then none
      else (changeLast (assign key datum path) elements).map fun elements =>
        entries.put part (.tables elements)
    | some (.value _) => none

/-- The entries with a change to the table that a header's path leads to: through tables, and
through the last of an array of tables. Tables that are missing are implied. -/
def descend (f : Entries → Option Entries) : List String → Entries → Option Entries
  | [], entries => f entries
  | part :: path, entries =>
    match entries.lookup part with
    | none => (descend f path []).map fun inner => entries.put part (.table .implied inner)
    | some (.table origin inner) =>
      (descend f path inner).map fun inner => entries.put part (.table origin inner)
    | some (.tables elements) =>
      (changeLast (descend f path) elements).map fun elements =>
        entries.put part (.tables elements)
    | some (.value _) => none

/-- The entries with a table under a key that a header names. -/
def openTable (key : String) (entries : Entries) : Option Entries :=
  match entries.lookup key with
  | none => some (entries.put key (.table .headed []))
  | some (.table .implied inner) => some (entries.put key (.table .headed inner))
  | _ => none

/-- The entries with one more table in the array of tables that a header names. -/
def openElement (key : String) (entries : Entries) : Option Entries :=
  match entries.lookup key with
  | none => some (entries.put key (.tables [[]]))
  | some (.tables elements) => some (entries.put key (.tables (elements ++ [[]])))
  | _ => none

end Entries

mutual

/-- An item as data. -/
def Item.toDatum : Item → Datum
  | .value datum => datum
  | .table _ entries => .record (entriesToData entries)
  | .tables elements => .list (elementsToData elements)

/-- The entries of a table as data. -/
def entriesToData : List (String × Item) → List (Option String × Datum)
  | [] => []
  | entry :: rest => entryToData entry :: entriesToData rest

/-- An entry of a table as data. -/
def entryToData : String × Item → Option String × Datum
  | (key, item) => (some key, item.toDatum)

/-- The tables of an array as data. -/
def elementsToData : List (List (String × Item)) → List Datum
  | [] => []
  | entries :: rest => .record (entriesToData entries) :: elementsToData rest

end

end StateExplorer.Toml
