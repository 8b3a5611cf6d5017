import StateExplorer.NameMap
import StateExplorer.Text.Decimal

/-!
# Trees of data

A `Datum` is what a written document says before anyone asks for a certain type: texts, numbers
as they were written, lists, and records whose entries keep their order and may repeat a key. The
readers below ask for a type. They answer `none` where the document does not have it and say no
more than that.

A reader for a record looks up its keys by name. A record may also be written as a list of its
entries in order; whether such a list may go on after the last entry depends on the kind of
document.
-/

namespace StateExplorer

/-- A tree of data. A text is `none` when its escapes do not form characters. -/
inductive Datum
  | null
  | flag (value : Bool)
  | number (lexeme : String)
  | text (content : Option String)
  | list (items : List Datum)
  | record (entries : List (Option String × Datum))

namespace Datum

instance : Inhabited Datum := ⟨.null⟩

/-- A text that is one. -/
def ofString (s : String) : Datum :=
  .text (some s)

/-- A number written in decimal. -/
def ofNat (n : Nat) : Datum :=
  .number (toString n)

/-- A list of texts. -/
def ofStrings (items : List String) : Datum :=
  .list (items.map ofString)

/-- A record of named entries. -/
def ofEntries (entries : List (String × Datum)) : Datum :=
  .record (entries.map fun (name, value) => (some name, value))

/-- A record of the entries of a map. -/
def ofMap {α : Type} (f : α → Datum) (map : NameMap α) : Datum :=
  ofEntries (map.entries.map fun (name, value) => (name, f value))

/-- The characters, if this is a text. -/
def string? : Datum → Option String
  | .text content => content
  | _ => none

/-- The truth value, if this is one. -/
def bool? : Datum → Option Bool
  | .flag value => some value
  | _ => none

/-- The number, if this is written as digits alone and a 64-bit word holds it. -/
def nat? : Datum → Option Nat
  | .number lexeme => (Text.digits? lexeme.toList).filter (· ≤ Text.maxWord)
  | _ => none

/-- The items of a list, if each of them can be read. -/
def list? {α : Type} (f : Datum → Option α) : Datum → Option (List α)
  | .list items => items.mapM f
  | _ => none

/-- What a reader finds unless this is null. -/
def optional? {α : Type} (f : Datum → Option α) : Datum → Option (Option α)
  | .null => some none
  | d => (f d).map some

/-- A record as a map, if every entry can be read; of a repeated key the last entry counts. -/
def map? {α : Type} (f : Datum → Option α) : Datum → Option (NameMap α)
  | .record entries => do
    let named ← entries.mapM fun e => e.1.bind fun key => (f e.2).map fun value => (key, value)
    return .ofList named
  | _ => none

/-- A list of texts. -/
def strings? : Datum → Option (List String) :=
  list? string?

/-- How a record may be written as a list. -/
structure Form where
  /-- Whether items after the last entry are passed over. -/
  sparesItems : Bool

/-- The values of the given keys, in order, for those that are there. Keys that are not asked for
are passed over; one that is asked for must not be repeated. -/
def entries? (form : Form) (keys : List String) : Datum → Option (List (Option Datum))
  | .record entries => do
    let named ← entries.mapM fun e => e.1.map fun key => (key, e.2)
    if keys.all fun key => (named.filter (·.1 == key)).length ≤ 1 then
      some (keys.map fun key => named.lookup key)
    else none
  | .list items =>
    if form.sparesItems || items.length ≤ keys.length then
      some ((List.range keys.length).map (items[·]?))
    else none
  | _ => none

/-- The value of an entry, or another one where the entry is missing. -/
def orElse? {α : Type} (default : α) (f : Datum → Option α) : Option Datum → Option α
  | some d => f d
  | none => some default

end Datum

end StateExplorer
