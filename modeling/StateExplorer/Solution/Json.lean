import StateExplorer.Datum.Json
import StateExplorer.Solution.Basic

/-!
# Documents as JSON

A document is written with its entries in a fixed order, and the signatures of an instance only
where there are any. When one is read, fields of no stated arity have arity one, and lists and
maps that are missing are empty.
-/

namespace StateExplorer

/-- A field as data. -/
def Field.toDatum (field : Field) : Datum :=
  .ofEntries [("name", .ofString field.name), ("arity", .ofNat field.arity)]

/-- Reads a field. -/
def Field.ofDatum? (form : Datum.Form) (d : Datum) : Option Field := do
  match ← Datum.entries? form ["name", "arity"] d with
  | [some name, arity] => return ⟨← name.string?, ← Datum.orElse? 1 Datum.nat? arity⟩
  | _ => none

/-- Reads a schema. -/
def Schema.ofDatum? (form : Datum.Form) : Datum → Option Schema :=
  Datum.list? (Field.ofDatum? form)

/-- An instance as data. -/
def Instance.toDatum (i : Instance) : Datum :=
  let sigs := if i.sigs.isEmpty then [] else [("sigs", Datum.ofMap .ofStrings i.sigs)]
  .ofEntries ([("state_count", .ofNat i.stateCount), ("tuples", .ofMap .ofStrings i.tuples)] ++ sigs)

/-- Reads an instance. -/
def Instance.ofDatum? (form : Datum.Form) (d : Datum) : Option Instance := do
  match ← Datum.entries? form ["state_count", "tuples", "sigs"] d with
  | [some count, tuples, sigs] =>
    return {
      stateCount := ← count.nat?
      tuples := ← Datum.orElse? .empty (Datum.map? Datum.strings?) tuples
      sigs := ← Datum.orElse? .empty (Datum.map? Datum.strings?) sigs }
  | _ => none

namespace Document

/-- A document as data. -/
def toDatum (document : Document) : Datum :=
  .ofEntries [("state_sig", .ofString document.stateSig),
    ("fields", .list (document.fields.map Field.toDatum)),
    ("instances", .list (document.instances.map Instance.toDatum))]

/-- Reads a document. -/
def ofDatum? (form : Datum.Form) (d : Datum) : Option Document := do
  match ← Datum.entries? form ["state_sig", "fields", "instances"] d with
  | [some sig, fields, instances] =>
    return {
      stateSig := ← sig.string?
      fields := ← Datum.orElse? [] (Schema.ofDatum? form) fields
      instances := ← Datum.orElse? [] (Datum.list? (Instance.ofDatum? form)) instances }
  | _ => none

/-- The document as JSON. -/
def toJson (document : Document) : String :=
  document.toDatum.toJson

/-- The document that a JSON text holds. -/
def ofJson? (text : String) : Option Document :=
  Datum.ofJson? text >>= ofDatum? Json.strict

end Document

end StateExplorer
