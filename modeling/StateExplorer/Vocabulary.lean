import StateExplorer.Datum.Basic
import StateExplorer.Text.Blank
import StateExplorer.Text.Search

/-!
# The vocabulary of a model

A vocabulary says how a model names its distinguished pieces: the state signature, the initial
predicate, the transition relation and some special fields. It also asks for extra atoms of some
signatures. A model may carry a vocabulary of its own in a block between two marker words.
-/

namespace StateExplorer

/-- The names of a model's distinguished pieces, and how many atoms to add to which signature. -/
structure Vocabulary where
  stateSig : String
  initPredicate : String
  transitionRelation : String
  transitionField : String
  controlStateField : String
  stableField : String
  stableTrueValue : String
  extraAtoms : NameMap Nat
deriving DecidableEq

namespace Vocabulary

/-- The names in use where nothing else is said. -/
def default : Vocabulary :=
  ⟨"State", "init", "next", "transTaken", "conf", "stable", "true", .empty⟩

instance : Inhabited Vocabulary := ⟨default⟩

/-- Reads a vocabulary; entries that are missing keep their usual names. -/
def ofDatum? (form : Datum.Form) (d : Datum) : Option Vocabulary := do
  let keys := ["state_sig", "init_predicate", "transition_relation", "transition_field",
    "control_state_field", "stable_field", "stable_true_value", "additional_sig_scopes"]
  match ← Datum.entries? form keys d with
  | [sig, init, next, transition, control, stable, stableTrue, scopes] =>
    return {
      stateSig := ← Datum.orElse? default.stateSig Datum.string? sig
      initPredicate := ← Datum.orElse? default.initPredicate Datum.string? init
      transitionRelation := ← Datum.orElse? default.transitionRelation Datum.string? next
      transitionField := ← Datum.orElse? default.transitionField Datum.string? transition
      controlStateField := ← Datum.orElse? default.controlStateField Datum.string? control
      stableField := ← Datum.orElse? default.stableField Datum.string? stable
      stableTrueValue := ← Datum.orElse? default.stableTrueValue Datum.string? stableTrue
      extraAtoms := ← Datum.orElse? .empty (Datum.map? Datum.nat?) scopes }
  | _ => none

/-- The word that opens a vocabulary inside a model. -/
def openingMarker : String := "BEGIN_TRELLIS_CONF"

/-- The word that closes a vocabulary inside a model. -/
def closingMarker : String := "END_TRELLIS_CONF"

/-- The text between the markers of a model, trimmed: `none` without an opening marker, an error
without a closing one after it. -/
def embeddedText (model : String) : Except Unit (Option (List Char)) :=
  match Text.cut? openingMarker.toList model.toList with
  | none => .ok none
  | some (_, rest) =>
    match Text.cut? closingMarker.toList rest with
    | none => .error ()
    | some (block, _) => .ok (some (Text.trim block))

end Vocabulary

end StateExplorer
