import StateExplorer.Statechart.Drawing
import StateExplorer.Vocabulary

/-!
# Settings and the kind of a model

The settings of a session name the usual vocabulary, some limits and preferences, and a statechart
if the model has one. Over a statechart a session can force transitions by name and draw the
control states; over a plain model it can do neither.
-/

namespace StateExplorer

/-- What a session needs to know besides its solver. -/
structure Settings where
  vocabulary : Vocabulary
  historyLength : Nat
  diffMode : Bool
  forceLimit : Nat
  statechart : Option Statechart
deriving DecidableEq

namespace Settings

/-- The settings where nothing else is said. -/
def default : Settings := ⟨.default, 5, true, 10, none⟩

instance : Inhabited Settings := ⟨default⟩

/-- Reads settings; entries that are missing keep their usual values. -/
def ofDatum? (form : Datum.Form) (d : Datum) : Option Settings := do
  let keys := ["parsing", "history_length", "diff_mode", "force_limit", "hierarchy"]
  match ← Datum.entries? form keys d with
  | [vocabulary, history, diff, limit, chart] =>
    return {
      vocabulary := ← Datum.orElse? default.vocabulary (Vocabulary.ofDatum? form) vocabulary
      historyLength := ← Datum.orElse? default.historyLength Datum.nat? history
      diffMode := ← Datum.orElse? default.diffMode Datum.bool? diff
      forceLimit := ← Datum.orElse? default.forceLimit Datum.nat? limit
      statechart := ← Datum.orElse? none (Datum.optional? (Statechart.ofDatum? form)) chart }
  | _ => none

end Settings

/-- What is known about the control states of a model. -/
inductive ModelKind
  | plain
  | statechart (chart : Statechart) (wellFormed : chart.faults = [])

namespace ModelKind

/-- The kind of a model with a statechart, or the chart's first fault. -/
def ofChart (chart : Statechart) : Except ChartFault ModelKind :=
  match h : chart.faults with
  | [] => .ok (.statechart chart h)
  | fault :: _ => .error fault

/-- The kind of model that settings describe, or the first fault of their statechart. -/
def ofSettings (settings : Settings) : Except ChartFault ModelKind :=
  match settings.statechart with
  | none => .ok .plain
  | some chart => ofChart chart

/-- Whether transitions can be forced. -/
def canForce : ModelKind → Bool
  | .plain => false
  | .statechart .. => true

/-- Whether the control states can be drawn. -/
def canDraw : ModelKind → Bool
  | .plain => false
  | .statechart .. => true

/-- The canonical name of a transition, if the model has one of that name. -/
def transition? (kind : ModelKind) (name : String) : Option String :=
  match kind with
  | .plain => none
  | .statechart chart _ =>
    (chart.transitions.map fun t => Statechart.canonical t.name).find?
      (· == Statechart.canonical name)

/-- The drawing of the control states, if there are any. -/
def drawing? (kind : ModelKind) (active : List String) : Option String :=
  match kind with
  | .plain => none
  | .statechart chart _ => some (chart.drawing active)

end ModelKind

end StateExplorer
