import StateExplorer.Shell.Glob
import StateExplorer.Shell.Bytes

/-!
# Splitting words into fields

An expanded word is a row of stretches. Some of them are never split; some are split at the marks
that the shell was given for it, and some only at the ends of arguments. Blanks among the marks
count as one and vanish at both ends; each other mark ends a field.
-/

namespace StateExplorer.Shell

/-- A character of an expanded word, quoted or not, or the trace of quotes. -/
inductive Cell
  | char (c : Char) (quoted : Bool)
  | quotes

/-- Where a stretch of a word is split: nowhere, at marks, or at the ends of arguments. -/
inductive Splitting
  | never
  | atMarks
  | atEnds
deriving DecidableEq

/-- A stretch of an expanded word. -/
structure Stretch where
  splitting : Splitting
  cells : List Cell

/-- The cells of a text. -/
def cellsOf (quoted : Bool) (text : String) : List Cell :=
  let cells := text.toList.map fun c => Cell.char c quoted
  if quoted then .quotes :: cells else cells

/-- The text of cells. -/
def textOf (cells : List Cell) : String :=
  String.ofList (cells.filterMap fun cell =>
    match cell with
    | .char c _ => some c
    | .quotes => none)

/-- The pattern that cells are. -/
def patternOf (cells : List Cell) : List PatternChar :=
  cells.filterMap fun cell =>
    match cell with
    | .char c quoted => some ⟨c, quoted⟩
    | .quotes => none

/-- All cells of stretches. -/
def cellsIn (stretches : List Stretch) : List Cell := stretches.flatMap Stretch.cells

/-- The text of stretches. -/
def textIn (stretches : List Stretch) : String := textOf (cellsIn stretches)

/-- The end of an argument among cells. -/
def argumentEnd : Char := '\x00'

namespace Fields

/-- The fields that were finished, the last one first, and the field at work, whose cells are kept
last one first. Blanks are skipped after a blank ended a field. Where only so many fields are
wanted, the last one keeps its marks, apart from blanks at its end. -/
structure State where
  done : List (List Cell)
  current : List Cell
  skips : Bool
  wanted : Option Nat
  kept : Option Nat

/-- Whether a cell is a mark, and whether it is a blank one. -/
def markOf (marks : List Char) (onlyEnds : Bool) : Cell → Bool × Bool
  | .char c _ =>
    let isMark := c == argumentEnd || (!onlyEnds && marks.contains c)
    (isMark, isMark && (c == argumentEnd || c == ' ' || c == '\t' || c == '\n'))
  | .quotes => (false, false)

/-- Goes on with one more cell. -/
def State.add (marks : List Char) (onlyEnds afterEnds : Bool) (s : State) (cell : Cell) : State :=
  let (isMark, isBlank) := markOf marks onlyEnds cell
  if s.wanted == some 0 then
    if isBlank then
      { s with
        current := cell :: s.current
        kept := match s.kept with
          | some n => some n
          | none => some s.current.length }
    else
      { s with
        current := cell :: s.current
        kept := if isMark && s.skips then s.kept else none
        skips := false }
  else if s.skips && isMark then
    if isBlank then s else { s with skips := false }
  else if isMark then
    let skips := if afterEnds || onlyEnds then false else isBlank
    if s.current.isEmpty && skips then { s with skips := false }
    else if s.wanted == some 1 then
      { s with
        current := cell :: s.current
        skips := skips
        wanted := some 0
        kept := some s.current.length }
    else
      { s with
        done := s.current.reverse :: s.done
        current := []
        skips := skips
        wanted := s.wanted.map (· - 1) }
  else { s with current := cell :: s.current, skips := false }

/-- Goes on with stretches; `afterEnds` tells whether the last stretch that is split was split at the
ends of arguments, and so does the result. -/
def addAll (marks : List Char) : (afterEnds : Bool) → State → List Stretch → Bool × State
  | afterEnds, s, [] => (afterEnds, s)
  | afterEnds, s, stretch :: rest =>
    match stretch.splitting with
    | .never =>
      addAll marks afterEnds { s with current := stretch.cells.reverse ++ s.current } rest
    | splitting =>
      let onlyEnds := splitting == .atEnds
      let s := stretch.cells.foldl (State.add marks onlyEnds afterEnds) { s with skips := false }
      addAll marks onlyEnds s rest

/-- The fields of stretches, at most as many as are wanted. -/
def split (marks : String) (wanted : Option Nat) (stretches : List Stretch) : List (List Cell) :=
  let (afterEnds, s) := addAll marks.toList false ⟨[], [], false, wanted, none⟩ stretches
  let last := match s.kept with
    | some n => s.current.reverse.take n
    | none => s.current.reverse
  (if last.isEmpty && !afterEnds then s.done else last :: s.done).reverse

end Fields

end StateExplorer.Shell
