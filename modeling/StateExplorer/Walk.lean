import StateExplorer.State.Listing

/-!
# Walks through the discovered states

A walk is a committed part followed by a provisional tail, and a cursor. Each extension first
lands in the tail, which is then kept or dropped as a whole. While a trace is replayed the walk
stays as it is and only the cursor moves.
-/

namespace StateExplorer

/-- One stop of a walk: a state and the number it is shown under. -/
structure Stop where
  id : Nat
  state : State
deriving DecidableEq

/-- A walk, how many of its last stops are provisional, and the position of the cursor. -/
structure Walk where
  stops : List Stop
  provisional : Nat
  cursor : Nat
deriving DecidableEq

/-- A trace that ends before the wanted position. -/
structure EndOfTrace where
  position : Nat
  steps : Nat
  last : Nat
deriving DecidableEq

/-- The wording of a trace's end. -/
def EndOfTrace.message (e : EndOfTrace) : String :=
  "end of trace reached: cannot advance " ++ toString e.steps ++ " from position " ++
    toString e.position ++ " (last is " ++ toString e.last ++ ")"

namespace Walk

/-- The walk without stops. -/
def empty : Walk := ⟨[], 0, 0⟩

/-- The numbers that the stops are shown under. -/
def ids (walk : Walk) : List Nat :=
  walk.stops.map (·.id)

/-- The stop under the cursor. -/
def current? (walk : Walk) : Option Stop :=
  walk.stops[walk.cursor]?

/-- Whether the cursor is on the last stop. -/
def atEnd (walk : Walk) : Bool :=
  walk.cursor + 1 == walk.stops.length

/-- Keeps the tail. -/
def commit (walk : Walk) : Walk :=
  { walk with provisional := 0 }

/-- Drops the tail and moves the cursor back by its length. -/
def rollback (walk : Walk) : Walk :=
  if walk.provisional = 0 then walk
  else ⟨walk.stops.take (walk.stops.length - walk.provisional), 0, walk.cursor - walk.provisional⟩

/-- Puts a chain in place of the tail and the cursor on its last stop. -/
def extend (walk : Walk) (chain : List Stop) : Walk :=
  let kept := walk.rollback
  if chain.isEmpty then kept
  else
    let stops := kept.stops ++ chain
    ⟨stops, chain.length, stops.length - 1⟩

/-- A committed walk over the given stops. -/
def committed (stops : List Stop) : Walk :=
  ⟨stops, 0, stops.length - 1⟩

/-- Moves the cursor back. Unless a trace is replayed, the walk is cut after the cursor. -/
def retreat (walk : Walk) (steps : Nat) (replay : Bool) : Walk :=
  let cursor := walk.cursor - steps
  if replay then { walk with cursor := cursor }
  else
    let stops := walk.stops.take (cursor + 1)
    ⟨stops, walk.provisional - (walk.stops.length - stops.length), cursor⟩

/-- Moves the cursor forward. It stops at the end of the walk, which is an error in a replay. -/
def advance (walk : Walk) (steps : Nat) (replay : Bool) : Except EndOfTrace Walk :=
  let last := walk.stops.length - 1
  let target := walk.cursor + steps
  if target ≤ last then .ok { walk with cursor := target }
  else if replay then .error ⟨walk.cursor, steps, last⟩
  else .ok { walk with cursor := last }

/-- Shows the stop under the cursor under another number. -/
def renumber (walk : Walk) (id : Nat) : Walk :=
  { walk with stops := walk.stops.modify walk.cursor fun stop => { stop with id := id } }

/-- The listing of one position of a history; as a difference, where a stop comes before it. -/
def historyLine (walk : Walk) (diff : Bool) (position : Nat) : String :=
  match walk.stops[position]? with
  | none => ""
  | some stop =>
    let age := walk.cursor - position
    match if diff && position != 0 then walk.stops[position - 1]? else none with
    | some before => State.historyDiff before.id before.state stop.id stop.state age
    | none => State.historyEntry stop.id stop.state age

/-- The positions from at most `n` before the cursor up to it. -/
def recent (walk : Walk) (n : Nat) : List Nat :=
  let oldest := walk.cursor - n
  List.range' oldest (walk.cursor + 1 - oldest)

/-- The stop under the cursor and up to `n` before it, oldest first. -/
def history (walk : Walk) (n : Nat) (diff : Bool) : String :=
  String.join ((walk.recent n).map (walk.historyLine diff))

end Walk

end StateExplorer
