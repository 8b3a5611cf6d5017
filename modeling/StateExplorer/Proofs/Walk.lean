import StateExplorer.Walk

/-!
# Moves of a walk

However a walk is moved, the provisional stops are some of its stops, and the cursor is on one of
them unless there are none. So a history lists stops that are there. A chain that is put on a walk
and dropped again leaves the committed stops with the cursor on the last of them, which is not where
the cursor was if it stood further back or if there were provisional stops before.
-/

namespace StateExplorer.Walk

variable {walk : Walk}

/-! ### The committed stops -/

/-- A rollback leaves the committed stops. -/
theorem stops_rollback (walk : Walk) :
    walk.rollback.stops = walk.stops.take (walk.stops.length - walk.provisional) := by
  unfold rollback
  split
  · rename_i h
    rw [h, Nat.sub_zero, List.take_length]
  · rfl

/-- The committed stops have no tail. -/
theorem stops_rollback_rollback (walk : Walk) :
    walk.rollback.rollback.stops = walk.rollback.stops := by
  unfold rollback
  split <;> rfl

/-- Committed stops stay where they are. -/
theorem stops_rollback_commit (walk : Walk) : walk.commit.rollback.stops = walk.stops := rfl

/-- An extension puts the new stops after the committed ones, with the cursor at the end. -/
theorem extend_eq (walk : Walk) {shown : List Stop} (h : shown ≠ []) :
    walk.extend shown = ⟨walk.rollback.stops ++ shown, shown.length,
      (walk.rollback.stops ++ shown).length - 1⟩ := by
  simp [extend, h]

/-- After an extension is dropped the committed stops are left, with the cursor at the end. -/
theorem rollback_extend_eq (walk : Walk) {shown : List Stop} (h : shown ≠ []) :
    (walk.extend shown).rollback = committed walk.rollback.stops := by
  have hlength : shown.length ≠ 0 := mt List.length_eq_zero_iff.1 h
  simp only [extend_eq walk h, rollback, committed, hlength, if_false, List.length_append, mk.injEq,
    true_and]
  constructor
  · rw [Nat.add_sub_cancel, List.take_left]
  · omega

/-! ### Within the stops -/

/-- Whether the provisional stops are some of the stops, and the cursor is on one if there is one. -/
structure InRange (walk : Walk) : Prop where
  provisional_le : walk.provisional ≤ walk.stops.length
  cursor_le : walk.cursor ≤ walk.stops.length - 1

/-- The cursor is on a stop, or nothing is there at all. -/
theorem InRange.cursor_lt_or (h : walk.InRange) :
    walk.cursor < walk.stops.length ∨ walk = empty := by
  obtain ⟨stops, provisional, cursor⟩ := walk
  obtain ⟨hprovisional, hcursor⟩ := h
  cases stops with
  | nil =>
    right
    simp only [List.length_nil, Nat.zero_sub, Nat.le_zero] at hprovisional hcursor
    rw [hprovisional, hcursor]
    rfl
  | cons stop rest => exact .inl (Nat.lt_succ_of_le hcursor)

/-- Nothing is out of range where there is nothing. -/
theorem inRange_empty : empty.InRange := ⟨Nat.le_refl 0, Nat.le_refl 0⟩

/-- The cursor of a walk that was just committed is on its last stop. -/
theorem inRange_committed (stops : List Stop) : (committed stops).InRange :=
  ⟨Nat.zero_le _, Nat.le_refl _⟩

/-- To keep the tail moves nothing. -/
theorem InRange.commit (h : walk.InRange) : walk.commit.InRange :=
  ⟨Nat.zero_le _, h.cursor_le⟩

/-- To drop the tail takes the cursor back as far. -/
theorem InRange.rollback (h : walk.InRange) : walk.rollback.InRange := by
  have hcursor := h.cursor_le
  unfold Walk.rollback
  split
  · exact h
  · constructor <;> simp only [List.length_take] <;> omega

/-- To put a chain in place of the tail takes the cursor to its last stop. -/
theorem InRange.extend (h : walk.InRange) (chain : List Stop) : (walk.extend chain).InRange := by
  by_cases hchain : chain = []
  · subst hchain
    exact h.rollback
  · rw [extend_eq walk hchain]
    constructor <;> simp only [List.length_append] <;> omega

/-- To go back keeps the stop that the cursor comes to. -/
theorem InRange.retreat (h : walk.InRange) (steps : Nat) (replay : Bool) :
    (walk.retreat steps replay).InRange := by
  have hprovisional := h.provisional_le
  have hcursor := h.cursor_le
  unfold Walk.retreat
  cases replay with
  | true =>
    exact ⟨hprovisional, Nat.le_trans (Nat.sub_le _ _) hcursor⟩
  | false =>
    simp only [Bool.false_eq_true, if_false]
    constructor <;> simp only [List.length_take] <;> omega

/-- To go forward ends at the last stop at most. -/
theorem InRange.advance (h : walk.InRange) {steps : Nat} {replay : Bool} {next : Walk}
    (hnext : walk.advance steps replay = .ok next) : next.InRange := by
  simp only [Walk.advance] at hnext
  by_cases htarget : walk.cursor + steps ≤ walk.stops.length - 1
  · rw [if_pos htarget] at hnext
    cases hnext
    exact ⟨h.provisional_le, htarget⟩
  · rw [if_neg htarget] at hnext
    cases replay with
    | true => cases hnext
    | false =>
      cases hnext
      exact ⟨h.provisional_le, Nat.le_refl _⟩

/-- Another number moves nothing. -/
theorem InRange.renumber (h : walk.InRange) (id : Nat) : (walk.renumber id).InRange := by
  constructor <;> simp only [Walk.renumber, List.length_modify]
  · exact h.provisional_le
  · exact h.cursor_le

/-! ### Moves -/

/-- What can be done with a walk. -/
inductive Move
  | extend (chain : List Stop)
  | commit
  | rollback
  | replace (stops : List Stop)
  | clear
  | retreat (steps : Nat) (replay : Bool)
  | advance (steps : Nat) (replay : Bool)
  | renumber (id : Nat)

/-- A walk after a move. It stays as it is where it cannot go forward as far as wanted. -/
def move (walk : Walk) : Move → Walk
  | .extend chain => walk.extend chain
  | .commit => walk.commit
  | .rollback => walk.rollback
  | .replace stops => committed stops
  | .clear => committed []
  | .retreat steps replay => walk.retreat steps replay
  | .advance steps replay =>
    match walk.advance steps replay with
    | .ok next => next
    | .error _ => walk
  | .renumber id => walk.renumber id

/-- A walk after some moves. -/
def moveAll (walk : Walk) (moves : List Move) : Walk :=
  moves.foldl move walk

/-- A move stays in range. -/
theorem InRange.move (h : walk.InRange) (m : Move) : (walk.move m).InRange := by
  cases m with
  | extend chain => exact h.extend chain
  | commit => exact h.commit
  | rollback => exact h.rollback
  | replace stops => exact inRange_committed stops
  | clear => exact inRange_committed []
  | retreat steps replay => exact h.retreat steps replay
  | advance steps replay =>
    simp only [Walk.move]
    cases hnext : walk.advance steps replay with
    | ok next => exact h.advance hnext
    | error e => exact h
  | renumber id => exact h.renumber id

/-- Moves stay in range. -/
theorem InRange.moveAll (h : walk.InRange) (moves : List Move) : (walk.moveAll moves).InRange := by
  induction moves generalizing walk with
  | nil => exact h
  | cons m rest ih => exact ih (h.move m)

/-! ### Histories -/

/-- What a history says of a position: the stop there in full, or how it differs from the one
before. -/
inductive Line (walk : Walk) (diff : Bool) : Nat → String → Prop
  | whole {position : Nat} {stop : Stop} (hstop : walk.stops[position]? = some stop)
      (hwhole : diff = false ∨ position = 0) :
      Line walk diff position (State.historyEntry stop.id stop.state (walk.cursor - position))
  | change {position : Nat} {before stop : Stop} (hbefore : walk.stops[position]? = some before)
      (hstop : walk.stops[position + 1]? = some stop) (hdiff : diff = true) :
      Line walk diff (position + 1)
        (State.historyDiff before.id before.state stop.id stop.state (walk.cursor - (position + 1)))

/-- A position of a stop has its line. -/
theorem line_historyLine (walk : Walk) (diff : Bool) {position : Nat}
    (h : position < walk.stops.length) : walk.Line diff position (walk.historyLine diff position) := by
  have hstop := List.getElem?_eq_getElem h
  unfold historyLine
  rw [hstop]
  cases diff with
  | false => exact .whole hstop (.inl rfl)
  | true =>
    cases position with
    | zero => exact .whole hstop (.inr rfl)
    | succ position =>
      have hbefore := List.getElem?_eq_getElem (Nat.lt_of_succ_lt h)
      simp only [Bool.true_and, bne_iff_ne, ne_eq, Nat.succ_ne_zero, not_false_eq_true, if_true,
        Nat.add_sub_cancel, hbefore]
      exact .change hbefore hstop rfl

/-- A history goes through the positions up to the cursor. -/
theorem recent_eq (walk : Walk) (n : Nat) :
    walk.recent n = List.range' (walk.cursor - min n walk.cursor) (min n walk.cursor + 1) := by
  simp only [recent]
  congr 1 <;> omega

/-- A history has a line for the stop under the cursor, and one for each of up to `n` before it. -/
theorem InRange.exists_lines (h : walk.InRange) (hstops : walk.stops ≠ []) (n : Nat) (diff : Bool) :
    ∃ lines, walk.history n diff = String.join lines ∧ lines.length = min n walk.cursor + 1 ∧
      ∀ k ≤ min n walk.cursor, ∃ line, lines[k]? = some line ∧
        walk.Line diff (walk.cursor - min n walk.cursor + k) line := by
  refine ⟨_, rfl, by simp [recent_eq], ?_⟩
  intro k hk
  have hcursor := h.cursor_le
  have hlength := List.length_pos_iff.2 hstops
  have hwithin : walk.cursor - min n walk.cursor + k < walk.stops.length := by omega
  refine ⟨_, ?_, line_historyLine walk diff hwithin⟩
  rw [recent_eq, List.getElem?_map, List.getElem?_range' (Nat.lt_succ_of_le hk), Nat.one_mul]
  rfl

/-! ### Undoing an extension -/

/-- The committed stops alone, with the cursor at the end, are the whole walk if it has no tail and
the cursor is at its end. -/
theorem InRange.committed_rollback_eq_iff (h : walk.InRange) :
    committed walk.rollback.stops = walk ↔
      walk.provisional = 0 ∧ (walk.atEnd = true ∨ walk.stops = []) := by
  have hcursor := h.cursor_le
  constructor
  · intro hsame
    have hprovisional : walk.provisional = 0 := by
      rw [← hsame]
      rfl
    refine ⟨hprovisional, ?_⟩
    have hend : walk.cursor = walk.stops.length - 1 := by
      rw [← hsame]
      rfl
    by_cases hstops : walk.stops = []
    · exact .inr hstops
    · have hlength := List.length_pos_iff.2 hstops
      left
      simp only [atEnd, beq_iff_eq]
      omega
  · intro hend
    obtain ⟨hprovisional, hend⟩ := hend
    have hlast : walk.stops.length - 1 = walk.cursor := by
      rcases hend with hend | hstops
      · simp only [atEnd, beq_iff_eq] at hend
        omega
      · rw [hstops] at hcursor ⊢
        exact (Nat.le_zero.1 hcursor).symm
    rw [Walk.rollback, if_pos hprovisional, committed, hlast, ← hprovisional]

/-- What holds of a walk however it was moved: the tail and the cursor are within the stops, a
history lists stops that are there, and a chain that is put on the walk and dropped leaves the
committed stops with the cursor at the end. -/
structure Sound (walk : Walk) : Prop where
  provisional_le : walk.provisional ≤ walk.stops.length
  cursor : walk.cursor < walk.stops.length ∨ walk = empty
  history_nil : walk.stops = [] → ∀ n diff, walk.history n diff = ""
  history : walk.stops ≠ [] → ∀ n diff, ∃ lines, walk.history n diff = String.join lines ∧
    lines.length = min n walk.cursor + 1 ∧
    ∀ k ≤ min n walk.cursor, ∃ line, lines[k]? = some line ∧
      walk.Line diff (walk.cursor - min n walk.cursor + k) line
  undone : ∀ chain ≠ [], (walk.extend chain).rollback =
    committed (walk.stops.take (walk.stops.length - walk.provisional))
  undone_iff : ∀ chain ≠ [], (walk.extend chain).rollback = walk ↔
    walk.provisional = 0 ∧ (walk.atEnd = true ∨ walk.stops = [])

/-- However a walk is moved from the start, it is sound. -/
theorem sound_moveAll (moves : List Move) : (empty.moveAll moves).Sound := by
  have h := inRange_empty.moveAll moves
  generalize empty.moveAll moves = walk at h
  refine ⟨h.provisional_le, h.cursor_lt_or, ?_, ?_, ?_, ?_⟩
  · intro hstops n diff
    have hempty : walk = empty := by simpa [hstops] using h.cursor_lt_or
    subst hempty
    simp [Walk.history, recent_eq, historyLine, empty, String.join]
  · exact fun hstops => h.exists_lines hstops
  · intro chain hchain
    rw [rollback_extend_eq walk hchain, stops_rollback]
  · intro chain hchain
    rw [rollback_extend_eq walk hchain, h.committed_rollback_eq_iff]

/-- In a replay the cursor may stand before the tail, where it does not return to. -/
example (a b c d : Stop) :
    empty.moveAll [.replace [a, b], .extend [c], .retreat 2 true] = ⟨[a, b, c], 1, 0⟩ ∧
      empty.moveAll [.replace [a, b], .extend [c], .retreat 2 true, .extend [d], .rollback] =
        ⟨[a, b], 0, 1⟩ :=
  ⟨rfl, rfl⟩

end StateExplorer.Walk
