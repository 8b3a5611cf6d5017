import StateExplorer.Proofs.Session.Browsing

/-!
# Replaying a trace

While a trace is replayed, the operations that explore a model are told to move a cursor instead.
The store holds the states of the trace as one root with all routes recorded, the walk shows them
under the numbers from one upwards, nothing is provisional and nothing can be browsed. Going back
still browses for the wanted state and gives it its number again, but that state is under the
cursor at once, shown under that very number, and its route is known. So a replay is a cursor over
a chain that stays as it was loaded, whatever solver the session has.
-/

namespace StateExplorer

namespace Exploration

variable {x y : Exploration} {n : Nat}

/-- Where every route is recorded, recording the walk changes nothing. -/
theorem recorded_nil_eq (h : x.store.Settled) : x.recorded [] = x := by
  change { x with store := x.store.recordCursor x.walk } = x
  rw [h.recordCursor_eq_self]

/-- The exploration with its cursor elsewhere. -/
def atCursor (x : Exploration) (cursor : Nat) : Exploration :=
  { x with walk := { x.walk with cursor := cursor } }

/-- Whether a trace of so many states is replayed. -/
structure Replays (n : Nat) (x : Exploration) : Prop where
  replaying : x.replaying = true
  ids_eq : x.walk.ids = List.range' 1 n
  size_eq : x.store.size = n
  routed : x.store.Routed
  provisional_eq : x.walk.provisional = 0
  alternatives_eq : x.alternatives = .empty
  cursor_lt : x.walk.cursor < n

/-- A replay with its cursor on another state of the trace. -/
theorem Replays.atCursor (h : x.Replays n) {cursor : Nat} (hcursor : cursor < n) :
    (x.atCursor cursor).Replays n :=
  ⟨h.replaying, h.ids_eq, h.size_eq, h.routed, h.provisional_eq, h.alternatives_eq, hcursor⟩

/-- A replay has as many stops as the trace has states. -/
theorem Replays.length_stops (h : x.Replays n) : x.walk.stops.length = n := by
  have hlength := congrArg List.length h.ids_eq
  rwa [Walk.ids, List.length_map, List.length_range'] at hlength

/-- The numbers of a trace are those of its states. -/
theorem Replays.has_iff (h : x.Replays n) (id : Nat) : x.store.Has id ↔ 1 ≤ id ∧ id ≤ n := by
  rw [Store.Has, h.size_eq]

/-- A replay is ready. -/
theorem Replays.run_requireReady {σ : Type} (h : x.Replays n) (s : σ) :
    (Explore.requireReady : Op σ Unit).run x s = (.ok (), x, s) := by
  have hready : x.walk.stops ≠ [] := by
    intro hnil
    have hlength := h.length_stops
    have hcursor := h.cursor_lt
    rw [hnil, List.length_nil] at hlength
    omega
  rw [Explore.requireReady, Op.run_get_bind, Op.run_require]
  simp [hready]

/-! ### Moving the cursor -/

section

variable {profile : Profile}

/-- The wanted state is under the cursor at once, and everything is known of it. -/
theorem Replays.run_settle {σ : Type} (h : x.Replays n) (profile : Profile) {target : Stop}
    (htarget : x.walk.current? = some target) (s : σ) :
    (Explore.settle target profile).run x s = (.ok (), x, s) := by
  have hthere : Explore.isElsewhere target.state x = false := by
    simp [Explore.isElsewhere, htarget]
  have hhas : ∀ stop ∈ x.walk.current?, x.store.Has stop.id := by
    intro stop hstop
    rw [Walk.current?] at hstop
    have hmem : stop.id ∈ x.walk.ids := List.mem_map_of_mem (List.mem_of_getElem? hstop)
    rw [h.ids_eq, List.mem_range'_1] at hmem
    exact (h.has_iff stop.id).2 (by omega)
  have hrecord : (Explore.recordRoutes []).run x s = (.ok (), x, s) := by
    rw [Explore.run_recordRoutes (by simp) hhas, recorded_nil_eq h.routed.settled]
  rw [Explore.settle, Op.run_get_bind]
  simp only [Op.run_bind, Explore.seek, Op.run_get, hthere, Bool.false_eq_true, if_false,
    Op.run_pure, Op.run_update, Walk.renumber_self htarget]
  exact hrecord

/-- Going to a state of the trace moves the cursor there. -/
theorem Replays.run_moveTo {σ : Type} (h : x.Replays n) {id : Nat} (hid : 1 ≤ id ∧ id ≤ n) (s : σ) :
    (Explore.moveTo id profile).run x s = (.ok (), x.atCursor (id - 1), s) := by
  obtain ⟨node, hnode⟩ := Store.exists_node? ((h.has_iff id).2 hid)
  have hmem : x.walk.ids.contains id = true := by
    rw [h.ids_eq, List.contains_iff_mem, List.mem_range'_1]
    omega
  have hplace : x.walk.ids.idxOf id = id - 1 := by
    have hlt : id - 1 < (List.range' 1 n).length := by simp; omega
    have hget : (List.range' 1 n)[id - 1] = id := by simp; omega
    rw [h.ids_eq]
    simpa [hget] using (List.nodup_range' 1).idxOf_getElem (id - 1) hlt
  have hseek : (Explore.seekStop id).run x s = (.ok (), x.atCursor (id - 1), s) := by
    rw [Explore.seekStop, Op.run_get_bind, Op.run_bind, Op.run_require, if_pos hmem]
    dsimp only
    rw [hplace]
    split
    · rename_i hback
      rw [Walk.retreat, if_pos rfl, Op.run_set, Nat.sub_sub_self (Nat.le_of_lt hback)]
      rfl
    · have hwithin : x.walk.cursor + (id - 1 - x.walk.cursor) ≤ x.walk.stops.length - 1 := by
        have hcursor := h.cursor_lt
        rw [h.length_stops]
        omega
      have hsum : x.walk.cursor + (id - 1 - x.walk.cursor) = id - 1 := by omega
      rw [Op.run_bind, Walk.advance, if_pos hwithin, hsum]
      rfl
  rw [Explore.moveTo, Op.run_bind, h.run_requireReady]
  simp only [Op.run_get_bind]
  rw [Op.run_bind, Store.node_eq_ok hnode, Op.run_ofExcept]
  simp only [Except.mapError, h.replaying, if_true, hseek]

/-- There is no other state to go to. -/
theorem Replays.run_moveTo_beyond {σ : Type} (h : x.Replays n) {id : Nat} (hid : ¬(1 ≤ id ∧ id ≤ n))
    (s : σ) :
    (Explore.moveTo id profile).run x s =
      (.error (.notFound (.stored (.unknownNode id))), x, s) := by
  rw [Explore.moveTo, Op.run_bind, h.run_requireReady]
  simp only [Op.run_get_bind]
  rw [Op.run_bind, Store.node_eq_error (mt (h.has_iff id).1 hid), Op.run_ofExcept]
  rfl

/-- There is nothing to browse in a replay. -/
theorem Replays.run_alternate {σ : Type} (h : x.Replays n) (reverse : Bool) (s : σ) :
    ∃ e, (Explore.alternate reverse profile).run x s = (.error e, x, s) := by
  rw [Explore.alternate, Op.run_bind, h.run_requireReady]
  simp only [Op.run_bind, Op.run_get, Op.run_ofExcept, h.alternatives_eq]
  cases reverse with
  | false => exact ⟨_, rfl⟩
  | true => exact ⟨_, rfl⟩

variable {σ : Type} [Solver σ] {s : σ}

/-- A step moves the cursor forward. -/
theorem Replays.run_step (h : x.Replays n) {steps : Nat} (hsteps : steps ≠ 0)
    (hwithin : x.walk.cursor + steps < n) (constraints : List String) :
    (Explore.step steps constraints profile).run x s =
      (.ok (), x.atCursor (x.walk.cursor + steps), s) := by
  have hend : x.walk.atEnd = false := by
    simp only [Walk.atEnd, h.length_stops, beq_eq_false_iff_ne]
    omega
  have hadvance : x.walk.advance steps true =
      .ok { x.walk with cursor := x.walk.cursor + steps } := by
    rw [Walk.advance, h.length_stops, if_pos (by omega)]
  rw [Explore.step, Op.run_bind, h.run_requireReady]
  simp only [Op.run_bind, Op.run_require, bne_iff_ne, ne_eq, hsteps, not_false_eq_true, if_true,
    Op.run_get, if_pos h.replaying, Explore.advance, hend, Bool.not_false, hadvance,
    Op.run_ofExcept, Except.mapError, Op.run_set]
  rfl

/-- A step beyond the end fails, and tells an end that was reached from one that is too near. -/
theorem Replays.run_step_beyond (h : x.Replays n) {steps : Nat} (hsteps : steps ≠ 0)
    (hbeyond : n ≤ x.walk.cursor + steps) (constraints : List String) :
    (Explore.step steps constraints profile).run x s =
      (.error (if x.walk.cursor + 1 = n then .traceEnd
        else .traceExhausted ⟨x.walk.cursor, steps, n - 1⟩), x, s) := by
  have hadvance : x.walk.advance steps true = .error ⟨x.walk.cursor, steps, n - 1⟩ := by
    have hcursor := h.cursor_lt
    rw [Walk.advance, h.length_stops, if_neg (by omega), if_pos rfl]
  rw [Explore.step, Op.run_bind, h.run_requireReady]
  simp only [Op.run_bind, Op.run_require, bne_iff_ne, ne_eq, hsteps, not_false_eq_true, if_true,
    Op.run_get, if_pos h.replaying, Explore.advance, Walk.atEnd, h.length_stops]
  by_cases hend : x.walk.cursor + 1 = n
  · simp [hend]
  · simp [hend, Op.run_ofExcept, hadvance, Except.mapError]

/-- A step of no transitions fails. -/
theorem Replays.run_step_zero (h : x.Replays n) (constraints : List String) :
    (Explore.step 0 constraints profile).run x s = (.error (.invalidBound .step), x, s) := by
  rw [Explore.step, Op.run_bind, h.run_requireReady]
  rfl

/-- A reset moves the cursor to the first state. -/
theorem Replays.run_reset (h : x.Replays n) :
    (Explore.reset profile).run x s = (.ok (), x.atCursor 0, s) := by
  rw [Explore.reset, Op.run_bind, h.run_requireReady]
  simp only [Op.run_get_bind, if_pos h.replaying]
  rw [Op.run_set, Walk.retreat, if_pos rfl, Nat.sub_self]
  rfl

/-- The states some steps back are found by moving the cursor there. -/
theorem Replays.run_findAgain (h : x.Replays n) (steps : Nat) :
    (Explore.findAgain steps profile).run x s =
      (.ok (), x.atCursor (x.walk.cursor - steps), s) := by
  rw [Explore.findAgain, Op.run_get_bind]
  split
  · rename_i hshort
    rw [h.run_reset, Nat.sub_eq_zero_of_le hshort]
  · -- The cursor first goes one place too far, and then a step forward.
    rename_i hlong
    have hcursor := h.cursor_lt
    have hbefore : (x.atCursor (x.walk.cursor - (steps + 1))).Replays n := h.atCursor (by omega)
    have hplace : x.walk.cursor - (steps + 1) + 1 = x.walk.cursor - steps := by omega
    have hstep : (Explore.step 1 [] profile).run (x.atCursor (x.walk.cursor - (steps + 1))) s =
        (.ok (), x.atCursor (x.walk.cursor - steps), s) := by
      rw [hbefore.run_step Nat.one_ne_zero (by simp only [Exploration.atCursor]; omega)]
      simp only [Exploration.atCursor, hplace]
    rw [Op.run_bind, Op.run_set, Walk.retreat, if_pos h.replaying]
    exact hstep

/-- Going back moves the cursor back, as far as the first state. -/
theorem Replays.run_reverseStep (h : x.Replays n) {steps : Nat} (hsteps : steps ≠ 0) :
    (Explore.reverseStep steps profile).run x s =
      (.ok (), x.atCursor (x.walk.cursor - steps), s) := by
  have hcursor := h.cursor_lt
  have hlt : x.walk.cursor - steps < x.walk.stops.length := by
    rw [h.length_stops]
    omega
  have hcurrent : (x.atCursor (x.walk.cursor - steps)).walk.current? =
      some x.walk.stops[x.walk.cursor - steps] := List.getElem?_eq_getElem hlt
  have hback := (h.atCursor (h.length_stops ▸ hlt)).run_settle profile hcurrent s
  have hretrace : (Explore.retrace steps profile).run x s =
      (.ok (), x.atCursor (x.walk.cursor - steps), s) := by
    rw [Explore.retrace, Op.run_get_bind, List.getElem?_eq_getElem hlt, Op.run_bind,
      Op.run_ofOption]
    dsimp only
    rw [Op.run_bind, h.run_findAgain]
    exact hback
  rw [Explore.reverseStep, Op.run_bind, h.run_requireReady]
  simp only [Op.run_bind, Op.run_require, bne_iff_ne, ne_eq, hsteps, not_false_eq_true, if_true,
    Op.run_restoring, hretrace]

/-- Going back no state fails. -/
theorem Replays.run_reverseStep_zero (h : x.Replays n) :
    (Explore.reverseStep 0 profile).run x s = (.error (.invalidBound .reverseStep), x, s) := by
  rw [Explore.reverseStep, Op.run_bind, h.run_requireReady]
  rfl

/-! ### What a replay has no use for -/

/-- Breakpoints are not searched for. -/
theorem Replays.run_runUntil (h : x.Replays n) (limit : Nat) :
    (Explore.runUntil limit profile).run x s = (.error (.inReplay .until), x, s) := by
  rw [Explore.runUntil, Op.run_bind, h.run_requireReady]
  simp [Op.run_bind, Op.run_require, h.replaying]

/-- No transition is forced. -/
theorem Replays.run_force (h : x.Replays n) (name : String) (limit : Nat) :
    ∃ e, (Explore.force name limit profile).run x s = (.error e, x, s) := by
  rw [Explore.force, Op.run_bind, h.run_requireReady]
  cases profile.kind.canForce with
  | false =>
    exists .unsupported .force
  | true =>
    exists .inReplay .force
    simp [Op.run_bind, Op.run_require, h.replaying]

/-- No constraint is checked. -/
theorem Replays.run_validate (h : x.Replays n) (constraint : String) :
    (Explore.validate constraint profile).run x s = (.error (.inReplay .validation), x, s) := by
  rw [Explore.validate, Op.run_get_bind]
  simp [Op.run_bind, Op.run_require, h.replaying]

/-- No breakpoint is added. -/
theorem Replays.run_addBreakpoint (h : x.Replays n) (constraint : String) :
    (Explore.addBreakpoint constraint profile).run x s =
      (.error (.inReplay .validation), x, s) := by
  rw [Explore.addBreakpoint, Op.run_bind, h.run_validate]

/-- A label leads to a state of the trace or nowhere. -/
theorem Replays.run_activate (h : x.Replays n) (label : String) :
    (∃ cursor, cursor < n ∧ (Explore.activate label profile).run x s =
        (.ok (), x.atCursor cursor, s)) ∨
      ∃ e, (Explore.activate label profile).run x s = (.error e, x, s) := by
  unfold Explore.activate
  cases Explore.stateOfLabel? label with
  | some id =>
    by_cases hid : 1 ≤ id ∧ id ≤ n
    · exact .inl ⟨id - 1, by omega, h.run_moveTo hid s⟩
    · exact .inr ⟨_, h.run_moveTo_beyond hid s⟩
  | none =>
    apply Or.inr
    dsimp only
    rw [Op.run_bind, Op.run_require]
    cases (profile.kind.transition? label).isSome with
    | false => exact ⟨_, rfl⟩
    | true =>
      obtain ⟨e, hforce⟩ : ∃ e, (Explore.force label profile.settings.forceLimit profile).run x s =
          (.error e, x, s) := h.run_force label _
      exact ⟨e, by simp only [if_true, Op.run_bind, hforce]⟩

end

end Exploration

/-- Whether a command loads a model or a trace. -/
def Command.loads : Command → Bool
  | .loadModel _ | .loadTrace _ => true
  | _ => false

/-- What comes after a condition that holds starts where the condition was checked. -/
theorem Op.of_require_bind_ok {σ β : Type} {condition : Bool} {e : SessionError}
    {next : Unit → Op σ β} {x y : Exploration} {s t : σ} {b : β}
    (h : (Op.require condition e >>= next).run x s = (.ok b, y, t)) :
    (next ()).run x s = (.ok b, y, t) := by
  obtain ⟨_, z, u, hrun, hnext⟩ := Op.of_bind_ok h
  obtain ⟨-, rfl, rfl⟩ := Op.of_require_ok hrun
  exact hnext

/-- What comes after a result that is there starts where the result was taken over. -/
theorem Op.of_ofExcept_bind_ok {σ ε α β : Type} {report : ε → SessionError} {result : Except ε α}
    {next : α → Op σ β} {x y : Exploration} {s t : σ} {b : β}
    (h : (Op.ofExcept report result >>= next).run x s = (.ok b, y, t)) :
    ∃ a, result = .ok a ∧ (next a).run x s = (.ok b, y, t) := by
  obtain ⟨a, z, u, hrun, hnext⟩ := Op.of_bind_ok h
  obtain ⟨hresult, rfl, rfl⟩ := Op.of_ofExcept_ok hrun
  exact ⟨a, hresult, hnext⟩

/-- A trace is loaded without the solver. -/
theorem Explore.traceLoaded_of_ok {σ : Type} {profile : Profile} {trace : Document}
    {x y : Exploration} {s t : σ} {u : Unit}
    (h : (Explore.loadTrace trace profile).run x s = (.ok u, y, t)) :
    x.TraceLoaded profile trace y ∧ t = s := by
  unfold Explore.loadTrace at h
  replace h := Op.of_require_bind_ok h
  obtain ⟨⟨schema, chain⟩, hchain, hscopes⟩ := Op.of_ofExcept_bind_ok h
  obtain ⟨scopes, -, hstore⟩ := Op.of_ofExcept_bind_ok hscopes
  obtain ⟨stored, hstored, hstops⟩ := Op.of_ofExcept_bind_ok hstore
  obtain ⟨shown, hshown, hupdate⟩ := Op.of_ofExcept_bind_ok hstops
  obtain ⟨hne, rfl⟩ := Store.of_storeOf_eq_ok hstored
  rw [Op.run_update] at hupdate
  obtain ⟨-, rfl, rfl⟩ := by simpa only [Prod.mk.injEq] using hupdate
  exact ⟨.intro hchain hne hshown, rfl⟩

namespace Exploration

variable {profile : Profile} {trace : Document} {x y : Exploration}

/-- A trace that was loaded is replayed from its first state, and its walk shows its chain. -/
theorem TraceLoaded.replays (h : x.TraceLoaded profile trace y) :
    ∃ schema chain,
      trace.first.chain profile.settings.vocabulary.stateSig = .ok (schema, chain) ∧
      y.Replays chain.length ∧ y.walk.cursor = 0 ∧ y.walk.stops.map (·.state) = chain := by
  have hstructured := structured_of_traceLoaded h
  obtain ⟨hchain, hne, hstops⟩ := h
  rename_i schema chain scopes shown
  have hids := (Store.of_stops_eq_ok hstops).1
  have hsize := (grounded_rooted profile.settings.vocabulary.transitionField hne).2.2.2
  have hstates : shown.map (·.state) = chain := by
    refine Store.map_state_of_shows [] ?_ hids (Store.of_stops_eq_ok hstops).2
    rw [Store.rooted, (Store.alike_recordTo _ _ _).states, Store.states_grow]
    rfl
  refine ⟨schema, chain, hchain, ?_, rfl, hstates⟩
  exact ⟨rfl, hids, hsize, hstructured.routed, rfl, rfl, List.length_pos_iff.2 hne⟩

end Exploration

namespace Session

variable {σ : Type} {session loaded : Session σ} {n : Nat}

/-- The session with its cursor elsewhere. -/
def atCursor (session : Session σ) (cursor : Nat) : Session σ :=
  { session with exploration := session.exploration.atCursor cursor }

/-- An operation that succeeds without the solver is carried out in a session. -/
theorem perform_eq_ok {op : Profile → Op σ Unit} {y : Exploration}
    (h : (op session.profile).run session.exploration session.solver =
      (.ok (), y, session.solver)) :
    session.perform op = (.ok .done, { session with exploration := y }) := by
  rw [perform, run, Op.run_map, h]

/-- What succeeded in a session did so as an operation. -/
theorem of_perform_eq_ok {op : Profile → Op σ Unit} {reply : Reply}
    (h : session.perform op = (.ok reply, loaded)) :
    (op session.profile).run session.exploration session.solver =
      (.ok (), loaded.exploration, loaded.solver) := by
  rw [perform, run, Op.run_map] at h
  rcases hrun : (op session.profile).run session.exploration session.solver with ⟨e | ⟨⟩, y, t⟩
  · simp [hrun] at h
  · rw [hrun] at h
    obtain ⟨-, rfl⟩ := Prod.mk.inj h
    rfl

/-- An operation that fails without a change does so in a session. -/
theorem run_eq_error {α β : Type} {f : α → β} {op : Profile → Op σ α} {e : SessionError}
    (h : (op session.profile).run session.exploration session.solver =
      (.error e, session.exploration, session.solver)) :
    (session.run fun profile => f <$> op profile) = (.error e, session) := by
  rw [run, Op.run_map, h]

/-- Whether a session still replays the same trace: it differs from another one in nothing but the
cursor, the breakpoints and the settings, and its solver is in the same state. -/
structure SameReplay (n : Nat) (old new : Session σ) : Prop where
  replays : new.exploration.Replays n
  solver_eq : new.solver = old.solver
  exploration_eq : ∃ cursor breakpoints,
    new.exploration = { old.exploration.atCursor cursor with breakpoints := breakpoints }

/-- A session replays the trace that it replays. -/
theorem SameReplay.refl (h : session.exploration.Replays n) : SameReplay n session session :=
  ⟨h, rfl, session.exploration.walk.cursor, session.exploration.breakpoints, rfl⟩

/-- A session replays the same trace under another cursor. -/
theorem SameReplay.moved (h : session.exploration.Replays n) {cursor : Nat} (hcursor : cursor < n) :
    SameReplay n session (session.atCursor cursor) :=
  ⟨h.atCursor hcursor, rfl, cursor, session.exploration.breakpoints, rfl⟩

/-- A session replays the same trace with other breakpoints. -/
theorem SameReplay.marked (h : session.exploration.Replays n) (breakpoints : List String) :
    SameReplay n session
      { session with exploration := { session.exploration with breakpoints := breakpoints } } :=
  ⟨⟨h.replaying, h.ids_eq, h.size_eq, h.routed, h.provisional_eq, h.alternatives_eq, h.cursor_lt⟩,
    rfl, session.exploration.walk.cursor, breakpoints, rfl⟩

/-- What is replayed in turn is the same trace. -/
theorem SameReplay.trans {first second third : Session σ} (h : SameReplay n first second)
    (h' : SameReplay n second third) : SameReplay n first third := by
  obtain ⟨-, hsolver, cursor, breakpoints, hexploration⟩ := h
  obtain ⟨hreplays, hsolver', cursor', breakpoints', hexploration'⟩ := h'
  refine ⟨hreplays, hsolver'.trans hsolver, cursor', breakpoints', ?_⟩
  rw [hexploration', hexploration]
  rfl

variable [Solver σ]

/-- Whether a command fails and changes nothing. -/
def Refuses (session : Session σ) (command : Command) : Prop :=
  ∃ e, session.exec command = (.error e, session)

/-- Whether the commands of a session act on a cursor over a trace of `n` states: from a place they
move it as far as the trace goes, and all that asks for a solver or an alternative is refused. -/
structure Replay (session : Session σ) (n place : Nat) : Prop where
  cursor_eq : session.exploration.walk.cursor = place
  cursor_lt : place < n
  forward : ∀ steps constraints, 1 ≤ steps → place + steps ≤ n - 1 →
    session.exec (.step steps constraints) = (.ok .done, session.atCursor (place + steps))
  beyond : ∀ steps constraints, 1 ≤ steps → n - 1 < place + steps →
    session.exec (.step steps constraints) =
      (.error (if place + 1 = n then .traceEnd else .traceExhausted ⟨place, steps, n - 1⟩), session)
  back : ∀ steps, 1 ≤ steps →
    session.exec (.reverseStep steps) = (.ok .done, session.atCursor (place - steps))
  restart : session.exec .reset = (.ok .done, session.atCursor 0)
  move : ∀ id, 1 ≤ id → id ≤ n → session.exec (.moveTo id) = (.ok .done, session.atCursor (id - 1))
  nowhere : ∀ id, ¬(1 ≤ id ∧ id ≤ n) → session.Refuses (.moveTo id)
  runUntil : ∀ limit, session.Refuses (.runUntil limit)
  force : ∀ transition limit, session.Refuses (.force transition limit)
  alternate : ∀ reverse, session.Refuses (.alternate reverse)
  validate : ∀ constraint, session.Refuses (.validate constraint)
  addBreakpoint : ∀ constraint, session.Refuses (.addBreakpoint constraint)

/-- A session that replays a trace takes its commands as a cursor does. -/
theorem replay_of_replays (h : session.exploration.Replays n) :
    session.Replay n session.exploration.walk.cursor where
  cursor_eq := rfl
  cursor_lt := h.cursor_lt
  forward steps constraints hsteps hwithin :=
    perform_eq_ok (h.run_step (by omega) (by have := h.cursor_lt; omega) constraints)
  beyond steps constraints hsteps hbeyond :=
    run_eq_error (h.run_step_beyond (by omega) (by omega) constraints)
  back steps hsteps := perform_eq_ok (h.run_reverseStep (by omega))
  restart := perform_eq_ok h.run_reset
  move id hpos hle := perform_eq_ok (h.run_moveTo ⟨hpos, hle⟩ _)
  nowhere id hid := ⟨_, run_eq_error (h.run_moveTo_beyond hid _)⟩
  runUntil limit := ⟨_, run_eq_error (h.run_runUntil limit)⟩
  force transition limit := (h.run_force transition limit).imp fun _ => run_eq_error
  alternate reverse := (h.run_alternate reverse session.solver).imp fun _ => run_eq_error
  validate constraint := ⟨_, run_eq_error (h.run_validate constraint)⟩
  addBreakpoint constraint := ⟨_, run_eq_error (h.run_addBreakpoint constraint)⟩

/-- A command that is refused leaves the replay. -/
theorem Refuses.sameReplay {command : Command} (hrefuses : session.Refuses command)
    (h : session.exploration.Replays n) : SameReplay n session (session.exec command).2 := by
  obtain ⟨e, hexec⟩ := hrefuses
  rw [hexec]
  exact .refl h

/-- A command moves the cursor of a replay at most, unless it loads something else. -/
theorem exec_sameReplay (h : session.exploration.Replays n) {command : Command}
    (hcommand : command.loads = false) : SameReplay n session (session.exec command).2 := by
  have hreplay := replay_of_replays h
  have hcursor := h.cursor_lt
  cases command with
  | loadModel text => cases hcommand
  | loadTrace trace => cases hcommand
  | step steps constraints =>
    rcases Nat.eq_zero_or_pos steps with rfl | hpos
    · exact Refuses.sameReplay ⟨_, run_eq_error (h.run_step_zero constraints)⟩ h
    · by_cases hwithin : session.exploration.walk.cursor + steps ≤ n - 1
      · rw [hreplay.forward steps constraints hpos hwithin]
        exact .moved h (by omega)
      · exact Refuses.sameReplay ⟨_, hreplay.beyond steps constraints hpos (by omega)⟩ h
  | runUntil limit => exact (hreplay.runUntil limit).sameReplay h
  | force transition limit => exact (hreplay.force transition limit).sameReplay h
  | alternate reverse => exact (hreplay.alternate reverse).sameReplay h
  | reverseStep steps =>
    rcases Nat.eq_zero_or_pos steps with rfl | hpos
    · exact Refuses.sameReplay ⟨_, run_eq_error h.run_reverseStep_zero⟩ h
    · rw [hreplay.back steps hpos]
      exact .moved h (by omega)
  | moveTo id =>
    by_cases hid : 1 ≤ id ∧ id ≤ n
    · rw [hreplay.move id hid.1 hid.2]
      exact .moved h (by omega)
    · exact (hreplay.nowhere id hid).sameReplay h
  | reset =>
    rw [hreplay.restart]
    exact .moved h (by omega)
  | activate label =>
    have hactivate : (∃ cursor, cursor < n ∧ (Explore.activate label session.profile).run
          session.exploration session.solver =
            (.ok (), session.exploration.atCursor cursor, session.solver)) ∨
        ∃ e, (Explore.activate label session.profile).run session.exploration session.solver =
          (.error e, session.exploration, session.solver) := h.run_activate label
    rcases hactivate with ⟨cursor, hlt, hrun⟩ | ⟨e, hrun⟩
    · have hexec : session.exec (.activate label) = (.ok .done, session.atCursor cursor) :=
        perform_eq_ok hrun
      rw [hexec]
      exact .moved h hlt
    · exact Refuses.sameReplay ⟨e, run_eq_error hrun⟩ h
  | validate constraint => exact (hreplay.validate constraint).sameReplay h
  | addBreakpoint constraint => exact (hreplay.addBreakpoint constraint).sameReplay h
  | removeBreakpoint index =>
    rw [exec, run, Op.run_map, Explore.removeBreakpoint, Op.run_get_bind, Op.run_bind,
      Op.run_ofOption]
    cases session.exploration.breakpoints[index]? with
    | none => exact .refl h
    | some removed => exact .marked h _
  | clearBreakpoints => exact .marked h []
  | setVocabulary vocabulary =>
    exact ⟨h, rfl, session.exploration.walk.cursor, session.exploration.breakpoints, rfl⟩
  | setDiffMode on =>
    exact ⟨h, rfl, session.exploration.walk.cursor, session.exploration.breakpoints, rfl⟩

/-- A run of commands that load nothing stays in the replay. -/
theorem execAll_sameReplay (h : session.exploration.Replays n) {commands : List Command}
    (hcommands : ∀ command ∈ commands, command.loads = false) :
    SameReplay n session (session.execAll commands) := by
  induction commands generalizing session with
  | nil => exact .refl h
  | cons command rest ih =>
    have hfirst := exec_sameReplay h (hcommands command List.mem_cons_self)
    have hrest := ih hfirst.replays fun other hother =>
      hcommands other (List.mem_cons_of_mem _ hother)
    exact hfirst.trans hrest

/-- A session with a solver that counts its calls and has no answer to give. -/
def unanswered : Session (Logged Scripted) :=
  .start (.start ⟨[]⟩) ⟨.default, .plain⟩

/-- A trace that comes back to its first light. -/
def backToRed : Document :=
  lights [["Red", "Green", "Red"]]

/-- Commands that go beyond both ends of a trace and ask for what a replay has no use for. -/
def beyondBothEnds : List Command :=
  [.step 2 [], .step 1 [], .runUntil 3, .reverseStep 1, .alternate false, .reverseStep 9,
    .moveTo 3]

end Session

end StateExplorer
