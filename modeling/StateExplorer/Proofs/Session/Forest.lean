import StateExplorer.Proofs.Session.Structure
import StateExplorer.Proofs.System.Enumeration

/-!
# Going back, and every run

Going back shows a state under an old number. That keeps the walk a chain of parents because the
tail that is found anew has one state only: the query asks for one transition, and is read back so
unless the state signature of the solver holds another command. So every run of a session over a
transition system leaves a forest of states, with a route to each of them.
-/

namespace StateExplorer

namespace Walk

/-- A stop that is shown under its own number stays as it is. -/
theorem renumber_self {walk : Walk} {stop : Stop} (h : walk.current? = some stop) :
    walk.renumber stop.id = walk := by
  have hstops : walk.stops.modify walk.cursor (fun s => { s with id := stop.id }) = walk.stops := by
    refine List.ext_getElem? fun i => ?_
    rw [List.getElem?_modify]
    split
    · rename_i hi
      subst hi
      rw [current?] at h
      simp [h]
    · exact id_map _
  rw [renumber, hstops]

/-- The last stop is shown under another number. -/
theorem renumber_last {walk : Walk} {kept : List Stop} {shown : Stop}
    (hstops : walk.stops = kept ++ [shown]) (hcursor : walk.cursor = kept.length) (id : Nat) :
    walk.renumber id = ⟨kept ++ [⟨id, shown.state⟩], walk.provisional, walk.cursor⟩ := by
  rw [renumber, hstops, hcursor, List.modify_eq_take_cons_drop (by simp)]
  simp

end Walk

namespace Exploration

variable {solver : ExplicitSolver} {profile : Profile} {x y z : Exploration}

/-! ### Going back -/

/-- Recording the walk under the cursor keeps the structure. -/
theorem Structured.recorded_nil (h : x.Structured) : (x.recorded []).Structured := by
  have halike := Store.alike_recordCursor x.walk x.store
  refine ⟨⟨h.shaped.alike halike, ?_, h.walk.imp_right fun hwalk => hwalk.alike halike⟩,
    h.provisional_le, h.cursor, h.alternatives, fun hreplaying => ?_, h.uniform⟩
  · change (Store.recordCursor _ _).Routed
    unfold Store.recordCursor
    split
    · exact h.routed
    · exact h.routed.recordRoute _ _
  · have hsize : (x.recorded []).store.size = x.store.size := halike.size
    rw [hsize]
    exact h.replayed hreplaying

/-- Whether the states some steps back are shown anew: one provisional state after the kept stops,
and only such alternatives unless nothing is kept. -/
structure Browses (old : Store) (kept : List Stop) (y : Exploration) : Prop where
  structured : y.Structured
  exploring : y.replaying = false
  stops : ∃ shown, y.walk.stops = kept ++ [shown]
  provisional : y.walk.provisional = 1
  two : kept = [] ∨ ∀ s ∈ y.alternatives.shown, s.document.Uniform 2
  descends : ∀ ids, old.Descends ids → y.store.Descends ids

/-- Only the kept stops are committed. -/
theorem Browses.stops_rollback {old : Store} {kept : List Stop} (h : Browses old kept y) :
    y.walk.rollback.stops = kept := by
  obtain ⟨shown, hstops⟩ := h.stops
  rw [Walk.stops_rollback, h.provisional, hstops, List.length_append, List.length_singleton,
    Nat.add_sub_cancel, List.take_left]

/-- What continues some stops by one state browses after these stops. -/
theorem Continues.browses {old : Store} {kept : List Stop} {alternatives : Alternatives}
    (h : x.Continues kept 1 alternatives y) (hstructured : y.Structured)
    (hexploring : x.replaying = false)
    (htwo : kept = [] ∨ ∀ s ∈ alternatives.shown, s.document.Uniform 2)
    (hold : ∀ ids, old.Descends ids → x.store.Descends ids) : Browses old kept y where
  structured := hstructured
  exploring := h.replaying.trans hexploring
  stops := by
    obtain ⟨shown, hlength, hstops⟩ := h.stops
    obtain ⟨stop, rfl⟩ := List.length_eq_one_iff.1 hlength
    exact ⟨stop, hstops⟩
  provisional := h.provisional
  two := by rwa [h.alternatives_eq]
  descends ids hids := h.descends ids (hold ids hids)

/-- Browsing goes on with every alternative. -/
theorem Browses.alternated {old : Store} {kept : List Stop} (h : Browses old kept y)
    (halternated : y.Alternated profile false z) : Browses old kept z := by
  have hstructured := h.structured.alternated halternated
  have hkept := h.stops_rollback
  rcases h.two with rfl | htwo
  · obtain ⟨length, hlength, hshort⟩ := h.structured.uniform
    obtain ⟨-, count, alternatives, hcontinues, -, hdocuments, hcount⟩ :=
      h.structured.alternated_continues hlength hshort halternated
    rw [hkept] at hcontinues hcount
    obtain ⟨-, rfl, -⟩ := hcount.resolve_right fun hmany => hmany.2.2 rfl
    exact hcontinues.browses hstructured h.exploring (.inl rfl) h.descends
  · obtain ⟨-, count, alternatives, hcontinues, -, hdocuments, hcount⟩ :=
      h.structured.alternated_continues htwo (by omega) halternated
    rw [hkept] at hcontinues
    obtain ⟨hmany, -, -⟩ := hcount.resolve_left fun hone => by omega
    obtain rfl : count = 1 := by omega
    exact hcontinues.browses hstructured h.exploring (.inr hdocuments) h.descends

/-- Browsing goes on through any number of alternatives. -/
theorem Browses.browsed {old : Store} {kept : List Stop} (h : Browses old kept y)
    (hbrowsed : Relation.ReflTransGen (Alternated profile false) y z) : Browses old kept z := by
  induction hbrowsed with
  | refl => exact h
  | tail _ halternated ih => exact ih.alternated halternated

/-- The one provisional stop can be shown under another number, if the numbers are a chain of
parents again. -/
theorem Browses.renumber {old : Store} {kept : List Stop} (h : Browses old kept z) {id : Nat}
    (hids : old.Descends (kept.map (·.id) ++ [id])) :
    ({ z with walk := z.walk.renumber id } : Exploration).Structured := by
  obtain ⟨shown, hstops⟩ := h.stops
  have hcursor : z.walk.cursor = kept.length := by
    have := h.structured.cursor h.exploring (by simp [hstops])
    rw [hstops, List.length_append, List.length_singleton] at this
    omega
  rw [Walk.renumber_last hstops hcursor]
  refine ⟨⟨h.structured.shaped, h.structured.routed, .inr ?_⟩, ?_, fun _ _ => ?_,
    h.structured.alternatives, fun hreplaying => ?_, ?_⟩
  · rw [Walk.ids, List.map_append]
    exact h.descends _ hids
  · simpa [hstops] using h.structured.provisional_le
  · simp [hcursor]
  · exact Bool.noConfusion (h.exploring.symm.trans hreplaying)
  · simpa [hstops] using h.structured.uniform

/-- Where the wanted state is shown, the one provisional stop can be shown as the wanted stop. -/
theorem Browses.renumber_eq {old : Store} {kept : List Stop} (h : Browses old kept z) {target : Stop}
    (hthere : Explore.isElsewhere target.state z = false) :
    z.walk.renumber target.id = ⟨kept ++ [target], z.walk.provisional, z.walk.cursor⟩ := by
  obtain ⟨shown, hstops⟩ := h.stops
  have hcursor : z.walk.cursor = kept.length := by
    have hlast := h.structured.cursor h.exploring (by simp [hstops])
    rw [hstops, List.length_append, List.length_singleton] at hlast
    omega
  have hsame : shown.state = target.state := by
    have hcurrent : z.walk.current? = some shown := by
      rw [Walk.current?, hstops, hcursor, List.getElem?_concat_length]
    simpa [Explore.isElsewhere, hcurrent] using hthere
  rw [Walk.renumber_last hstops hcursor, hsame]

/-- Before the initial state nothing is kept. -/
theorem Structured.browses_of_restarted (h : x.Structured) (hexploring : x.replaying = false)
    (hrestarted : x.Restarted solver profile y) : Browses x.store [] y := by
  obtain ⟨hstructured, stop, hwalk, hstore⟩ := h.restarted hexploring hrestarted
  refine ⟨hstructured, ?_, ⟨stop, by rw [hwalk]; rfl⟩, by rw [hwalk], .inl rfl, ?_⟩
  · obtain ⟨-, -, -⟩ := hrestarted
    exact hexploring
  · rw [hstore]
    exact fun _ hids => hids

/-- The states before the wanted one are kept, and one state is found after them. -/
theorem Structured.browses_of_extended (h : x.Structured)
    (hvocabulary : solver.vocabulary.endsCommand = true) (hexploring : x.replaying = false)
    {steps : Nat} (hlong : steps < x.walk.cursor)
    (hextended : Extended solver profile (.path []) 1
      { x with walk := x.walk.retreat (steps + 1) false } y) :
    Browses x.store (x.walk.stops.take (x.walk.cursor - steps)) y := by
  have hready : x.walk.stops ≠ [] := by
    obtain ⟨-, -, -, hcurrent, -⟩ := hextended
    rintro hnil
    simp [Walk.current?, Walk.retreat, hnil] at hcurrent
  have hcursor := h.cursor hexploring hready
  have hkept : (x.walk.retreat (steps + 1) false).stops =
      x.walk.stops.take (x.walk.cursor - steps) := by
    simp only [Walk.retreat, Bool.false_eq_true, if_false]
    congr 1
    omega
  have hgrounded : Grounded { x with walk := x.walk.retreat (steps + 1) false } := by
    refine ⟨h.shaped, h.routed, .inr ?_⟩
    rw [Walk.ids, hkept, List.map_take]
    exact (h.walk.resolve_left hready).take (by omega)
  have hlast : (x.walk.retreat (steps + 1) false).cursor + 1 =
      (x.walk.retreat (steps + 1) false).stops.length := by
    rw [hkept, List.length_take]
    simp only [Walk.retreat, Bool.false_eq_true, if_false]
    omega
  obtain ⟨solution, count, huniform, hcontinues, hzero⟩ := hgrounded.extended hlast hextended
  obtain rfl := hzero rfl rfl hvocabulary
  have hdocuments : ∀ s ∈ (Alternatives.only solution).shown, s.document.Uniform 2 := by
    simpa [Alternatives.only] using huniform
  have hstructured := hcontinues.structured Nat.one_ne_zero hexploring
    (by simp [Alternatives.depth, Alternatives.only]) ⟨2, hdocuments, by omega⟩
  rw [← hkept]
  exact hcontinues.browses hstructured hexploring (.inr hdocuments) fun _ hids => hids

/-- A stop that was found anew is shown at its old place under its old number. -/
theorem Structured.retraced (h : x.Structured)
    (hvocabulary : solver.vocabulary.endsCommand = true) {steps : Nat}
    (hretraced : x.Retraced solver profile steps y) : y.Structured := by
  cases hretraced with
  | @intro y z target htarget hfound hbrowsed =>
    refine Structured.recorded_nil ?_
    have hids {n : Nat} (hn : n = x.walk.cursor - steps) :
        x.store.Descends ((x.walk.stops.take n).map (·.id) ++ [target.id]) := by
      subst hn
      have htake : (x.walk.stops.take (x.walk.cursor - steps)).map (·.id) ++ [target.id] =
          x.walk.ids.take (x.walk.cursor - steps + 1) := by
        rw [Walk.ids, List.take_add_one, List.getElem?_map, htarget, List.map_take]
        rfl
      rw [htake]
      refine (h.walk.resolve_left ?_).take (Nat.succ_ne_zero _)
      rintro hnil
      simp [hnil] at htarget
    cases hfound with
    | replayed hreplayed =>
      -- A replay has no alternatives, and the cursor is already on the wanted stop.
      have hy := h.replayed' hreplayed
      obtain ⟨hreplaying⟩ := hreplayed
      rcases hbrowsed.cases_head with rfl | ⟨w, halternated, -⟩
      · have hcurrent : Walk.current? { x.walk with cursor := x.walk.cursor - steps } =
            some target := htarget
        rw [Walk.renumber_self hcurrent]
        exact hy
      · obtain ⟨length, hlength, hshort⟩ := hy.uniform
        have := (hy.alternated_continues hlength hshort halternated).1
        rw [show x.replaying = false from this] at hreplaying
        exact Bool.noConfusion hreplaying
    | restarted hexploring hshort hrestarted =>
      refine ((h.browses_of_restarted hexploring hrestarted).browsed hbrowsed).renumber ?_
      simpa using hids (n := 0) (by omega)
    | extended hexploring hlong hextended =>
      exact ((h.browses_of_extended hvocabulary hexploring hlong hextended).browsed
        hbrowsed).renumber (hids rfl)

/-! ### Every run -/

/-- Every change keeps the structure. -/
theorem Structured.change (h : x.Structured) (hvocabulary : solver.vocabulary.endsCommand = true)
    {command : Command} (hchange : x.Change solver profile command y) : y.Structured := by
  cases hchange with
  | model hloaded => exact structured_of_modelLoaded hloaded
  | trace hloaded => exact structured_of_traceLoaded hloaded
  | replay hreplayed => exact h.replayed' hreplayed
  | extend hexploring hextended => exact h.extended hexploring hextended
  | alternate halternated => exact h.alternated halternated
  | restart hexploring hrestarted => exact (h.restarted hexploring hrestarted).1
  | move hexploring hmoved => exact h.moved hexploring hmoved
  | retrace hretraced => exact h.retraced hvocabulary hretraced
  | breakpoints list =>
    exact ⟨⟨h.shaped, h.routed, h.walk⟩, h.provisional_le, h.cursor, h.alternatives, h.replayed,
      h.uniform⟩

/-- In a replay every stored state is a stop of the walk. -/
theorem Structured.seekStop_ne_noRoute {σ : Type} (h : x.Structured) (hreplaying : x.replaying = true)
    {id : Nat} (hhas : x.store.Has id) (s : σ) (other : Nat) :
    ((Explore.seekStop id).run x s).1 ≠ .error (.noRoute other) := by
  have hmem : x.walk.ids.contains id = true := by
    rw [(h.replayed hreplaying).1, List.contains_iff_mem, List.mem_range'_1]
    have := hhas.1
    have := hhas.2
    omega
  unfold Explore.seekStop
  rw [Op.run_get_bind, Op.run_bind, Op.run_require, if_pos hmem]
  dsimp only
  split
  · simp
  · rw [Op.run_bind, Op.run_ofExcept]
    cases x.walk.advance (x.walk.ids.idxOf id - x.walk.cursor) true with
    | ok walk => simp [Except.mapError]
    | error e => simp [Except.mapError]

/-- A stored state can be gone to by its route. -/
theorem Structured.moveTo_ne_noRoute {σ : Type} (h : x.Structured) {id : Nat}
    (hhas : x.store.Has id) (profile : Profile) (s : σ) (other : Nat) :
    ((Explore.moveTo id profile).run x s).1 ≠ .error (.noRoute other) := by
  obtain ⟨node, hnode⟩ := Store.exists_node? hhas
  have hroute : node.route ≠ [] := by
    rintro hnil
    have hk := Store.routes_getElem?_of_node? hnode
    rw [hnil] at hk
    exact h.routed.settled _ hk
  unfold Explore.moveTo Explore.requireReady
  rw [Op.run_bind, Op.run_get_bind, Op.run_require]
  cases hready : x.walk.stops.isEmpty with
  | true => simp
  | false =>
    simp only [Bool.not_false, if_true, Op.run_get_bind]
    rw [Op.run_bind, Store.node_eq_ok hnode, Op.run_ofExcept]
    simp only [Except.mapError]
    cases hreplaying : x.replaying with
    | true => exact h.seekStop_ne_noRoute hreplaying hhas s other
    | false =>
      simp only [Bool.false_eq_true, if_false]
      rw [Op.run_bind, Op.run_require, if_pos (by simpa using hroute)]
      dsimp only
      rw [Op.run_bind, Op.run_ofExcept]
      cases x.store.stops node.route with
      | ok shown => simp [Except.mapError]
      | error e => cases e <;> simp [Except.mapError, SessionError.ofStore]

end Exploration

namespace Session

/-- Every run of a session over a transition system leaves it structured, unless the solver's state
signature holds a command. -/
theorem structured_of_execAll {solver : ExplicitSolver} (profile : Profile) (commands : List Command)
    (hvocabulary : solver.vocabulary.endsCommand = true) :
    (execAll (.start solver profile) commands).exploration.Structured :=
  (execAll_induction (Q := fun _ => True) trivial (fun _ _ _ _ => trivial)
    Exploration.structured_empty fun _ _ _ _ _ _ h hchange => h.change hvocabulary hchange).1

/-- What can be relied on in a session over a transition system. -/
structure Forest (session : Session ExplicitSolver) : Prop where
  /-- The numbers in use are those from one to the size of the store, in order. -/
  numbered : ∀ i < session.exploration.store.size, ∃ node,
    session.exploration.store.atIndex i = .ok (i + 1, node) ∧
      session.exploration.store.node (i + 1) = .ok node
  /-- Steps lead from smaller numbers to larger ones. -/
  upward : ∀ i j, session.exploration.store.Linked i j →
    i < j ∧ j ≤ session.exploration.store.size
  /-- No two steps lead to one number. -/
  single : session.exploration.store.targets.Nodup
  /-- The route of every number is recorded and is its one chain of parents. -/
  routed : ∀ id node, session.exploration.store.node id = .ok node → node.route ≠ [] ∧
    ∀ ids, session.exploration.store.LeadsTo ids id ↔ ids = node.route
  /-- The walk is the one chain of parents of its last number. -/
  walk : ∀ stop ∈ session.exploration.walk.stops.getLast?, ∀ ids,
    session.exploration.store.LeadsTo ids stop.id ↔ ids = session.exploration.walk.ids
  /-- The tail is a part of the walk. -/
  provisional_le : session.exploration.walk.provisional ≤ session.exploration.walk.stops.length
  /-- Unless a trace is replayed, the cursor is on the last stop. -/
  cursor : session.exploration.replaying = false → session.exploration.walk.stops ≠ [] →
    session.exploration.walk.cursor + 1 = session.exploration.walk.stops.length
  /-- Unless a trace is replayed, there are alternatives exactly if there is a tail. -/
  alternatives : session.exploration.replaying = false →
    (session.exploration.alternatives.depth = 0 ↔ session.exploration.walk.provisional = 0)
  /-- Every stored state has a route to go to it. -/
  reachable : ∀ id other, session.exploration.store.Has id →
    (session.exec (.moveTo id)).1 ≠ .error (.noRoute other)

/-- A session with a structured exploration can be relied on. -/
theorem forest_of_structured {session : Session ExplicitSolver}
    (h : session.exploration.Structured) : session.Forest where
  numbered i hi := by
    have hhas : session.exploration.store.Has (i + 1) := ⟨Nat.le_add_left 1 i, hi⟩
    obtain ⟨node, hnode⟩ := Store.exists_node? hhas
    have hplace : session.exploration.store.nodes[i]? = some node := hnode
    exact ⟨node, by rw [Store.atIndex, hplace], Store.node_eq_ok hnode⟩
  upward := h.shaped.upward
  single := h.shaped.single
  routed id node hnode := by
    have hnode := Store.of_node_eq_ok hnode
    have hpos := (Store.has_of_node? hnode).1
    have hleads := h.routed _ _ (Store.routes_getElem?_of_node? hnode)
    rw [Nat.sub_add_cancel hpos] at hleads
    refine ⟨hleads.1.ne_nil, fun ids => ⟨fun hids => hids.unique h.shaped hleads, ?_⟩⟩
    rintro rfl
    exact hleads
  walk stop hstop ids := by
    have hready : session.exploration.walk.stops ≠ [] := by
      rintro hnil
      simp [hnil] at hstop
    have hleads : session.exploration.store.LeadsTo session.exploration.walk.ids stop.id := by
      refine ⟨h.walk.resolve_left hready, ?_⟩
      rw [Walk.ids, List.getLast?_map, hstop]
      rfl
    refine ⟨fun hids => hids.unique h.shaped hleads, ?_⟩
    rintro rfl
    exact hleads
  provisional_le := h.provisional_le
  cursor := h.cursor
  alternatives := h.alternatives
  reachable id other hhas hfails := by
    refine h.moveTo_ne_noRoute hhas session.profile session.solver other ?_
    simp only [exec, perform, run, Op.run_map] at hfails
    split at hfails
    · simp at hfails
    · rename_i hrun
      rw [hrun, Except.error.inj hfails]

/-- Every run of a session over a transition system leaves a forest with all its routes, a walk
down one of its branches and a way to every stored state, as long as the state signature of the
solver does not hold a command. -/
theorem execAll_forest (solver : ExplicitSolver) (profile : Profile) (commands : List Command)
    (hvocabulary : solver.vocabulary.endsCommand = true) :
    (execAll (.start solver profile) commands).Forest :=
  forest_of_structured (structured_of_execAll profile commands hvocabulary)

/-- Over the traffic light, going back from green to red and on to the other light that follows on
green. -/
theorem execAll_forest_traffic :
    trafficSolver.vocabulary.endsCommand = true ∧
      (execAll (.start trafficSolver ⟨.default, .plain⟩)
        [.loadModel emptyModel, .step 2 [], .reverseStep 1, .step 1 [], .alternate false,
          .moveTo 2]).Forest :=
  ⟨by decide, execAll_forest trafficSolver ⟨.default, .plain⟩ _ (by decide)⟩

/-- A lamp that can be switched on, and then stays on. -/
def lamp : TransitionSystem where
  fields := [⟨"light", 1⟩]
  states := [⟨"off", .ofList [("light", ["Off"])]⟩, ⟨"on", .ofList [("light", ["On"])]⟩]
  initial := ["off"]
  transitions := [⟨"off", "on", none⟩, ⟨"on", "on", none⟩]

/-- A vocabulary whose state signature holds a command for three states. -/
def commanding : Vocabulary :=
  { Vocabulary.default with stateSig := "State\nrun for exactly 3 x" }

/-- A session over the lamp under that vocabulary, once it went back from the third state. -/
def wentBack : Session ExplicitSolver :=
  execAll (.start ⟨lamp, commanding, 64, by decide⟩
    ⟨{ Settings.default with vocabulary := commanding }, .plain⟩)
    [.loadModel emptyModel, .reverseStep 1]

/-- Where the state signature holds a command, the walk need not be a chain of parents: going back
finds two states in place of one, and the second of them is shown under the old number. -/
theorem not_forest_wentBack : wentBack.exploration.walk.ids = [1, 4, 2] ∧ ¬wentBack.Forest := by
  have hids : wentBack.exploration.walk.ids = [1, 4, 2] := by decide +kernel
  refine ⟨hids, fun h => ?_⟩
  have hlast : wentBack.exploration.walk.ids.getLast? = some 2 := by
    rw [hids]
    rfl
  rw [Walk.ids, List.getLast?_map] at hlast
  obtain ⟨stop, hstop, -⟩ := Option.map_eq_some_iff.1 hlast
  have hleads := (h.walk stop hstop _).2 rfl
  rw [hids] at hleads
  have hlinked := (List.isChain_cons_cons.1 (List.isChain_cons_cons.1 hleads.1.linked).2).1
  have := (h.upward 4 2 hlinked).1
  omega

end Session

end StateExplorer
