import StateExplorer.Proofs.Query.Command
import StateExplorer.Proofs.Session.Change
import StateExplorer.Proofs.Solution.Length
import StateExplorer.Proofs.Store.Descent
import StateExplorer.Proofs.Walk

/-!
# The structure of a session

In every session over a transition system the store is a forest in which steps lead upwards, every
route is the chain of parents of its number, and so is the walk. The cursor is on the last stop
unless a trace is replayed, and alternatives are on show exactly if the walk has a provisional
tail. Each way in which an exploration changes keeps this, since chains are attached where the walk
ends and turned over together with the tail.
-/

namespace StateExplorer

namespace Exploration

variable {solver : ExplicitSolver} {profile : Profile} {x y z : Exploration}

/-- Whether the store is a forest with a route to every number, and the walk a chain of parents. -/
structure Grounded (x : Exploration) : Prop where
  shaped : x.store.Shaped
  routed : x.store.Routed
  walk : x.walk.stops = [] ∨ x.store.Descends x.walk.ids

/-- What holds of every exploration of a session over a transition system. -/
structure Structured (x : Exploration) : Prop extends Grounded x where
  provisional_le : x.walk.provisional ≤ x.walk.stops.length
  cursor : x.replaying = false → x.walk.stops ≠ [] → x.walk.cursor + 1 = x.walk.stops.length
  alternatives : x.replaying = false → (x.alternatives.depth = 0 ↔ x.walk.provisional = 0)
  replayed : x.replaying = true → x.walk.ids = List.range' 1 x.store.size ∧
    x.alternatives.depth = 0
  /-- The solutions on show have chains of one length, and where that is one the whole walk is
  provisional. -/
  uniform : ∃ count, (∀ s ∈ x.alternatives.shown, s.document.Uniform count) ∧
    (count ≤ 1 → x.alternatives.depth ≠ 0 → x.walk.provisional = x.walk.stops.length)

/-- Nothing has been explored before anything is loaded. -/
theorem structured_empty : Structured .empty where
  shaped := Store.shaped_empty none
  routed := Store.routed_empty none
  walk := .inl rfl
  provisional_le := Nat.le_refl 0
  cursor _ h := absurd rfl h
  alternatives _ := ⟨fun _ => rfl, fun _ => rfl⟩
  replayed h := by cases h
  uniform := ⟨0, by simp [empty, Alternatives.empty], fun _ h => absurd rfl h⟩

/-! ### Attaching a chain -/

/-- A chain that is attached leaves everything but the store, the walk and the alternatives. -/
theorem Attaches.exists_shown {parent : Option Nat} {chain : List State} {kept : Walk}
    {alternatives : Alternatives} (h : x.Attaches parent chain kept alternatives y) :
    ∃ shown, chain ≠ [] ∧ (x.store.grow parent chain).Alike y.store ∧
      y.walk.stops = kept.rollback.stops ++ shown ∧ y.walk.provisional = shown.length ∧
      (∀ stop ∈ shown, y.store.Shows stop) ∧
      y = { x with store := y.store, walk := y.walk, alternatives := alternatives } := by
  obtain ⟨-, hchain, hstops⟩ := h
  rename_i shown
  obtain ⟨hids, hshows⟩ := Store.of_stops_eq_ok hstops
  have hne : shown ≠ [] := by
    rw [← List.length_pos_iff, ← List.length_map (·.id), hids, List.length_range',
      List.length_pos_iff]
    exact hchain
  have halike := (Store.alike_recordTo (kept.extend shown).ids (x.store.grow parent chain)
    (List.range' (x.store.size + 1) chain.length)).trans
      (Store.alike_recordCursor (kept.extend shown) _)
  refine ⟨shown, hchain, halike, ?_, ?_, fun stop hstop => ?_, rfl⟩
  · rw [attached, recorded, Walk.extend_eq _ hne]
  · rw [attached, recorded, Walk.extend_eq _ hne]
  · exact (hshows stop hstop).mono (halike.states ▸ List.prefix_refl _)

/-- What is stored stays stored when a chain is attached. -/
theorem Attaches.states_grown {parent : Option Nat} {chain : List State} {kept : Walk}
    {alternatives : Alternatives} (h : x.Attaches parent chain kept alternatives y) :
    x.store.states <+: y.store.states := by
  obtain ⟨shown, -, halike, -⟩ := h.exists_shown
  rw [halike.states, Store.states_grow]
  exact List.prefix_append _ _

/-- What an attachment below the end of the kept stops leaves: a store in which everything descends
as before, and a walk that goes on from the kept stops. -/
structure Continues (x : Exploration) (kept : List Stop) (count : Nat)
    (alternatives : Alternatives) (y : Exploration) : Prop where
  grounded : y.Grounded
  descends : ∀ ids, x.store.Descends ids → y.store.Descends ids
  stops : ∃ shown, shown.length = count ∧ y.walk.stops = kept ++ shown
  provisional : y.walk.provisional = count
  cursor : y.walk.cursor + 1 = y.walk.stops.length
  alternatives_eq : y.alternatives = alternatives
  replaying : y.replaying = x.replaying

/-- A chain that is attached below the last of the kept stops, or as a root where none is kept,
continues the walk. -/
theorem Grounded.attaches (h : x.Grounded) {parent : Option Nat} {chain : List State} {kept : Walk}
    {alternatives : Alternatives} (hattaches : x.Attaches parent chain kept alternatives y)
    (hparent : parent = kept.rollback.ids.getLast?)
    (hkept : kept.rollback.ids = [] ∨ x.store.Descends kept.rollback.ids) :
    x.Continues kept.rollback.stops chain.length alternatives y := by
  obtain ⟨-, hchain, hstops⟩ := hattaches
  rename_i shown
  obtain ⟨hids, -⟩ := Store.of_stops_eq_ok hstops
  have hlength : shown.length = chain.length := by
    simpa using congrArg List.length hids
  have hne : shown ≠ [] := by
    rw [← List.length_pos_iff, hlength, List.length_pos_iff]
    exact hchain
  have hwalk := kept.extend_eq hne
  have hwalkIds : (kept.extend shown).ids =
      kept.rollback.ids ++ List.range' (x.store.size + 1) chain.length := by
    simp [hwalk, Walk.ids, hids]
  subst hparent
  have hdescends := Store.descends_grow_append h.shaped hkept hchain
  have hrouted := h.routed.grow_recordTo h.shaped hkept hchain
  have hparents : ∀ p ∈ kept.rollback.ids.getLast?, x.store.Has p := by
    rcases hkept with hnil | hkept
    · simp [hnil]
    · exact fun p hp => hkept.has h.shaped p (List.mem_of_getLast? hp)
  have hrecorded := Store.alike_recordTo (kept.extend shown).ids
    (x.store.grow kept.rollback.ids.getLast? chain)
    (List.range' (x.store.size + 1) chain.length)
  have hcursor := Store.alike_recordCursor (kept.extend shown)
    ((x.store.grow kept.rollback.ids.getLast? chain).recordTo (kept.extend shown).ids
      (List.range' (x.store.size + 1) chain.length))
  have halike := hrecorded.trans hcursor
  rw [← hwalkIds] at hdescends hrouted
  refine ⟨⟨(h.shaped.grow hparents chain).alike halike, ?_, .inr (hdescends.alike halike)⟩,
    fun ids hold => (hold.grow _ chain).alike halike,
    ⟨shown, hlength, by rw [attached, recorded, hwalk]⟩,
    by rw [attached, recorded, hwalk, hlength], ?_, rfl, rfl⟩
  · change (Store.recordCursor _ _).Routed
    unfold Store.recordCursor
    split
    · exact hrouted
    · exact hrouted.recordRoute _ _
  · rw [attached, recorded, hwalk]
    have := List.length_pos_iff.2 hne
    simp only [List.length_append]
    omega

/-! ### The changes -/

/-- With the cursor on the last stop, that stop is the current one. -/
theorem ids_getLast? {anchor : Stop} (hcursor : x.walk.cursor + 1 = x.walk.stops.length)
    (hcurrent : x.walk.current? = some anchor) : x.walk.ids.getLast? = some anchor.id := by
  rw [Walk.ids, List.getLast?_map, List.getLast?_eq_getElem?, ← hcursor, Nat.add_sub_cancel]
  rw [Walk.current?] at hcurrent
  rw [hcurrent]
  rfl

/-- An extension continues the whole walk by the states after the first one. -/
theorem Grounded.extended (h : x.Grounded) (hcursor : x.walk.cursor + 1 = x.walk.stops.length)
    {goal : Goal} {bound : Nat} (hextended : x.Extended solver profile goal bound y) :
    ∃ (solution : Solution) (count : Nat), solution.document.Uniform (count + 2) ∧
      x.Continues x.walk.stops (count + 1) (.only solution) y ∧
      (goal = .path [] → bound = 1 → solver.vocabulary.endsCommand = true → count = 0) := by
  obtain ⟨-, -, hanswers, hcurrent, hattaches⟩ := hextended
  obtain ⟨hread, -, hchain⟩ := hanswers
  rename_i model start schema first next rest anchor problem
  have huniform := solver.uniform_answer problem
  have hlength := Solution.length_of_chain huniform hchain
  rw [List.length_cons, List.length_cons] at hlength
  refine ⟨(solver.answer problem).first, rest.length, by rwa [hlength], ?_, ?_⟩
  · exact h.attaches hattaches (ids_getLast? hcursor hcurrent).symm
      (h.walk.imp_left (by simp [Walk.ids, Walk.rollback, Walk.commit]))
  · rintro rfl rfl hsig
    have hstateSig := (Solution.of_chain_eq_ok hchain).1
    have hends : (x.vocabulary profile.settings).endsCommand = true := by
      unfold Vocabulary.endsCommand at hsig ⊢
      rwa [← hstateSig]
    have hone : 1 < Text.maxWord := by decide
    have : problem.bound = 1 := Problem.bound_of_read_free hends rfl hone hread
    omega

/-- What continues the walk of a session by some states and shows a solution is structured. -/
theorem Continues.structured {kept : List Stop} {count : Nat} {alternatives : Alternatives}
    (h : x.Continues kept count alternatives y) (hcount : count ≠ 0) (hexploring : x.replaying = false)
    (hshown : alternatives.depth ≠ 0)
    (huniform : ∃ length, (∀ s ∈ alternatives.shown, s.document.Uniform length) ∧
      (length ≤ 1 → kept = [])) : y.Structured where
  toGrounded := h.grounded
  provisional_le := by
    obtain ⟨shown, hshown, hstops⟩ := h.stops
    rw [h.provisional, hstops, List.length_append]
    omega
  cursor _ _ := h.cursor
  alternatives _ := by
    rw [h.alternatives_eq, h.provisional]
    exact ⟨fun hzero => absurd hzero hshown, fun hzero => absurd hzero hcount⟩
  replayed hreplaying := by
    rw [h.replaying, hexploring] at hreplaying
    cases hreplaying
  uniform := by
    obtain ⟨length, hdocuments, hshort⟩ := huniform
    refine ⟨length, by rwa [h.alternatives_eq], fun hle _ => ?_⟩
    obtain ⟨shown, hshown, hstops⟩ := h.stops
    rw [h.provisional, hstops, hshort hle, List.nil_append, hshown]

/-- An extension is structured. -/
theorem Structured.extended (h : x.Structured) (hexploring : x.replaying = false) {goal : Goal}
    {bound : Nat} (hextended : x.Extended solver profile goal bound y) : y.Structured := by
  have hne := hextended.ready
  obtain ⟨solution, count, huniform, hcontinues, -⟩ :=
    h.toGrounded.extended (h.cursor hexploring hne) hextended
  refine hcontinues.structured (by omega) hexploring (by simp [Alternatives.depth, Alternatives.only])
    ⟨count + 2, ?_, by omega⟩
  simpa [Alternatives.only] using huniform

/-- Alternatives are turned over among the solutions to one query, and one is on show. -/
theorem of_turned {alternatives next : Alternatives} {reverse : Bool} {solution : Solution}
    (hchosen : Explore.chosen alternatives reverse = .ok solution)
    (hturned : Explore.turned solution reverse alternatives = .ok next) :
    alternatives.depth ≠ 0 ∧ next.depth ≠ 0 ∧
      (∃ s ∈ alternatives.shown, s.document = solution.document) ∧
      ∀ s ∈ next.shown, ∃ s' ∈ alternatives.shown, s'.document = s.document := by
  cases reverse with
  | false =>
    rcases alternatives with ⟨_ | ⟨top, rest⟩⟩
    · simp [Explore.chosen, Alternatives.top?] at hchosen
    · simp only [Explore.chosen, Alternatives.top?, List.head?_cons, Bool.false_eq_true, if_false]
        at hchosen
      obtain rfl : (⟨solution :: top :: rest⟩ : Alternatives) = next := by
        simpa [Explore.turned, Alternatives.push] using hturned
      have hdocument : solution.document = top.document := by
        unfold Solution.next? at hchosen
        split at hchosen
        · rename_i found hfound
          split at hfound
          · obtain rfl := Option.some.inj hfound
            obtain rfl := Except.ok.inj hchosen
            rfl
          · simp at hfound
        · simp at hchosen
      refine ⟨by simp [Alternatives.depth], by simp [Alternatives.depth],
        ⟨top, List.mem_cons_self, hdocument.symm⟩, ?_⟩
      rintro s (_ | ⟨_, hs⟩)
      · exact ⟨top, List.mem_cons_self, hdocument.symm⟩
      · exact ⟨s, hs, rfl⟩
  | true =>
    rcases alternatives with ⟨_ | ⟨top, _ | ⟨previous, rest⟩⟩⟩
    · simp [Explore.chosen, Alternatives.previous?] at hchosen
    · simp [Explore.chosen, Alternatives.previous?] at hchosen
    · obtain rfl : previous = solution := by
        simpa [Explore.chosen, Alternatives.previous?] using hchosen
      obtain rfl : (⟨previous :: rest⟩ : Alternatives) = next := by
        simpa [Explore.turned, Alternatives.pop?] using hturned
      refine ⟨by simp [Alternatives.depth], by simp [Alternatives.depth],
        ⟨previous, by simp, rfl⟩, fun s hs => ⟨s, List.mem_cons_of_mem _ hs, rfl⟩⟩

/-- The stop under which an alternative is attached is the last committed one. -/
theorem anchor?_eq_getLast? (walk : Walk) :
    Explore.anchor? walk = walk.rollback.stops.getLast? := by
  rw [Walk.stops_rollback]
  unfold Explore.anchor?
  split
  · rename_i hzero
    rw [hzero]
    rfl
  · rename_i committed hcommitted
    have hlength : (walk.stops.take (committed + 1)).length = committed + 1 := by
      rw [List.length_take]
      omega
    rw [hcommitted, List.getLast?_eq_getElem?, hlength, Nat.add_sub_cancel,
      List.getElem?_take_of_lt (Nat.lt_succ_self _)]

/-- After a chain was attached, the last committed stop is the last one that was kept. -/
theorem Attaches.anchor?_eq {parent : Option Nat} {chain : List State} {kept : Walk}
    {alternatives : Alternatives} (h : x.Attaches parent chain kept alternatives y) :
    Explore.anchor? y.walk = kept.rollback.stops.getLast? := by
  obtain ⟨shown, -, -, hstops, hprovisional, -⟩ := h.exists_shown
  rw [anchor?_eq_getLast?, Walk.stops_rollback, hstops, hprovisional, List.length_append,
    Nat.add_sub_cancel, List.take_left]

/-- The number under which an alternative is attached is the last committed one. -/
theorem anchor?_eq {walk : Walk} {anchor : Stop} (h : Explore.anchor? walk = some anchor) :
    walk.rollback.ids.getLast? = some anchor.id := by
  rw [anchor?_eq_getLast?] at h
  rw [Walk.ids, List.getLast?_map, h]
  rfl

/-- An alternative continues the committed stops by the states after the first one, or starts anew
where its chain has one state and nothing is committed. -/
theorem Structured.alternated_continues (h : x.Structured) {reverse : Bool} {length : Nat}
    (hlength : ∀ s ∈ x.alternatives.shown, s.document.Uniform length)
    (hshort : length ≤ 1 → x.alternatives.depth ≠ 0 →
      x.walk.provisional = x.walk.stops.length)
    (halternated : x.Alternated profile reverse y) :
    x.replaying = false ∧ ∃ (count : Nat) (alternatives : Alternatives),
      x.Continues x.walk.rollback.stops count alternatives y ∧ alternatives.depth ≠ 0 ∧
        (∀ s ∈ alternatives.shown, s.document.Uniform length) ∧
        (length = 1 ∧ count = 1 ∧ x.walk.rollback.stops = [] ∨
          length = count + 1 ∧ count ≠ 0 ∧ x.walk.rollback.stops ≠ []) := by
  have hrollback : x.walk.rollback.rollback.ids = x.walk.rollback.ids := by
    rw [Walk.ids, Walk.stops_rollback_rollback, Walk.ids]
  have hexploring (hdepth : x.alternatives.depth ≠ 0) : x.replaying = false := by
    by_contra hreplaying
    exact hdepth (h.replayed (by simpa using hreplaying)).2
  cases halternated with
  | @root solution _ only alternatives hready hchosen hturned hchain hattaches =>
    obtain ⟨hdepth, hnext, ⟨s, hs, hsolution⟩, hdocuments⟩ := of_turned hchosen hturned
    have hone : 1 = length :=
      Solution.length_of_chain (hsolution ▸ hlength s hs) hchain
    have hnil : x.walk.rollback.stops = [] := by
      rw [Walk.stops_rollback, hshort (by omega) hdepth, Nat.sub_self, List.take_zero]
    have hids : x.walk.rollback.rollback.ids = [] := by
      rw [hrollback, Walk.ids, hnil, List.map_nil]
    have hcontinues := h.toGrounded.attaches hattaches (by rw [hids]; rfl) (.inl hids)
    rw [Walk.stops_rollback_rollback] at hcontinues
    refine ⟨hexploring hdepth, 1, alternatives, hcontinues, hnext, fun s hs => ?_,
      .inl ⟨hone.symm, rfl, hnil⟩⟩
    obtain ⟨s', hs', hsame⟩ := hdocuments s hs
    exact hsame ▸ hlength s' hs'
  | @tail solution _ first next rest anchor alternatives hready hchosen hturned hchain hanchor
      hattaches =>
    obtain ⟨hdepth, hnext, ⟨s, hs, hsolution⟩, hdocuments⟩ := of_turned hchosen hturned
    have hmany : (first :: next :: rest).length = length :=
      Solution.length_of_chain (hsolution ▸ hlength s hs) hchain
    have hlast := anchor?_eq hanchor
    have hne : x.walk.rollback.stops ≠ [] := by
      intro hnil
      simp [Walk.ids, hnil] at hlast
    have hkept : x.store.Descends x.walk.rollback.ids := by
      have hwalk := h.walk.resolve_left hready
      have htake : x.walk.rollback.ids =
          x.walk.ids.take (x.walk.stops.length - x.walk.provisional) := by
        rw [Walk.ids, Walk.stops_rollback, List.map_take, Walk.ids]
      rw [htake]
      refine hwalk.take fun hzero => hne ?_
      rw [Walk.stops_rollback, hzero, List.take_zero]
    have hcontinues := h.toGrounded.attaches hattaches (by rw [hrollback, hlast])
      (.inr (by rwa [hrollback]))
    rw [Walk.stops_rollback_rollback] at hcontinues
    refine ⟨hexploring hdepth, rest.length + 1, alternatives, hcontinues, hnext, fun s hs => ?_,
      .inr ⟨?_, by omega, hne⟩⟩
    · obtain ⟨s', hs', hsame⟩ := hdocuments s hs
      exact hsame ▸ hlength s' hs'
    · rw [← hmany]
      rfl

/-- An alternative is structured. -/
theorem Structured.alternated (h : x.Structured) {reverse : Bool}
    (halternated : x.Alternated profile reverse y) : y.Structured := by
  obtain ⟨length, hlength, hshort⟩ := h.uniform
  obtain ⟨hexploring, count, alternatives, hcontinues, hdepth, hdocuments, hcount⟩ :=
    h.alternated_continues hlength hshort halternated
  refine hcontinues.structured (by omega) hexploring hdepth ⟨length, hdocuments, fun hle => ?_⟩
  rcases hcount with ⟨-, -, hnil⟩ | ⟨hmany, hne, -⟩
  · exact hnil
  · omega

/-- The initial state that is shown anew is the first root. -/
theorem Structured.restarted (h : x.Structured) (hexploring : x.replaying = false)
    (hrestarted : x.Restarted solver profile y) :
    y.Structured ∧ ∃ stop, y.walk = ⟨[stop], 1, 0⟩ ∧ y.store = x.store := by
  obtain ⟨hready, -, hanswers⟩ := hrestarted
  obtain ⟨-, -, -⟩ := hanswers
  rename_i model schema first rest problem
  obtain ⟨root, hroot, hisRoot⟩ := (h.walk.resolve_left hready).root
  have hone : x.store.Has 1 := ⟨Nat.le_refl 1, by have := hisRoot.1; unfold Store.Has at this; omega⟩
  refine ⟨⟨⟨h.shaped, h.routed, .inr (h.shaped.isRoot_one hone).descends⟩, Nat.le_refl 1,
    fun _ _ => rfl, fun _ => (Iff.rfl : 1 = 0 ↔ 1 = 0),
    fun hreplaying => ?_, ⟨problem.bound + 1, ?_, fun _ _ => rfl⟩⟩, _, rfl, rfl⟩
  · rw [show x.replaying = true from hreplaying] at hexploring
    cases hexploring
  · intro s hs
    obtain rfl := List.mem_singleton.1 hs
    exact solver.uniform_answer problem

/-- The route to a stored state is a chain of parents. -/
theorem Structured.moved (h : x.Structured) (hexploring : x.replaying = false) {id : Nat}
    (hmoved : x.Moved id y) : y.Structured := by
  obtain ⟨hnode, hroute, hstops⟩ := hmoved
  rename_i node shown
  obtain ⟨hids, -⟩ := Store.of_stops_eq_ok hstops
  have hne : shown ≠ [] := by
    rintro rfl
    exact hroute hids.symm
  have hdescends : x.store.Descends node.route :=
    (h.routed (id - 1) node.route (Store.routes_getElem?_of_node? hnode)).1
  refine ⟨⟨h.shaped, h.routed, .inr ?_⟩, Nat.zero_le _, fun _ _ => ?_, fun _ => ⟨fun _ => rfl, fun _ => rfl⟩,
    fun hreplaying => ?_, ⟨0, by simp [Alternatives.empty], fun _ hdepth => absurd rfl hdepth⟩⟩
  · rw [Walk.ids, Walk.committed, hids]
    exact hdescends
  · have := List.length_pos_iff.2 hne
    simp only [Walk.committed]
    omega
  · rw [show x.replaying = true from hreplaying] at hexploring
    cases hexploring

/-- Moving the cursor of a replay touches nothing else. -/
theorem Structured.replayed' (h : x.Structured) {cursor : Nat} (hreplayed : x.Replayed cursor y) :
    y.Structured := by
  obtain ⟨hreplaying⟩ := hreplayed
  refine ⟨⟨h.shaped, h.routed, h.walk⟩, h.provisional_le, fun hexploring => ?_, fun hexploring => ?_,
    fun _ => h.replayed hreplaying, h.uniform⟩
  all_goals
    rw [show x.replaying = false from hexploring] at hreplaying
    cases hreplaying

/-- A chain that was stored as a root is a forest with all routes. -/
theorem grounded_rooted (transitionField : String) {chain : List State} (hchain : chain ≠ []) :
    (Store.rooted transitionField chain).Shaped ∧ (Store.rooted transitionField chain).Routed ∧
      (Store.rooted transitionField chain).Descends (List.range' 1 chain.length) ∧
      (Store.rooted transitionField chain).size = chain.length := by
  have hempty := Store.shaped_empty (some transitionField)
  have halike := Store.alike_recordTo (List.range' 1 chain.length)
    ((Store.empty (some transitionField)).grow none chain) (List.range' 1 chain.length)
  refine ⟨(hempty.grow (by simp) chain).alike halike,
    (Store.routed_empty _).grow_recordTo hempty (.inl rfl) hchain,
    (Store.descends_grow_append hempty (.inl rfl) hchain).alike halike, ?_⟩
  rw [Store.rooted, halike.size, Store.size_grow]
  exact Nat.zero_add _

/-- A model that was loaded shows a provisional chain of parents. -/
theorem structured_of_modelLoaded {text : String} (hloaded : x.ModelLoaded solver profile text y) :
    y.Structured := by
  obtain ⟨-, -, hanswers, hchain, hstops⟩ := hloaded
  obtain ⟨-, -, -⟩ := hanswers
  rename_i own model schema chain scopes shown problem
  obtain ⟨hids, -⟩ := Store.of_stops_eq_ok hstops
  obtain ⟨hshaped, hrouted, hdescends, hsize⟩ := grounded_rooted
    (own.getD profile.settings.vocabulary).transitionField hchain
  have hne : shown ≠ [] := by
    rintro rfl
    rw [← hids] at hdescends
    exact hdescends.ne_nil rfl
  have hwalk : Walk.empty.extend shown = ⟨shown, shown.length, shown.length - 1⟩ :=
    Walk.extend_eq _ hne
  have hpos := List.length_pos_iff.2 hne
  refine ⟨⟨hshaped, hrouted, .inr ?_⟩, ?_, fun _ _ => ?_, fun _ => ?_,
    fun hreplaying => Bool.noConfusion hreplaying, ⟨problem.bound + 1, ?_, fun _ _ => ?_⟩⟩
  · rw [hwalk, Walk.ids, hids]
    exact hdescends
  · rw [hwalk]
  · rw [hwalk]
    exact Nat.sub_add_cancel hpos
  · rw [hwalk]
    exact ⟨fun hzero => absurd hzero Nat.one_ne_zero, fun hzero => absurd hzero hpos.ne'⟩
  · intro s hs
    obtain rfl := List.mem_singleton.1 hs
    exact solver.uniform_answer problem
  · rw [hwalk]

/-- A trace that was loaded shows all stored states in order. -/
theorem structured_of_traceLoaded {trace : Document} (hloaded : x.TraceLoaded profile trace y) :
    y.Structured := by
  obtain ⟨-, hchain, hstops⟩ := hloaded
  rename_i schema chain scopes shown
  obtain ⟨hids, -⟩ := Store.of_stops_eq_ok hstops
  obtain ⟨hshaped, hrouted, hdescends, hsize⟩ :=
    grounded_rooted profile.settings.vocabulary.transitionField hchain
  refine ⟨⟨hshaped, hrouted, .inr ?_⟩, Nat.zero_le _,
    fun hexploring => Bool.noConfusion hexploring, fun hexploring => Bool.noConfusion hexploring,
    fun _ => ⟨?_, rfl⟩, ⟨0, by simp [Alternatives.empty], fun _ hdepth => absurd rfl hdepth⟩⟩
  · change (Store.rooted _ chain).Descends (shown.map (·.id))
    rw [hids]
    exact hdescends
  · rw [hsize]
    exact hids

end Exploration

end StateExplorer
