import StateExplorer.Proofs.Session.Faithfulness
import StateExplorer.Proofs.Session.Replay
import StateExplorer.Session.View

/-!
# What is shown is what is stored

A walk shows states under numbers, and the store keeps the state of each number. Most stops are
taken from the store, but two are not: a reset shows the initial state under the number one without
looking it up, and going back gives a state that was found anew its old number. The first is right
because the same query has the same answer, the second because browsing stops at equal content.
Every stored state also has a route that ends with it and goes through stored states, so it can be
gone to again, and that asks no solver.
-/

namespace StateExplorer

/-- Whether the route to every number is recorded, ends with it, and uses stored numbers only. -/
def Store.Replayable (store : Store) : Prop :=
  ∀ (k : Nat) (route : List Nat), store.routes[k]? = some route →
    route.getLast? = some (k + 1) ∧ ∀ id ∈ route, store.Has id

namespace Store

variable {store : Store}

/-- A store without states has no route to look at. -/
theorem replayable_empty (transitionField : Option String) : (empty transitionField).Replayable := by
  intro k route hk
  simp [routes, empty] at hk

/-- Where all states can be gone to, every route is recorded. -/
theorem Replayable.settled (h : store.Replayable) : store.Settled := by
  intro k hk
  cases (h k [] hk).1

/-- A list that holds a number ends with it, if it is cut after its first place. -/
theorem getLast?_take_idxOf {walk : List Nat} {id : Nat} (hid : id ∈ walk) :
    (walk.take (walk.idxOf id + 1)).getLast? = some id := by
  have hlt : walk.idxOf id < walk.length := List.idxOf_lt_length_iff.2 hid
  have hlength : (walk.take (walk.idxOf id + 1)).length = walk.idxOf id + 1 :=
    List.length_take_of_le hlt
  rw [List.getLast?_eq_getElem?, hlength, Nat.add_sub_cancel,
    List.getElem?_take_of_lt (Nat.lt_succ_self _), List.getElem?_eq_getElem hlt,
    List.getElem_idxOf hlt]

/-- A chain that is stored, with the routes along a walk that goes through all of it. -/
theorem Replayable.grow_recordTo (h : store.Replayable) (parent : Option Nat) (chain : List State)
    {walk : List Nat} (hwalk : ∀ id ∈ walk, (store.grow parent chain).Has id)
    (hnew : ∀ id ∈ List.range' (store.size + 1) chain.length, id ∈ walk) :
    ((store.grow parent chain).recordTo walk
      (List.range' (store.size + 1) chain.length)).Replayable := by
  have halike := alike_recordTo walk (store.grow parent chain)
    (List.range' (store.size + 1) chain.length)
  intro k route hk
  rw [routes_recordTo] at hk
  split at hk
  · -- A new number, with the part of the walk up to it.
    rename_i hcut
    obtain rfl := Option.some.inj hk
    refine ⟨getLast?_take_idxOf hcut.2.2, fun id hid => ?_⟩
    exact (halike.has_iff id).2 (hwalk id (List.mem_of_mem_take hid))
  · rename_i hold
    have hlt := (List.getElem?_eq_some_iff.1 hk).1
    rw [length_routes, size_grow] at hlt
    have hkold : k < store.size := by
      by_contra hge
      have hmem : k + 1 ∈ List.range' (store.size + 1) chain.length := by
        rw [List.mem_range'_1]
        omega
      refine hold ⟨?_, hmem, hnew _ hmem⟩
      rw [routes_grow, List.getElem?_append_right (by rw [length_routes]; omega),
        List.getElem?_replicate, if_pos (by rw [length_routes]; omega)]
    rw [routes_grow, List.getElem?_append_left (by rwa [length_routes])] at hk
    obtain ⟨hlast, hhas⟩ := h k route hk
    refine ⟨hlast, fun id hid => (halike.has_iff id).2 ?_⟩
    have hid := hhas id hid
    rw [Has, size_grow]
    exact ⟨hid.1, Nat.le_add_right_of_le hid.2⟩

/-- A stored chain with its routes can be gone to. -/
theorem replayable_rooted (transitionField : String) (chain : List State) :
    (rooted transitionField chain).Replayable := by
  refine (replayable_empty (some transitionField)).grow_recordTo none chain ?_ fun id hid => hid
  intro id hid
  rw [List.mem_range'_1] at hid
  rw [Has, size_grow]
  exact ⟨hid.1, by omega⟩

/-- A stop that is shown has a node with its state. -/
theorem Shows.exists_node {stop : Stop} (h : store.Shows stop) :
    ∃ node, store.node? stop.id = some node ∧ node.state = stop.state :=
  exists_node?_of_states h.1 h.2

/-- The states of a chain that was stored as a root. -/
theorem states_rooted (transitionField : String) (chain : List State) :
    (rooted transitionField chain).states = chain := by
  rw [rooted, (alike_recordTo _ _ _).states, states_grow]
  rfl

end Store

namespace Exploration

variable {solver : ExplicitSolver} {profile : Profile} {x y z : Exploration}

/-- Whether an exploration shows what it stores, can go to all of it, and would find its first state
again if it asked for the initial state. -/
structure Truthful (solver : ExplicitSolver) (profile : Profile) (x : Exploration) : Prop where
  shows : ∀ stop ∈ x.walk.stops, x.store.Shows stop
  initial : ∀ model, x.model = some model → ∃ solution schema first rest,
    Answers solver (x.vocabulary profile.settings) model.initialQuery solution schema
      (first :: rest) ∧ x.store.states[0]? = some first
  ready : x.store.size ≠ 0 → x.walk.stops ≠ []
  replayable : x.store.Replayable

/-- Nothing is shown before anything is loaded. -/
theorem truthful_empty (solver : ExplicitSolver) (profile : Profile) :
    Truthful solver profile .empty where
  shows stop hstop := by cases hstop
  initial model hmodel := by cases hmodel
  ready hsize := absurd rfl hsize
  replayable := Store.replayable_empty none

/-- Another walk through stored states, with whatever alternatives. -/
theorem Truthful.withWalk (h : x.Truthful solver profile) {walk : Walk}
    (hshows : ∀ stop ∈ walk.stops, x.store.Shows stop) (hne : walk.stops ≠ [])
    (alternatives : Alternatives) :
    ({ x with walk := walk, alternatives := alternatives } : Exploration).Truthful solver profile :=
  ⟨hshows, h.initial, fun _ => hne, h.replayable⟩

/-! ### The changes -/

/-- The routes to the states of a chain that is attached run along the walk. -/
theorem Attaches.replayable {parent : Option Nat} {chain : List State} {kept : Walk}
    {alternatives : Alternatives} (h : x.Attaches parent chain kept alternatives y)
    (hreplayable : x.store.Replayable) (hkept : ∀ id ∈ kept.rollback.ids, x.store.Has id) :
    y.store.Replayable := by
  obtain ⟨-, hchain, hstops⟩ := h
  rename_i shown
  have hids := (Store.of_stops_eq_ok hstops).1
  have hne : shown ≠ [] := by
    rintro rfl
    exact hchain (List.length_eq_zero_iff.1 (by simpa using congrArg List.length hids.symm))
  have hwalk : (kept.extend shown).ids =
      kept.rollback.ids ++ List.range' (x.store.size + 1) chain.length := by
    simp [Walk.extend_eq _ hne, Walk.ids, hids]
  have hgrown : ((x.store.grow parent chain).recordTo (kept.extend shown).ids
      (List.range' (x.store.size + 1) chain.length)).Replayable := by
    refine hreplayable.grow_recordTo parent chain (fun id hid => ?_) fun id hid => ?_
    · rw [Store.Has, Store.size_grow]
      rw [hwalk, List.mem_append] at hid
      rcases hid with hold | hnew
      · exact ⟨(hkept id hold).1, Nat.le_add_right_of_le (hkept id hold).2⟩
      · rw [List.mem_range'_1] at hnew
        omega
    · rw [hwalk]
      exact List.mem_append_right _ hid
  change (Store.recordCursor _ _).Replayable
  rw [hgrown.settled.recordCursor_eq_self]
  exact hgrown

/-- A chain that is attached below a stored state is stored and shown. -/
theorem Truthful.attaches (h : x.Truthful solver profile) {parent : Option Nat}
    {chain : List State} {kept : Walk} {alternatives : Alternatives}
    (hattaches : x.Attaches parent chain kept alternatives y)
    (hkept : ∀ stop ∈ kept.rollback.stops, x.store.Shows stop) :
    y.Truthful solver profile := by
  have hgrown := hattaches.states_grown
  have htail := hattaches.tail_eq.2.2.1
  obtain ⟨shown, hchain, halike, hstops, -, hshown, hrest⟩ := hattaches.exists_shown
  have hmodel : y.model = x.model := by rw [hrest]
  have hvocabulary : y.vocabulary profile.settings = x.vocabulary profile.settings := by
    rw [hrest]
    rfl
  refine ⟨fun stop hstop => ?_, fun model hsome => ?_, fun _ hnil => ?_,
    hattaches.replayable h.replayable fun id hid => ?_⟩
  · rw [hstops, List.mem_append] at hstop
    rcases hstop with hold | hnew
    · exact (hkept stop hold).mono hgrown
    · exact hshown stop hnew
  · obtain ⟨solution, schema, first, rest, hanswers, hfirst⟩ := h.initial model (hmodel ▸ hsome)
    refine ⟨solution, schema, first, rest, hvocabulary ▸ hanswers, ?_⟩
    obtain ⟨more, hmore⟩ := hgrown
    rw [← hmore, List.getElem?_append_left (List.getElem?_eq_some_iff.1 hfirst).1, hfirst]
  · rw [← Walk.rollback_append_tail, List.append_eq_nil_iff] at hnil
    rw [hnil.2] at htail
    exact hchain htail.symm
  · obtain ⟨stop, hstop, rfl⟩ := List.mem_map.1 hid
    exact (hkept stop hstop).has

/-- An extension shows the new states after all that was shown. -/
theorem Truthful.extended (h : x.Truthful solver profile) {goal : Goal} {bound : Nat}
    (hextended : x.Extended solver profile goal bound y) :
    y.Truthful solver profile ∧ x.store.states <+: y.store.states := by
  obtain ⟨-, -, -, -, hattaches⟩ := hextended
  exact ⟨h.attaches hattaches h.shows, hattaches.states_grown⟩

/-- An alternative shows new states after what was committed. -/
theorem Truthful.alternated (h : x.Truthful solver profile) {reverse : Bool}
    (halternated : x.Alternated profile reverse y) :
    y.Truthful solver profile ∧ x.store.states <+: y.store.states := by
  have hkept : ∀ stop ∈ x.walk.rollback.rollback.stops, x.store.Shows stop := by
    intro stop hstop
    rw [Walk.stops_rollback_rollback, Walk.stops_rollback] at hstop
    exact h.shows stop (List.mem_of_mem_take hstop)
  cases halternated with
  | root _ _ _ _ hattaches => exact ⟨h.attaches hattaches hkept, hattaches.states_grown⟩
  | tail _ _ _ _ _ hattaches => exact ⟨h.attaches hattaches hkept, hattaches.states_grown⟩

/-- The initial state that is shown anew is the one stored under the number one. -/
theorem Truthful.restarted (h : x.Truthful solver profile)
    (hrestarted : x.Restarted solver profile y) :
    y.Truthful solver profile ∧ x.store.states <+: y.store.states := by
  obtain ⟨-, hmodel, hanswers⟩ := hrestarted
  rename_i model solution schema first rest
  obtain ⟨solution', schema', first', rest', hanswers', hfirst⟩ := h.initial model hmodel
  obtain ⟨-, hsame⟩ := Answers.unique hanswers hanswers'
  obtain ⟨rfl, -⟩ := List.cons.inj hsame
  refine ⟨h.withWalk ?_ (List.cons_ne_nil _ _) _, List.prefix_refl _⟩
  intro stop hstop
  obtain rfl := List.mem_singleton.1 hstop
  exact ⟨Nat.le_refl 1, hfirst⟩

/-- The route to a stored state is shown as it is stored. -/
theorem Truthful.moved (h : x.Truthful solver profile) {id : Nat} (hmoved : x.Moved id y) :
    y.Truthful solver profile := by
  obtain ⟨-, hroute, hstops⟩ := hmoved
  obtain ⟨hids, hshows⟩ := Store.of_stops_eq_ok hstops
  refine h.withWalk hshows ?_ _
  intro hnil
  obtain rfl : _ = [] := hnil
  exact hroute hids.symm

/-- The states before the wanted one are shown as they are stored. -/
theorem Truthful.foundAgain (h : x.Truthful solver profile) {steps : Nat}
    (hfound : x.FoundAgain solver profile steps y) :
    y.Truthful solver profile ∧ x.store.states <+: y.store.states := by
  cases hfound with
  | replayed hreplayed =>
    obtain ⟨-⟩ := hreplayed
    exact ⟨⟨h.shows, h.initial, h.ready, h.replayable⟩, List.prefix_refl _⟩
  | restarted _ _ hrestarted => exact h.restarted hrestarted
  | extended _ _ hextended =>
    have hretreat : ({ x with walk := x.walk.retreat (steps + 1) false } : Exploration).Truthful
        solver profile :=
      h.withWalk (fun stop hstop => h.shows stop (List.mem_of_mem_take hstop)) hextended.ready
        x.alternatives
    exact hretreat.extended hextended

/-- Browsing shows states as they are stored. -/
theorem Truthful.browsed (h : x.Truthful solver profile)
    (hbrowsed : Relation.ReflTransGen (Alternated profile false) x y) :
    y.Truthful solver profile ∧ x.store.states <+: y.store.states := by
  induction hbrowsed with
  | refl => exact ⟨h, List.prefix_refl _⟩
  | tail _ halternated ih =>
    obtain ⟨htruthful, hgrown⟩ := ih
    obtain ⟨htruthful, hmore⟩ := htruthful.alternated halternated
    exact ⟨htruthful, hgrown.trans hmore⟩

end Exploration

/-- A stop of a walk that was shown under another number is an old one, or the current one. -/
theorem Walk.of_mem_renumber {walk : Walk} {id : Nat} {stop : Stop}
    (h : stop ∈ (walk.renumber id).stops) :
    stop ∈ walk.stops ∨ ∃ current, walk.current? = some current ∧ stop = ⟨id, current.state⟩ := by
  obtain ⟨i, hi⟩ := List.mem_iff_getElem?.1 h
  rw [renumber, List.getElem?_modify] at hi
  by_cases hcursor : walk.cursor = i
  · subst hcursor
    obtain ⟨current, hcurrent, rfl⟩ := Option.map_eq_some_iff.1 hi
    exact .inr ⟨current, hcurrent, by simp⟩
  · simp only [hcursor, if_false] at hi
    exact .inl (List.mem_of_getElem? ((id_map _).symm.trans hi))

namespace Exploration

variable {solver : ExplicitSolver} {profile : Profile} {x y z : Exploration}

/-- A state that was found anew is the one stored under its old number. -/
theorem Truthful.retraced (h : x.Truthful solver profile) {steps : Nat}
    (hretraced : x.Retraced solver profile steps y) : y.Truthful solver profile := by
  obtain ⟨htarget, hfound, hbrowsed, hthere⟩ := hretraced
  rename_i y z target
  obtain ⟨hy, hgrown⟩ := h.foundAgain hfound
  obtain ⟨hz, hmore⟩ := hy.browsed hbrowsed
  have htarget : z.store.Shows target :=
    (h.shows target (List.mem_of_getElem? htarget)).mono (hgrown.trans hmore)
  have hrenumbered : ({ z with walk := z.walk.renumber target.id } : Exploration).Truthful solver
      profile := by
    refine ⟨fun stop hstop => ?_, hz.initial, fun hsize hnil => ?_, hz.replayable⟩
    · rcases Walk.of_mem_renumber hstop with hold | ⟨current, hcurrent, rfl⟩
      · exact hz.shows stop hold
      · have hsame : current.state = target.state := by
          simpa [Explore.isElsewhere, hcurrent] using hthere
        rw [hsame]
        exact htarget
    · refine hz.ready hsize ?_
      have hlength := congrArg List.length hnil
      simpa [Walk.renumber] using hlength
  rw [recorded_nil_eq hrenumbered.replayable.settled]
  exact hrenumbered

/-- A model that was loaded shows its initial state, and its query is asked with the same answer. -/
theorem truthful_of_modelLoaded {text : String} (hloaded : x.ModelLoaded solver profile text y) :
    y.Truthful solver profile := by
  obtain ⟨-, -, hanswers, hchain, hstops⟩ := hloaded
  rename_i own model solution schema chain scopes shown
  obtain ⟨hids, hshows⟩ := Store.of_stops_eq_ok hstops
  obtain ⟨first, rest, rfl⟩ := List.exists_cons_of_ne_nil hchain
  have hne : shown ≠ [] := by
    rintro rfl
    cases hids
  have hwalk : (Walk.empty.extend shown).stops = shown := by
    rw [Walk.extend_eq _ hne]
    rfl
  refine ⟨?_, ?_, fun _ => ?_, Store.replayable_rooted _ _⟩
  · change ∀ stop ∈ (Walk.empty.extend shown).stops, _
    rw [hwalk]
    exact hshows
  · rintro _ ⟨⟩
    refine ⟨solution, schema, first, rest, hanswers, ?_⟩
    rw [Store.states_rooted]
    rfl
  · change (Walk.empty.extend shown).stops ≠ []
    rwa [hwalk]

/-- A trace that was loaded shows its states. -/
theorem truthful_of_traceLoaded {trace : Document} (hloaded : x.TraceLoaded profile trace y) :
    y.Truthful solver profile := by
  obtain ⟨-, hchain, hstops⟩ := hloaded
  rename_i schema chain scopes shown
  obtain ⟨hids, hshows⟩ := Store.of_stops_eq_ok hstops
  refine ⟨hshows, ?_, fun _ hnil => ?_, Store.replayable_rooted _ _⟩
  · rintro model ⟨⟩
  · change shown = [] at hnil
    rw [hnil] at hids
    exact hchain (List.length_eq_zero_iff.1 (by simpa using congrArg List.length hids.symm))

/-- Every change shows what is stored. -/
theorem Truthful.change (h : x.Truthful solver profile) {command : Command}
    (hchange : x.Change solver profile command y) : y.Truthful solver profile := by
  cases hchange with
  | model hloaded => exact truthful_of_modelLoaded hloaded
  | trace hloaded => exact truthful_of_traceLoaded hloaded
  | replay hreplayed =>
    obtain ⟨-⟩ := hreplayed
    exact ⟨h.shows, h.initial, h.ready, h.replayable⟩
  | extend _ hextended => exact (h.extended hextended).1
  | alternate halternated => exact (h.alternated halternated).1
  | restart _ hrestarted => exact (h.restarted hrestarted).1
  | move _ hmoved => exact h.moved hmoved
  | retrace hretraced => exact h.retraced hretraced
  | breakpoints list => exact ⟨h.shows, h.initial, h.ready, h.replayable⟩

/-! ### Going to a stored state -/

/-- The exploration after going to a stored state by its route. -/
def gone (x : Exploration) (shown : List Stop) : Exploration :=
  { x with walk := .committed shown, alternatives := .empty }

/-- Every stored state can be gone to by its route, without a solver. -/
theorem Truthful.run_moveTo (h : x.Truthful solver profile) (hexploring : x.replaying = false)
    {id : Nat} (hhas : x.store.Has id) :
    ∃ node shown, x.store.node? id = some node ∧ shown.map (·.id) = node.route ∧
      (∀ stop ∈ shown, x.store.Shows stop) ∧ node.route.getLast? = some id ∧
      ∀ {τ : Type} (p : Profile) (s : τ),
        (Explore.moveTo id p).run x s = (.ok (), x.gone shown, s) := by
  obtain ⟨node, hnode⟩ := Store.exists_node? hhas
  obtain ⟨hlast, hroute⟩ := h.replayable _ _ (Store.routes_getElem?_of_node? hnode)
  rw [Nat.sub_add_cancel hhas.1] at hlast
  obtain ⟨shown, hshown⟩ := Store.exists_stops hroute
  obtain ⟨hids, hshows⟩ := Store.of_stops_eq_ok hshown
  refine ⟨node, shown, hnode, hids, hshows, hlast, fun p s => ?_⟩
  have hready : x.walk.stops.isEmpty = false := by
    rw [List.isEmpty_eq_false_iff]
    exact h.ready (by have := hhas.1; have := hhas.2; omega)
  have hne : node.route.isEmpty = false := by
    rw [List.isEmpty_eq_false_iff]
    intro hnil
    rw [hnil] at hlast
    cases hlast
  have hreplaying : ¬x.replaying = true := by simp [hexploring]
  simp only [Explore.moveTo, Explore.requireReady, Op.run_bind, Op.run_get, Op.run_require, hready,
    Bool.not_false, if_true, Store.node_eq_ok hnode, Op.run_ofExcept, Except.mapError,
    if_neg hreplaying, hne, hshown, Op.run_set]
  rfl

end Exploration

/-- The number in the label of a stored state is its number, as long as that fits a word. -/
theorem Explore.stateOfLabel?_toString {id : Nat} (hword : id ≤ Text.maxWord) :
    Explore.stateOfLabel? ("S" ++ toString id) = some id := by
  have hlabel : ("S" ++ toString id).toList = 'S' :: Text.decimal id := by
    rw [String.toList_append, Text.toList_toString]
    rfl
  have hdigits : (Text.decimal id).all Char.isDigit = true :=
    List.all_eq_true.2 fun c hc => Text.isDigit_of_mem_decimal hc
  simp only [Explore.stateOfLabel?, hlabel, hdigits, Text.readNat?_decimal, if_pos hword]
  rfl

namespace Session

/-- The same session with another solver. -/
def withSolver {σ τ : Type} (session : Session σ) (solver : τ) : Session τ :=
  ⟨solver, session.profile, session.diffMode, session.exploration⟩

/-- Whether every stop shows the stored state of its number. -/
def Shows {σ : Type} (session : Session σ) : Prop :=
  ∀ stop ∈ session.exploration.walk.stops,
    ∃ node, session.exploration.store.node? stop.id = some node ∧ node.state = stop.state

/-- Whether a command goes to a stored state: it succeeds with any solver in place, which it leaves
as it is, it leaves the store, and the walk becomes the route of the state, ends with it, shows what
is stored, and has neither a tail nor alternatives. -/
def GoesTo {σ : Type} (session : Session σ) (command : Command) (id : Nat) : Prop :=
  ∃ node walk, session.exploration.store.node? id = some node ∧
    (∀ (τ : Type) [Solver τ] (solver : τ), (session.withSolver solver).exec command =
      (.ok .done, { session.withSolver solver with
        exploration := { session.exploration with walk := walk, alternatives := .empty } })) ∧
    walk.ids = node.route ∧ walk.provisional = 0 ∧
    (∃ stop, walk.current? = some stop ∧ stop.id = id) ∧
    ∀ stop ∈ walk.stops, ∃ shown, session.exploration.store.node? stop.id = some shown ∧
      shown.state = stop.state

/-- A session over a transition system shows what it stores, as long as its vocabulary stays. -/
theorem truthful_of_execAll (solver : ExplicitSolver) (profile : Profile) {commands : List Command}
    (hfixed : ∀ vocabulary, .setVocabulary vocabulary ∉ commands) :
    (execAll (.start solver profile) commands).exploration.Truthful solver profile :=
  (execAll_induction (Q := (· = profile)) rfl
    (fun vocabulary hmem => absurd hmem (hfixed vocabulary))
    (Exploration.truthful_empty solver profile)
    fun _ hp _ _ _ _ h hchange => h.change (hp ▸ hchange)).1

/-- Going to a stored state gives its route, whatever the solver. -/
theorem goesTo_moveTo {session : Session ExplicitSolver} {solver : ExplicitSolver}
    {profile : Profile} (h : session.exploration.Truthful solver profile)
    (hexploring : session.exploration.replaying = false) {id : Nat}
    (hhas : session.exploration.store.Has id) :
    session.GoesTo (.moveTo id) id ∧
      (id ≤ Text.maxWord → session.GoesTo (.activate ("S" ++ toString id)) id) := by
  obtain ⟨node, shown, hnode, hids, hshows, hlast, hrun⟩ := h.run_moveTo hexploring hhas
  have hcurrent : ∃ stop, (Walk.committed shown).current? = some stop ∧ stop.id = id := by
    rw [← hids, List.getLast?_map, Option.map_eq_some_iff] at hlast
    obtain ⟨stop, hstop, hid⟩ := hlast
    rw [List.getLast?_eq_getElem?] at hstop
    exact ⟨stop, hstop, hid⟩
  refine ⟨⟨node, .committed shown, hnode, fun τ _ other => ?_, hids, rfl, hcurrent,
      fun stop hstop => (hshows stop hstop).exists_node⟩,
    fun hword => ⟨node, .committed shown, hnode, fun τ _ other => ?_, hids, rfl, hcurrent,
      fun stop hstop => (hshows stop hstop).exists_node⟩⟩
  · exact perform_eq_ok (hrun _ other)
  · refine perform_eq_ok ?_
    rw [Explore.activate, Explore.stateOfLabel?_toString hword]
    exact hrun _ other

/-- What a session shows never lies, and replay is exact. In every run of a session over a
transition system whose vocabulary stays, each stop shows the stored state of its number, so the
current state is displayed as the node of its number is. Outside a replay every stored state can be
gone to by its number and by its label, without a solver. A label holds a number of one machine
word. -/
theorem execAll_shows (solver : ExplicitSolver) (profile : Profile) {commands : List Command}
    (hfixed : ∀ vocabulary, .setVocabulary vocabulary ∉ commands) :
    (execAll (.start solver profile) commands).Shows ∧
      (∀ stop, (execAll (.start solver profile) commands).current = .ok stop →
        (execAll (.start solver profile) commands).display =
          (execAll (.start solver profile) commands).displayNode stop.id) ∧
      ((execAll (.start solver profile) commands).exploration.replaying = false →
        ∀ id, (execAll (.start solver profile) commands).exploration.store.Has id →
          (execAll (.start solver profile) commands).GoesTo (.moveTo id) id ∧
          (id ≤ Text.maxWord →
            (execAll (.start solver profile) commands).GoesTo (.activate ("S" ++ toString id)) id)) := by
  have h := truthful_of_execAll solver profile hfixed
  refine ⟨fun stop hstop => (h.shows stop hstop).exists_node, fun stop hstop => ?_,
    fun hexploring id hhas => goesTo_moveTo h hexploring hhas⟩
  have hmem : stop ∈ (execAll (.start solver profile) commands).exploration.walk.stops := by
    unfold current at hstop
    split at hstop
    · rename_i found hfound
      obtain rfl := Except.ok.inj hstop
      exact List.mem_of_getElem? hfound
    · cases hstop
  obtain ⟨node, hnode, hstate⟩ := (h.shows stop hmem).exists_node
  rw [display, hstop, displayNode, Store.node_eq_ok hnode]
  simp only [Except.map, hstate]

/-- Commands that step on, go back to a state that is found anew, and reset. -/
def backAndForth : List Command :=
  [.loadModel emptyModel, .step 2 [], .reverseStep 1, .reset]

/-- A session that went back and forth among the lights. -/
def wandered : Session ExplicitSolver :=
  execAll (.start trafficSolver ⟨.default, .plain⟩) backAndForth

/-- Every light that the traffic light showed is shown as it is stored and can be gone to again. -/
theorem execAll_shows_traffic :
    (∀ vocabulary, .setVocabulary vocabulary ∉ backAndForth) ∧ wandered.Shows ∧
      wandered.exploration.replaying = false ∧ wandered.exploration.store.Has 3 ∧
      wandered.GoesTo (.moveTo 3) 3 ∧ wandered.GoesTo (.activate "S3") 3 := by
  have hfixed : ∀ vocabulary, .setVocabulary vocabulary ∉ backAndForth := by
    simp [backAndForth]
  have hstored : wandered.exploration.replaying = false ∧ 3 ≤ wandered.exploration.store.size := by
    decide +kernel
  have hhas : wandered.exploration.store.Has 3 := ⟨by decide, hstored.2⟩
  have hall := execAll_shows trafficSolver ⟨.default, .plain⟩ hfixed
  rw [← wandered] at hall
  obtain ⟨hshows, -, hgoes⟩ := hall
  obtain ⟨hmove, hactivate⟩ := hgoes hstored.1 3 hhas
  exact ⟨hfixed, hshows, hstored.1, hhas, hmove, hactivate (by decide)⟩

end Session

end StateExplorer
