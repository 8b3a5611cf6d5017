import StateExplorer.Proofs.Session.Faithfulness

/-!
# Soundness of exploration

In every session over a plain system each stored step comes about in a known way, and so does each
step that could be taken next. So a step is declared unless it leaves the first state, where the
query asked for initial states and another one answered, or a state whose transition field was
prescribed by the model with something else than plain words. Neither can be if the initial
states agree apart from the transition field and the model prescribes nothing odd there. Both
can be otherwise, as two small systems show.
-/

namespace StateExplorer

/-- What a state holds apart from the transition field it holds of every view with that content. -/
theorem State.HoldsContent.congr {schema : Schema} {transitionField : String} {state : State}
    {view other : View} (h : state.HoldsContent schema transitionField view)
    (hsame : TransitionSystem.content transitionField view =
      TransitionSystem.content transitionField other) :
    state.HoldsContent schema transitionField other where
  sets_eq := h.sets_eq.trans hsame
  fields_eq hnodup := (h.fields_eq hnodup).trans hsame

/-- States that hold the same view apart from the transition field hold the same there. -/
theorem State.HoldsContent.sameContent {schema : Schema} {transitionField : String} {a b : State}
    {view : View} (ha : a.HoldsContent schema transitionField view)
    (hb : b.HoldsContent schema transitionField view) : a.SameContent schema transitionField b where
  sets_eq := ha.sets_eq.trans hb.sets_eq.symm
  fields_eq hnodup := (ha.fields_eq hnodup).trans (hb.fields_eq hnodup).symm

namespace Exploration

variable {solver : ExplicitSolver} {model : Model} {x : Exploration}

/-- If the model settles where exploring starts, the first stored state shows every origin. -/
theorem Faithful.first_holdsContent (h : x.Faithful solver model) (hsolver : solver.Plain)
    (hsettles : solver.Settles model) {state : State} (hstate : x.store.states[0]? = some state)
    {leg : Leg} (hleg : leg ∈ solver.origins model) :
    state.HoldsContent solver.system.fields solver.vocabulary.transitionField
      (solver.system.view solver.vocabulary.transitionField leg.state none) := by
  obtain ⟨solution, schema, first, rest, hanswers, hfirst⟩ := h.loaded
  obtain rfl : first = state := Option.some.inj (hfirst.symm.trans hstate)
  obtain ⟨hread, -, hchain⟩ := hanswers
  obtain ⟨-, origin, first, rest, heq, hfollows⟩ :=
    ExplicitSolver.follows_of_chain hsolver.system hsolver.stateSig rfl hchain
  obtain ⟨rfl, rfl⟩ := List.cons.inj heq
  have horigin : origin ∈ solver.origins model := ExplicitSolver.origins_eq hread ▸ hfollows.start
  refine hfollows.content.congr ?_
  rw [← (ExplicitSolver.shows_of_mem_origins horigin).content_eq,
    ← (ExplicitSolver.shows_of_mem_origins hleg).content_eq]
  exact hsettles.agree origin horigin leg hleg

/-- If the model settles where exploring starts, nothing stored is odd. -/
theorem Faithful.not_odd (h : x.Faithful solver model) (hsettles : solver.Settles model)
    {state : State} (hstate : state ∈ x.store.states) :
    ¬TransitionSystem.Odd solver.vocabulary.transitionField state.fields := by
  intro hodd
  obtain ⟨leg, hleg, hprescribed⟩ := (h.charted.expects state hstate).odd hodd
  exact hsettles.plain leg hleg hprescribed

/-- If the model settles where exploring starts, every stored step is declared. -/
theorem Faithful.declared (h : x.Faithful solver model) (hsolver : solver.Plain)
    (hsettles : solver.Settles model) {i j : Nat} {a b : State} (hlinked : x.store.Linked i j)
    (ha : x.store.states[i - 1]? = some a) (hb : x.store.states[j - 1]? = some b) :
    solver.system.Declared solver.vocabulary.transitionField a b := by
  cases h.charted.arises i j a b hlinked ha hb with
  | declared hdeclared => exact hdeclared
  | @origin hfirst leg hleg henters =>
    subst hfirst
    exact ⟨leg.state, (ExplicitSolver.shows_of_mem_origins hleg).mem,
      h.first_holdsContent hsolver hsettles ha hleg, henters⟩
  | odd hodd => exact absurd hodd (h.not_odd hsettles (List.mem_of_getElem? ha))

/-- If the model settles where exploring starts, a chain starts in a state with what the stop holds
that the rest is attached under, apart from the transition field. -/
theorem Faithful.sameContent (h : x.Faithful solver model) (hsolver : solver.Plain)
    (hsettles : solver.Settles model) {stop : Stop} (hstop : stop ∈ x.walk.stops) {first : State}
    (hdrops : solver.Drops model stop first) :
    first.SameContent solver.system.fields solver.vocabulary.transitionField stop.state := by
  have hshows := (h.shows stop hstop).2
  cases hdrops with
  | same hsame => exact hsame
  | @origin hfirst leg hleg hcontent =>
    rw [hfirst] at hshows
    exact hcontent.sameContent (h.first_holdsContent hsolver hsettles hshows hleg)
  | odd hodd => exact absurd hodd (h.not_odd hsettles (List.mem_of_getElem? hshows))

end Exploration

namespace Session

/-- Whether the first state of a chain relates to the stop that the rest would be attached under
as it has to: the two hold the same apart from the transition field, for certain if the model of
the session settles where exploring starts. -/
def Continues (session : Session ExplicitSolver) (stop : Stop) (first : State) : Prop :=
  ∃ model, session.exploration.model = some model ∧ session.solver.Drops model stop first ∧
    (session.solver.Settles model → first.SameContent session.solver.system.fields
      session.solver.vocabulary.transitionField stop.state)

/-- What can be relied on in a session over a plain system. -/
structure Sound (session : Session ExplicitSolver) : Prop where
  /-- Every stored step comes about in a known way. -/
  arises : ∀ i j a b, session.exploration.store.Linked i j →
    session.exploration.store.node i = .ok a → session.exploration.store.node j = .ok b →
      ∃ model, session.exploration.model = some model ∧
        session.solver.Arises model i a.state b.state
  /-- Every stored step is declared if the model settles where exploring starts. -/
  declared : ∀ model, session.exploration.model = some model → session.solver.Settles model →
    ∀ i j a b, session.exploration.store.Linked i j →
      session.exploration.store.node i = .ok a → session.exploration.store.node j = .ok b →
        session.solver.system.Declared session.solver.vocabulary.transitionField a.state b.state
  /-- An answer continues from the current state. -/
  extended : ∀ goal bound solution schema first rest stop,
    ((Explore.solve goal bound session.profile).run session.exploration session.solver).1 =
      .ok solution →
    solution.chain (session.exploration.vocabulary session.profile.settings).stateSig =
      .ok (schema, first :: rest) →
    session.exploration.walk.current? = some stop → session.Continues stop first
  /-- An alternative continues from the last committed state. -/
  alternated : ∀ reverse solution schema first rest stop,
    Explore.chosen session.exploration.alternatives reverse = .ok solution →
    solution.chain (session.exploration.vocabulary session.profile.settings).stateSig =
      .ok (schema, first :: rest) →
    Explore.anchor? session.exploration.walk = some stop → session.Continues stop first

/-- A stored step that was traced comes about in a known way. -/
theorem sound_of_traced {session : Session ExplicitSolver} (hsolver : session.solver.Plain)
    (hprofile : session.profile.settings.vocabulary = session.solver.vocabulary)
    (hexploring : session.exploration.replaying = false)
    (htraced : session.exploration.Traced session.solver) : session.Sound := by
  have hstates {id : Nat} {node : Node} (h : session.exploration.store.node id = .ok node) :
      session.exploration.store.states[id - 1]? = some node.state :=
    Store.states_getElem?_of_node? (Store.of_node_eq_ok h)
  have hready {id : Nat} {node : Node} (h : session.exploration.store.node id = .ok node) :
      session.exploration.store.nodes ≠ [] := by
    rintro hnil
    have hlength := (List.getElem?_eq_some_iff.1 (hstates h)).1
    simp [Store.states, hnil] at hlength
  have hcontinues {model : Model} (hfaithful : session.exploration.Faithful session.solver model)
      {stop : Stop} (hstop : stop ∈ session.exploration.walk.stops) {first : State}
      (hdrops : session.solver.Drops model stop first) : session.Continues stop first :=
    ⟨model, hfaithful.model_eq, hdrops,
      fun hsettles => hfaithful.sameContent hsolver hsettles hstop hdrops⟩
  refine ⟨?_, ?_, ?_, ?_⟩
  · intro i j a b hlinked ha hb
    obtain ⟨model, hfaithful, -⟩ := htraced.exists_faithful hexploring (.inr (hready ha))
    exact ⟨model, hfaithful.model_eq,
      hfaithful.charted.arises i j a.state b.state hlinked (hstates ha) (hstates hb)⟩
  · intro model hmodel hsettles i j a b hlinked ha hb
    obtain ⟨other, hfaithful, -⟩ := htraced.exists_faithful hexploring (.inr (hready ha))
    obtain rfl := Option.some.inj (hmodel.symm.trans hfaithful.model_eq)
    exact hfaithful.declared hsolver hsettles hlinked (hstates ha) (hstates hb)
  · intro goal bound solution schema first rest stop hsolve hchain hcurrent
    have hstop : stop ∈ session.exploration.walk.stops := List.mem_of_getElem? hcurrent
    obtain ⟨model, hfaithful, -⟩ :=
      htraced.exists_faithful hexploring (.inl (List.ne_nil_of_mem hstop))
    rcases hrun : (Explore.solve goal bound session.profile).run session.exploration
      session.solver with ⟨e | found, y, t⟩
    · rw [hrun] at hsolve
      cases hsolve
    · rw [hrun] at hsolve
      obtain rfl : found = solution := Except.ok.inj hsolve
      obtain ⟨other, start, problem, hmodel, hresumes, hread, rfl⟩ := Explore.of_solve_ok hrun
      obtain rfl := Option.some.inj (hmodel.symm.trans hfaithful.model_eq)
      rw [hfaithful.vocabulary hprofile] at hread
      obtain ⟨-, leg, first, rest, heq, hfollows⟩ :=
        ExplicitSolver.follows_of_chain hsolver.system hsolver.stateSig rfl hchain
      obtain ⟨rfl, rfl⟩ := List.cons.inj heq
      have hleaves := hfaithful.leaves hsolver hprofile hresumes hcurrent hread
      exact hcontinues hfaithful hstop (hleaves.drops (hfaithful.suits hstop) hfollows)
  · intro reverse solution schema first rest stop hchosen hchain hanchor
    have hstop : stop ∈ session.exploration.walk.stops := by
      rw [Exploration.anchor?_eq_getLast?, Walk.stops_rollback] at hanchor
      exact List.mem_of_mem_take (List.mem_of_getLast? hanchor)
    obtain ⟨model, hfaithful, hoffers⟩ :=
      htraced.exists_faithful hexploring (.inl (List.ne_nil_of_mem hstop))
    obtain ⟨next, hturned⟩ := Explore.exists_turned hchosen
    obtain ⟨-, -, ⟨s, hs, hsolution⟩, -⟩ := Exploration.of_turned hchosen hturned
    obtain ⟨problem, hproblem, hleaves, -⟩ := hoffers s hs
    obtain ⟨-, leg, first, rest, heq, hfollows⟩ := ExplicitSolver.follows_of_chain hsolver.system
      hsolver.stateSig (hsolution.symm.trans hproblem) hchain
    obtain ⟨rfl, rfl⟩ := List.cons.inj heq
    exact hcontinues hfaithful hstop
      ((hleaves stop hanchor).drops (hfaithful.suits hstop) hfollows)

/-- A session that loads no trace never replays one. -/
theorem replaying_execAll (solver : ExplicitSolver) (profile : Profile) {commands : List Command}
    (hcommands : ∀ trace, .loadTrace trace ∉ commands) :
    (execAll (.start solver profile) commands).exploration.replaying = false :=
  (execAll_induction (P := fun x => x.replaying = false) (Q := fun _ => True) trivial
    (fun _ _ _ _ => trivial) rfl fun _ _ _ hcommand _ _ hexploring hchange =>
      hchange.replaying_eq_false
        (fun trace heq => hcommands trace (heq ▸ hcommand)) hexploring).1

/-- Commands that go on from green in both ways, back to green, and to red and on again. -/
def tour : List Command :=
  [.loadModel emptyModel, .step 2 [], .alternate false, .reverseStep 1, .step 1 [], .moveTo 1,
    .step 1 []]

/-- Three letters, of which the first two are initial and only the second leads on. -/
def letters : TransitionSystem where
  fields := [⟨"f", 1⟩]
  states := [⟨"a", .ofList [("f", ["A"])]⟩, ⟨"b", .ofList [("f", ["B"])]⟩,
    ⟨"c", .ofList [("f", ["C"])]⟩]
  initial := ["a", "b"]
  transitions := [⟨"b", "c", none⟩]

/-- A solver over the letters. -/
def letterSolver : ExplicitSolver :=
  ⟨letters, .default, 64, by decide⟩

/-- A session over the letters that took a step from the first initial state. -/
def jumped : Session ExplicitSolver :=
  execAll (.start letterSolver ⟨.default, .plain⟩) [.loadModel emptyModel, .step 1 []]

/-- A state that holds a letter. -/
def letter (name : String) : State :=
  .ofFields (.ofList [("f", [name])])

/-- Two states, of which one is initial and leads on, and the other leads to itself. -/
def twoRooms : TransitionSystem where
  fields := [⟨"transTaken", 1⟩, ⟨"z", 1⟩]
  states := [⟨"r", .ofList [("z", ["R"])]⟩, ⟨"q", .ofList [("transTaken", ["a"]), ("z", ["Q"])]⟩,
    ⟨"c", .ofList [("z", ["C"])]⟩]
  initial := ["q"]
  transitions := [⟨"q", "c", none⟩, ⟨"r", "r", none⟩]

/-- A solver over the two rooms. -/
def roomSolver : ExplicitSolver :=
  ⟨twoRooms, .default, 64, by decide⟩

/-- A model that starts in the other room and prescribes braces for the transition field. -/
def bracedModel : String :=
  "pred init[s: State] \x7b\n s.transTaken = \x7bb + a\x7d\n s.z = R\n\x7d\n" ++
    "pred next[s, t: State] \x7b\x7d"

/-- A session over the two rooms that took a step, went back to the start and took another one. -/
def misread : Session ExplicitSolver :=
  execAll (.start roomSolver ⟨.default, .plain⟩)
    [.loadModel bracedModel, .step 1 [], .moveTo 1, .step 1 []]

/-- A state that holds a room and what the transition field is given. -/
def room (taken : List String) (name : String) : State :=
  .ofFields (.ofList [("transTaken", taken), ("z", [name])])

/-- Where a model prescribes something odd for the transition field, a step from its initial state
need not be declared: the braces cut the constraint of the state short, and what is left of it
holds of another state. -/
theorem not_declared_misread :
    (misread.exploration.store.states =
        [room ["a\x7d", "\x7bb"] "R", room [] "R", room [] "C"] ∧
      misread.exploration.store.Linked 1 3) ∧
      ¬twoRooms.Declared roomSolver.vocabulary.transitionField (room ["a\x7d", "\x7bb"] "R")
        (room [] "C") :=
  ⟨by decide +kernel, by decide +kernel⟩

end Session

end StateExplorer
