import StateExplorer.Proofs.Session.Browsing

/-!
# A bounded cursor in every session

In every session over a transition system in which no vocabulary is set, what is on show can be
browsed: a model is loaded and the initial state asked for again with chains of one state, an
extension is attached after committed stops, and going back ends where alternatives were browsed. So
browsing moves a cursor over the instances of one document, and a step back shows again what was
there before. The state signature must hold no command and no arrow, since then the initial
query asks for more than one state, or the tuples of an answer are not read back.
-/

namespace StateExplorer

namespace Exploration

variable {solver : ExplicitSolver} {profile : Profile} {x y : Exploration} {sig : String}
  {document : Document}

/-! ### What can be browsed after a change -/

/-- What is browsed is told by the alternatives, the states of the walk and the length of its tail. -/
theorem Browsable.congr (h : x.Browsable solver sig document)
    (halternatives : y.alternatives = x.alternatives)
    (hprovisional : y.walk.provisional = x.walk.provisional)
    (hstates : y.walk.stops.map (·.state) = x.walk.stops.map (·.state)) :
    y.Browsable solver sig document := by
  have hlength : y.walk.stops.length = x.walk.stops.length := by
    simpa using congrArg List.length hstates
  have htail : y.walk.tail.map (·.state) = x.walk.tail.map (·.state) := by
    rw [Walk.tail, Walk.tail, List.map_drop, List.map_drop, hstates, hlength, hprovisional]
  have hkept : y.walk.rollback.stops.map (·.state) = x.walk.rollback.stops.map (·.state) := by
    rw [Walk.stops_rollback, Walk.stops_rollback, List.map_take, List.map_take, hstates, hlength,
      hprovisional]
  have hnil : y.walk.rollback.stops = [] ↔ x.walk.rollback.stops = [] := by
    rw [← List.map_eq_nil_iff, hkept, List.map_eq_nil_iff]
  refine ⟨⟨halternatives ▸ h.alternatives_eq, ?_⟩, ?_⟩
  · rw [halternatives, htail]
    exact h.tail_eq
  · rw [hnil]
    exact h.answers

/-- The first solution to a query can be browsed on from, where its chain is shown after committed
stops unless it has one state only. -/
theorem Answers.browsable {vocabulary : Vocabulary} {query : Query} {solution : Solution}
    {schema : Schema} {chain : List State}
    (h : Answers solver vocabulary query solution schema chain)
    (halternatives : y.alternatives = .only solution)
    (htail : y.walk.tail.map (·.state) = shownOf chain)
    (hcommitted : chain.length = 1 ↔ y.walk.rollback.stops = []) :
    0 < y.alternatives.depth ∧ ∃ document, y.Browsable solver vocabulary.stateSig document := by
  obtain ⟨hread, -, hchain⟩ := h
  rename_i problem
  have hdepth : y.alternatives.depth = 1 := by
    rw [halternatives]
    rfl
  have hlength := Solution.length_of_chain (solver.uniform_answer problem) hchain
  refine ⟨by omega, solver.answer problem, ⟨⟨?_, schema, chain, ?_, htail⟩, problem, rfl,
    Problem.bound_lt_of_read hread, ?_⟩⟩
  · rw [hdepth, halternatives]
    rfl
  · rw [hdepth]
    exact hchain
  · rw [← hcommitted]
    omega

/-- An initial query is answered with chains of one state, unless the state signature holds a
command. -/
theorem Answers.length_eq_one (hvocabulary : solver.vocabulary.endsCommand = true)
    {vocabulary : Vocabulary} {base init : String} {solution : Solution} {schema : Schema}
    {chain : List State}
    (h : Answers solver vocabulary ⟨base, init, .initial, 0⟩ solution schema chain) :
    chain.length = 1 := by
  obtain ⟨hread, -, hchain⟩ := h
  rename_i problem
  have hsig : solver.vocabulary.stateSig = vocabulary.stateSig := (Solution.of_chain_eq_ok hchain).1
  have hends : vocabulary.endsCommand = true := by
    unfold Vocabulary.endsCommand at hvocabulary ⊢
    rw [← hsig]
    exact hvocabulary
  have hpos : 0 < Text.maxWord := by decide
  have hbound : problem.bound = 0 := Problem.bound_of_read_free hends
    (rfl : Query.goalCommand vocabulary .initial = "") hpos hread
  rw [Solution.length_of_chain (solver.uniform_answer problem) hchain, hbound]

/-- After a model was loaded the first of its initial states is stored and shown, all of it
provisional. -/
theorem ModelLoaded.exists_initial (hvocabulary : solver.vocabulary.endsCommand = true)
    {text : String} (h : x.ModelLoaded solver profile text y) :
    ∃ own model solution schema only, Vocabulary.embedded text = .ok own ∧
      Model.parse text (own.getD profile.settings.vocabulary) = .ok model ∧ y.model = some model ∧
      Answers solver (y.vocabulary profile.settings) ⟨model.base, model.init, .initial, 0⟩ solution
        schema [only] ∧
      y.alternatives = .only solution ∧ y.store.states = [only] ∧ y.walk.rollback.stops = [] ∧
      y.walk.tail.map (·.state) = [only] := by
  obtain ⟨hown, hmodel, hanswers, hchain, hstops⟩ := h
  rename_i own model solution schema chain scopes shown
  obtain ⟨only, rfl⟩ := List.length_eq_one_iff.1 (hanswers.length_eq_one hvocabulary)
  obtain ⟨hids, hshows⟩ := Store.of_stops_eq_ok hstops
  have hne : shown ≠ [] := by
    rintro rfl
    cases hids
  obtain ⟨hkept, htail⟩ := Walk.empty.rollback_extend hne
  have halike := Store.alike_recordTo [1]
    ((Store.empty (some (own.getD profile.settings.vocabulary).transitionField)).grow none [only]) [1]
  have hstored : (Store.rooted (own.getD profile.settings.vocabulary).transitionField [only]).states =
      [only] := halike.states.trans (Store.states_grow _ _ _)
  refine ⟨own, model, solution, schema, only, hown, hmodel, rfl, hanswers, rfl, hstored, hkept, ?_⟩
  exact (congrArg (List.map (·.state)) htail).trans
    (Store.map_state_of_shows [] hstored hids hshows)

/-- After a model was loaded its initial states can be browsed. -/
theorem ModelLoaded.browsable (hvocabulary : solver.vocabulary.endsCommand = true) {text : String}
    (h : x.ModelLoaded solver profile text y) : 0 < y.alternatives.depth ∧
      ∃ document, y.Browsable solver (y.vocabulary profile.settings).stateSig document := by
  obtain ⟨_, _, _, _, only, -, -, -, hanswers, honly, -, hkept, htail⟩ :=
    h.exists_initial hvocabulary
  exact hanswers.browsable honly htail (iff_of_true rfl hkept)

/-- After an extension other continuations can be browsed. -/
theorem Extended.browsable {goal : Goal} {bound : Nat}
    (h : x.Extended solver profile goal bound y) : 0 < y.alternatives.depth ∧
      ∃ document, y.Browsable solver (y.vocabulary profile.settings).stateSig document := by
  have hready := h.ready
  obtain ⟨-, -, hanswers, -, hattaches⟩ := h
  obtain ⟨hkept, -, hstates, halternatives, hown⟩ := hattaches.tail_eq
  rw [vocabulary, hown]
  refine hanswers.browsable halternatives hstates (iff_of_false (by simp) ?_)
  rw [hkept, Walk.stops_rollback_commit]
  exact hready

/-- After the initial state was asked for again, the initial states can be browsed. -/
theorem Restarted.browsable (hvocabulary : solver.vocabulary.endsCommand = true)
    (h : x.Restarted solver profile y) : 0 < y.alternatives.depth ∧
      ∃ document, y.Browsable solver (y.vocabulary profile.settings).stateSig document := by
  obtain ⟨-, -, hanswers⟩ := h
  rename_i first rest
  have hone := hanswers.length_eq_one hvocabulary
  obtain rfl : rest = [] := by simpa using hone
  exact hanswers.browsable rfl rfl (iff_of_true hone rfl)

/-- Browsing goes on after any number of alternatives. -/
theorem Browsable.browsed (h : x.Browsable solver (x.vocabulary profile.settings).stateSig document)
    (hdepth : 0 < x.alternatives.depth)
    (hbrowsed : Relation.ReflTransGen (Alternated profile false) x y) :
    y.Browsable solver (y.vocabulary profile.settings).stateSig document := by
  have hboth : y.Browsable solver (y.vocabulary profile.settings).stateSig document ∧
      0 < y.alternatives.depth := by
    induction hbrowsed with
    | refl => exact ⟨h, hdepth⟩
    | tail _ halternated ih =>
      obtain ⟨hbrowsable, -, hturns, -⟩ := ih.1.alternated ih.2 halternated
      refine ⟨hbrowsable, ?_⟩
      rw [hturns.depth]
      exact Nat.succ_pos _
  exact hboth.1

/-- After going back, the states that were found anew can be browsed. -/
theorem Retraced.browsable (hvocabulary : solver.vocabulary.endsCommand = true) {steps : Nat}
    (h : x.Retraced solver profile steps y) (hexploring : y.replaying = false) :
    ∃ document, y.Browsable solver (y.vocabulary profile.settings).stateSig document := by
  rw [h.replaying_eq] at hexploring
  cases h with
  | @intro y z target _ hfound hbrowsed =>
    obtain ⟨hdepth, document, hy⟩ : 0 < y.alternatives.depth ∧
        ∃ document, y.Browsable solver (y.vocabulary profile.settings).stateSig document := by
      cases hfound with
      | replayed hreplayed =>
        obtain ⟨hreplaying⟩ := hreplayed
        exact Bool.noConfusion (hexploring.symm.trans hreplaying)
      | restarted _ _ hrestarted => exact hrestarted.browsable hvocabulary
      | extended _ _ hextended => exact hextended.browsable
    refine ⟨document, (hy.browsed hdepth hbrowsed).congr rfl rfl ?_⟩
    refine List.ext_getElem? fun k => ?_
    simp only [recorded, Walk.renumber, List.getElem?_map, List.getElem?_modify]
    cases z.walk.stops[k]? with
    | none => simp
    | some stop => by_cases hk : z.walk.cursor = k <;> simp [hk]

/-- What is known of an exploration outside of replays: what is on show can be browsed. -/
structure Cursored (solver : ExplicitSolver) (profile : Profile) (x : Exploration) : Prop where
  structured : x.Structured
  browsable : x.replaying = false → 0 < x.alternatives.depth →
    ∃ document, x.Browsable solver (x.vocabulary profile.settings).stateSig document

/-- Every change keeps that what is on show can be browsed. -/
theorem Cursored.change (h : x.Cursored solver profile)
    (hvocabulary : solver.vocabulary.endsCommand = true) {command : Command}
    (hchange : x.Change solver profile command y) : y.Cursored solver profile := by
  refine ⟨h.structured.change hvocabulary hchange, fun hexploring hdepth => ?_⟩
  cases hchange with
  | model hloaded => exact (hloaded.browsable hvocabulary).2
  | trace hloaded =>
    obtain ⟨-, -, -⟩ := hloaded
    cases hexploring
  | replay hreplayed =>
    obtain ⟨hreplaying⟩ := hreplayed
    exact Bool.noConfusion (hreplaying.symm.trans hexploring)
  | extend _ hextended => exact hextended.browsable.2
  | alternate halternated =>
    have hold : 0 < x.alternatives.depth := by
      cases halternated with
      | root _ hchosen hturned _ _ => exact Nat.pos_of_ne_zero (of_turned hchosen hturned).1
      | tail _ hchosen hturned _ _ _ => exact Nat.pos_of_ne_zero (of_turned hchosen hturned).1
    obtain ⟨document, hbrowsable⟩ :=
      h.browsable (halternated.replaying_eq.2.symm.trans hexploring) hold
    exact ⟨document, (hbrowsable.alternated hold halternated).1⟩
  | restart _ hrestarted => exact (hrestarted.browsable hvocabulary).2
  | move _ hmoved =>
    obtain ⟨-, -, -⟩ := hmoved
    exact absurd hdepth (Nat.lt_irrefl 0)
  | retrace hretraced => exact hretraced.browsable hvocabulary hexploring
  | breakpoints list =>
    obtain ⟨document, hbrowsable⟩ := h.browsable hexploring hdepth
    exact ⟨document, hbrowsable.congr rfl rfl rfl⟩

end Exploration

/-! ### Every run -/

namespace Session

open Exploration

variable {solver : ExplicitSolver} {session : Session ExplicitSolver} {document : Document}
  {reverse : Bool}

/-- Whether the alternatives of a session are a cursor over the instances of a document. -/
structure Cursor (session : Session ExplicitSolver) (document : Document) : Prop where
  /-- The first instances are on show, and the tail of the walk is what the last of them tells. -/
  presents : session.exploration.Presents
    (session.exploration.vocabulary session.profile.settings).stateSig document
  /-- Where one can move to, an alternative is shown and everything committed is kept. -/
  moves : ∀ reverse,
    canTurn document.instances.length session.exploration.alternatives.depth reverse = true →
      (session.exec (.alternate reverse)).1 = .ok .done ∧
        session.exploration.TurnsTo reverse (session.exec (.alternate reverse)).2.exploration
  /-- Where one cannot move to, nothing changes. -/
  stays : ∀ reverse,
    canTurn document.instances.length session.exploration.alternatives.depth reverse = false →
      (∃ e, (session.exec (.alternate reverse)).1 = .error e) ∧
        (session.exec (.alternate reverse)).2 = session
  /-- Moving on and back shows the same states again. -/
  restores : session.exploration.alternatives.depth < document.instances.length →
    let back := execAll session [.alternate false, .alternate true]
    back.exploration.walk.stops.map (·.state) = session.exploration.walk.stops.map (·.state) ∧
      back.exploration.walk.stops.length = session.exploration.walk.stops.length ∧
      back.exploration.alternatives.depth = session.exploration.alternatives.depth

/-- Whether a session can go on browsing. -/
structure Browsing (solver : ExplicitSolver) (document : Document)
    (session : Session ExplicitSolver) : Prop where
  solver_eq : session.solver = solver
  structured : session.exploration.Structured
  exploring : session.exploration.replaying = false
  depth_pos : 0 < session.exploration.alternatives.depth
  browsable : session.exploration.Browsable solver
    (session.exploration.vocabulary session.profile.settings).stateSig document

/-- Where one can move to, browsing goes on there. -/
theorem Browsing.moves (h : Browsing solver document session)
    (hsig : ¬Tuple.arrow <:+: solver.vocabulary.stateSig.toList)
    (hcan : canTurn document.instances.length session.exploration.alternatives.depth reverse =
      true) :
    (session.exec (.alternate reverse)).1 = .ok .done ∧
      session.exploration.TurnsTo reverse (session.exec (.alternate reverse)).2.exploration ∧
      Browsing solver document (session.exec (.alternate reverse)).2 := by
  have hready : session.exploration.walk.stops ≠ [] := by
    have hdepth := h.depth_pos
    have htail := mt (h.structured.alternatives h.exploring).2 (by omega)
    have hle := h.structured.provisional_le
    rintro hnil
    rw [hnil] at hle
    exact htail (Nat.le_zero.1 hle)
  obtain ⟨y, hrun⟩ := h.browsable.run_alternate h.structured hsig h.depth_pos hready hcan
    session.solver
  have hexec : session.exec (.alternate reverse) = (.ok .done, { session with exploration := y }) := by
    simp [exec, perform, run, Op.run_map, hrun]
  have halternated := Explore.of_alternate_ok hrun
  obtain ⟨hbrowsable, -, hturns, -⟩ := h.browsable.alternated h.depth_pos halternated
  rw [hexec]
  refine ⟨rfl, hturns, h.solver_eq, h.structured.alternated halternated,
    halternated.replaying_eq.2.trans h.exploring, ?_, hbrowsable⟩
  rw [hturns.depth]
  cases reverse with
  | false => exact Nat.succ_pos _
  | true =>
    simp only [canTurn, if_true, decide_eq_true_eq] at hcan
    simp only [turn, if_true]
    omega

/-- Where one cannot move to, the session stays as it is. -/
theorem Browsing.stays (h : Browsing solver document session)
    (hcan : canTurn document.instances.length session.exploration.alternatives.depth reverse =
      false) :
    (∃ e, (session.exec (.alternate reverse)).1 = .error e) ∧
      (session.exec (.alternate reverse)).2 = session := by
  obtain ⟨e, hrun⟩ := h.browsable.toPresents.run_alternate session.profile h.depth_pos
    (Bool.eq_false_iff.1 hcan) session.solver
  have hexec : session.exec (.alternate reverse) = (.error e, session) := by
    simp [exec, perform, run, Op.run_map, hrun]
  rw [hexec]
  exact ⟨⟨e, rfl⟩, rfl⟩

/-- What can go on browsing is a cursor. -/
theorem Browsing.cursor (h : Browsing solver document session)
    (hsig : ¬Tuple.arrow <:+: solver.vocabulary.stateSig.toList) : session.Cursor document where
  presents := h.browsable.toPresents
  moves reverse hcan := by
    obtain ⟨hdone, hturns, -⟩ := h.moves hsig hcan
    exact ⟨hdone, hturns⟩
  stays reverse hcan := h.stays hcan
  restores hmore := by
    have hcan : canTurn document.instances.length session.exploration.alternatives.depth false =
        true := by
      simpa [canTurn] using hmore
    obtain ⟨-, hforward, hnext⟩ := h.moves hsig hcan
    have hdepth : 2 ≤ (session.exec (.alternate false)).2.exploration.alternatives.depth := by
      have hpos := h.depth_pos
      rw [hforward.depth]
      simp only [turn, Bool.false_eq_true, if_false]
      omega
    have hreturn : canTurn document.instances.length
        (session.exec (.alternate false)).2.exploration.alternatives.depth true = true := by
      simpa [canTurn] using hdepth
    obtain ⟨-, hbackward, hback⟩ := hnext.moves hsig hreturn
    have hsame : (execAll session [.alternate false, .alternate true]).exploration.alternatives.depth =
        session.exploration.alternatives.depth := by
      change (Session.exec _ _).2.exploration.alternatives.depth = _
      rw [hbackward.depth, hforward.depth]
      rfl
    refine ⟨?_, hbackward.length.trans hforward.length, hsame⟩
    change (Session.exec _ _).2.exploration.walk.stops.map (·.state) = _
    rw [← Walk.rollback_append_tail, ← session.exploration.walk.rollback_append_tail,
      List.map_append, List.map_append, hbackward.committed, hforward.committed]
    exact congrArg _ (hback.browsable.toPresents.tail_unique h.browsable.toPresents hsame)

/-- However one moves among the alternatives, browsing goes on: the instances on show are counted, and
the committed stops and the length of the walk are kept. -/
theorem Browsing.execAll (hsig : ¬Tuple.arrow <:+: solver.vocabulary.stateSig.toList)
    (reverses : List Bool) {session : Session ExplicitSolver}
    (h : Browsing solver document session) :
    let reached := Session.execAll session (reverses.map .alternate)
    Browsing solver document reached ∧
      reached.exploration.alternatives.depth =
        turns document.instances.length session.exploration.alternatives.depth reverses ∧
      reached.exploration.walk.rollback.stops = session.exploration.walk.rollback.stops ∧
      reached.exploration.walk.stops.length = session.exploration.walk.stops.length := by
  induction reverses generalizing session with
  | nil => exact ⟨h, rfl, rfl, rfl⟩
  | cons reverse reverses ih =>
    rw [turns, List.foldl_cons]
    cases hcan : canTurn document.instances.length session.exploration.alternatives.depth reverse with
    | true =>
      obtain ⟨-, hturns, hnext⟩ := h.moves hsig hcan
      obtain ⟨hreached, hdepth, hcommitted, hlength⟩ := ih hnext
      refine ⟨hreached, hdepth.trans ?_, hcommitted.trans hturns.committed,
        hlength.trans hturns.length⟩
      rw [hturns.depth]
      rfl
    | false =>
      have hsame : (session.exec (.alternate reverse)).2 = session := (h.stays hcan).2
      rw [List.map_cons, Session.execAll, List.foldl_cons, hsame]
      exact ih h

/-- In every session over a transition system in which no vocabulary is set, the alternatives are a
cursor over the instances of one document as long as there are any, however one moves among them, as
long as the state signature of the solver holds no command and no arrow. -/
theorem execAll_cursor (solver : ExplicitSolver)
    (hvocabulary : solver.vocabulary.endsCommand = true)
    (hsig : ¬Tuple.arrow <:+: solver.vocabulary.stateSig.toList) (profile : Profile)
    (commands : List Command) (hfixed : ∀ vocabulary, .setVocabulary vocabulary ∉ commands) :
    let session := execAll (.start solver profile) commands
    session.exploration.replaying = false → 0 < session.exploration.alternatives.depth →
      ∃ document, ∀ reverses : List Bool,
        let reached := execAll session (reverses.map .alternate)
        reached.Cursor document ∧
          reached.exploration.alternatives.depth =
            turns document.instances.length session.exploration.alternatives.depth reverses ∧
          reached.exploration.walk.rollback.stops = session.exploration.walk.rollback.stops ∧
          reached.exploration.walk.stops.length = session.exploration.walk.stops.length := by
  intro session hexploring hdepth
  obtain ⟨hcursored, hprofile, hsolver⟩ := execAll_induction (P := Cursored solver profile)
    (Q := (· = profile)) rfl
    (fun vocabulary (hmem : .setVocabulary vocabulary ∈ commands) =>
      absurd hmem (hfixed vocabulary))
    ⟨structured_empty, fun _ hdepth => absurd hdepth (Nat.lt_irrefl 0)⟩
    (fun p hp command _ x y hx hchange => hx.change hvocabulary (hp ▸ hchange))
  obtain ⟨document, hbrowsable⟩ := hcursored.browsable hexploring hdepth
  refine ⟨document, fun reverses => ?_⟩
  have hbrowsing : Browsing solver document session :=
    ⟨hsolver, hcursored.structured, hexploring, hdepth, hprofile ▸ hbrowsable⟩
  obtain ⟨hreached, hrest⟩ := hbrowsing.execAll hsig reverses
  exact ⟨hreached.cursor hsig, hrest⟩

/-- Commands that go on from green twice. -/
def twiceFromGreen : List Command :=
  [.loadModel emptyModel, .step 2 [], .moveTo 2, .step 1 []]

/-- Over the traffic light, amber follows on green, and red can be shown instead of it. -/
theorem execAll_cursor_traffic :
    let session := execAll (.start trafficSolver ⟨.default, .plain⟩) twiceFromGreen
    trafficSolver.vocabulary.endsCommand = true ∧
      ¬Tuple.arrow <:+: trafficSolver.vocabulary.stateSig.toList ∧
      (∀ vocabulary, .setVocabulary vocabulary ∉ twiceFromGreen) ∧
      session.exploration.replaying = false ∧ 0 < session.exploration.alternatives.depth ∧
      ∃ document, ∀ reverses : List Bool,
        let reached := execAll session (reverses.map .alternate)
        reached.Cursor document ∧
          reached.exploration.alternatives.depth =
            turns document.instances.length session.exploration.alternatives.depth reverses ∧
          reached.exploration.walk.rollback.stops = session.exploration.walk.rollback.stops ∧
          reached.exploration.walk.stops.length = session.exploration.walk.stops.length := by
  have hvocabulary : trafficSolver.vocabulary.endsCommand = true := by decide
  have hsig : ¬Tuple.arrow <:+: trafficSolver.vocabulary.stateSig.toList := by decide
  have hfixed : ∀ vocabulary, .setVocabulary vocabulary ∉ twiceFromGreen := by
    simp [twiceFromGreen]
  have hshown : (execAll (.start trafficSolver ⟨.default, .plain⟩)
        twiceFromGreen).exploration.replaying = false ∧
      0 < (execAll (.start trafficSolver ⟨.default, .plain⟩)
        twiceFromGreen).exploration.alternatives.depth := by
    decide +kernel
  exact ⟨hvocabulary, hsig, hfixed, hshown.1, hshown.2,
    execAll_cursor trafficSolver hvocabulary hsig _ twiceFromGreen hfixed hshown.1 hshown.2⟩

/-- A lamp of which it is not known at first whether it is on, and which tells only if it is. -/
def dimLamp : TransitionSystem where
  fields := [⟨"light", 1⟩]
  states := [⟨"off", .empty⟩, ⟨"on", .ofList [("light", ["On"])]⟩]
  initial := ["off", "on"]
  transitions := [⟨"off", "on", none⟩, ⟨"on", "on", none⟩]

/-- A session over the dim lamp once a model was loaded, with a given name for the signature of
states. -/
def dimmed (stateSig : String) : Session ExplicitSolver :=
  execAll (.start ⟨dimLamp, { Vocabulary.default with stateSig }, 64, by decide⟩
    ⟨{ Settings.default with vocabulary := { Vocabulary.default with stateSig } }, .plain⟩)
    [.loadModel emptyModel]

/-- Where one instance is on show, it is the first one of the document. -/
theorem Cursor.top?_eq (h : session.Cursor document)
    (hone : session.exploration.alternatives.depth = 1) :
    session.exploration.alternatives.top? = some ⟨document, 0⟩ := by
  rw [h.presents.alternatives_eq, hone]
  rfl

/-- Where the state signature holds an arrow, there may be another instance that cannot be shown;
and where it holds a command, the tail shows the first state of the chain as well. -/
theorem not_cursor_dimmed :
    ((dimmed "S->t").exploration.replaying = false ∧
      0 < (dimmed "S->t").exploration.alternatives.depth ∧
      ¬∃ document, (dimmed "S->t").Cursor document) ∧
    (dimmed "State\nrun for exactly 3 x").exploration.replaying = false ∧
      0 < (dimmed "State\nrun for exactly 3 x").exploration.alternatives.depth ∧
      ¬∃ document, (dimmed "State\nrun for exactly 3 x").Cursor document := by
  have harrow : (dimmed "S->t").exploration.replaying = false ∧
      (dimmed "S->t").exploration.alternatives.depth = 1 ∧
      (dimmed "S->t").exploration.alternatives.top?.map
        (·.document.instances.length) = some 2 ∧
      ((dimmed "S->t").exec (.alternate false)).1.isOk = false := by
    decide +kernel
  have hcommand : (dimmed "State\nrun for exactly 3 x").exploration.replaying = false ∧
      (dimmed "State\nrun for exactly 3 x").exploration.alternatives.depth = 1 ∧
      (dimmed "State\nrun for exactly 3 x").exploration.alternatives.top?.map
        (fun solution => (solution.chain ((dimmed "State\nrun for exactly 3 x").exploration.vocabulary
          (dimmed "State\nrun for exactly 3 x").profile.settings).stateSig).toOption.map
            fun decoded => (shownOf decoded.2).length) = some (some 2) ∧
      (dimmed "State\nrun for exactly 3 x").exploration.walk.tail.length = 3 := by
    decide +kernel
  constructor
  · obtain ⟨hexploring, hone, hcount, hrefused⟩ := harrow
    refine ⟨hexploring, by omega, ?_⟩
    rintro ⟨document, hcursor⟩
    rw [hcursor.top?_eq hone] at hcount
    have hcan : canTurn document.instances.length
        (dimmed "S->t").exploration.alternatives.depth false = true := by
      rw [hone, show document.instances.length = 2 from Option.some.inj hcount]
      rfl
    rw [(hcursor.moves false hcan).1] at hrefused
    cases hrefused
  · obtain ⟨hexploring, hone, hlength, htail⟩ := hcommand
    refine ⟨hexploring, by omega, ?_⟩
    rintro ⟨document, hcursor⟩
    obtain ⟨schema, chain, hchain, hstates⟩ := hcursor.presents.tail_eq
    rw [hone] at hchain
    rw [hcursor.top?_eq hone, Option.map_some, hchain] at hlength
    have htwo : (shownOf chain).length = 2 := Option.some.inj (Option.some.inj hlength)
    rw [← List.length_map, hstates, htwo] at htail
    cases htail

end Session

end StateExplorer
