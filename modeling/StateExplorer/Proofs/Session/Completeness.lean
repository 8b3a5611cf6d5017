import StateExplorer.Proofs.Session.Asking
import StateExplorer.Proofs.Session.Cursor
import StateExplorer.Proofs.Session.Faithfulness
import StateExplorer.Proofs.System.Offering

/-!
# Completeness of exploration

Every run of a plain system that starts where a loaded model says can be followed with nothing but
steps and further alternatives. A session that stands at a state asks for all that can be entered
from there, from the constraint of this state or, as long as it is the only one stored, from the
initial predicate; the answer is not cut short, comes back as it was written, and is browsed up to
the wanted state, where the session then stands. The initial state is shown as it is prescribed only
if tuples carry what is prescribed, and the first step is free only if the state signature is not
mistaken for the predicate of a step.
-/

namespace StateExplorer

open Exploration

/-! ### Steps that are taken -/

namespace Explore

variable {solver : ExplicitSolver} {profile : Profile} {x : Exploration} {model : Model}
  {start : String}

/-- A step is taken if the query for it is answered with a chain of two states or more, and what comes
after the first of them is attached below the current stop. -/
theorem exists_run_step {anchor : Stop} {solution : Solution} {schema : Schema}
    {first next : State} {rest : List State} (hexploring : x.replaying = false)
    (hmodel : x.model = some model) (hresumes : x.Resumes profile model start)
    (hcurrent : x.walk.current? = some anchor) (hhas : x.store.Has anchor.id)
    (hanswers : Answers solver (x.vocabulary profile.settings)
      ⟨model.base, start, .path [], 1⟩ solution schema (first :: next :: rest)) :
    ∃ y, (step 1 [] profile).run x solver = (.ok (), y, solver) ∧
      x.Attaches (some anchor.id) (next :: rest) x.walk.commit (.only solution) y := by
  obtain ⟨hread, hsatisfiable, hchain⟩ := hanswers
  have hready : x.walk.stops.isEmpty = false := by
    rw [List.isEmpty_eq_false_iff]
    rintro hnil
    simp [Walk.current?, hnil] at hcurrent
  obtain ⟨y, hextend, hattaches⟩ := exists_run_extend hcurrent hhas hchain solver
  refine ⟨y, Eq.trans ?_ hextend, hattaches⟩
  rw [step, Op.run_bind, requireReady, Op.run_get_bind, Op.run_require, hready]
  simp only [Bool.not_false, if_true]
  rw [Op.run_bind, Op.run_require, if_pos (by decide)]
  dsimp only
  rw [Op.run_get_bind, hexploring]
  simp only [Bool.false_eq_true, if_false]
  rw [Op.run_bind, run_solve hmodel hresumes hread]
  dsimp only
  rw [Op.run_bind, Op.run_require, if_pos hsatisfiable]

end Explore

/-- Whether a command shows the next alternative or takes a step. -/
def Command.Forward (command : Command) : Prop :=
  command = .alternate false ∨ command = .step 1 []

/-! ### What is on show after moving on -/

/-- One can move on as often as there are further instances. -/
theorem turns_replicate {count depth i : Nat} (h : depth + i ≤ count) :
    turns count depth (List.replicate i false) = depth + i := by
  induction i generalizing depth with
  | zero => rfl
  | succ i ih =>
    have hcan : canTurn count depth false = true := by
      simp only [canTurn, Bool.false_eq_true, if_false, decide_eq_true_eq]
      omega
    have hnext : turns count (depth + 1) (List.replicate i false) = depth + 1 + i := ih (by omega)
    rw [List.replicate_succ, turns, List.foldl_cons, if_pos hcan]
    exact hnext.trans (Nat.add_right_comm depth 1 i)

namespace Exploration

variable {x : Exploration} {sig : String} {document : Document}

/-- The one solution on show is the first instance of the document. -/
theorem Presents.document_eq (h : x.Presents sig document) {solution : Solution}
    (honly : x.alternatives = .only solution) : document = solution.document := by
  have halternatives := h.alternatives_eq
  have hdepth : x.alternatives.depth = 1 := by
    rw [honly]
    rfl
  rw [hdepth, honly] at halternatives
  exact congrArg Solution.document (List.cons.inj (Alternatives.mk.inj halternatives)).1.symm

/-- Unless a trace is replayed, the cursor is on the last stop. -/
theorem Structured.current?_eq (h : x.Structured) (hexploring : x.replaying = false) :
    x.walk.current? = x.walk.stops.getLast? := by
  by_cases hnil : x.walk.stops = []
  · simp [Walk.current?, hnil]
  · have hcursor := h.cursor hexploring hnil
    rw [Walk.current?, List.getLast?_eq_getElem?, ← hcursor, Nat.add_sub_cancel]

/-- A walk of two stops shows two stored states. -/
theorem Structured.many (h : x.Structured) (hlong : 1 < x.walk.stops.length) : 1 < x.store.size := by
  have hdescends := h.walk.resolve_left (by rintro hnil; simp [hnil] at hlong)
  match hids : x.walk.ids with
  | [] => simp [Walk.ids] at hids; simp [hids] at hlong
  | [_] =>
    have hlength := congrArg List.length hids
    simp only [Walk.ids, List.length_map, List.length_singleton] at hlength
    omega
  | i :: j :: rest =>
    rw [hids] at hdescends
    have hlinked := (List.isChain_cons_cons.1 hdescends.linked).1
    obtain ⟨hless, hle⟩ := h.shaped.upward i j hlinked
    have hpos := (hdescends.has h.shaped i List.mem_cons_self).1
    omega

/-- The initial query of a model that was loaded has no conditions, unless the state signature is
mistaken for the predicate of a step. -/
theorem Faithful.exists_start {solver : ExplicitSolver} {model : Model}
    (h : x.Faithful solver model) (hsolver : solver.Plain)
    (hpath : ¬Query.pathName.toList <:+: solver.vocabulary.stateSig.toList) :
    solver.vocabulary.Unmistakable ∧ ∃ start,
      solver.read (model.initialQuery.render solver.vocabulary) = .ok (.free start 0) ∧
      solver.origins model = solver.system.starts solver.vocabulary.transitionField start ∧
      ∀ given, start = .fixed given →
        ∀ name, (given.get? name).isSome = true ↔ name ∈ solver.system.fields.names := by
  obtain ⟨solution, schema, first, rest, hanswers, -⟩ := h.loaded
  obtain ⟨hread, hsatisfiable, -⟩ := hanswers
  rename_i problem
  have hword : 0 < Text.maxWord := by decide
  have hbound : problem.bound = 0 := Problem.bound_of_read_free hsolver.endsCommand
    (rfl : Query.goalCommand solver.vocabulary model.initialQuery.goal = "") hword hread
  have hchains : solver.chains problem ≠ [] := by
    rintro hnil
    simp [Document.first, Solution.satisfiable, ExplicitSolver.answer, hnil] at hsatisfiable
  have hvocabulary := Problem.unmistakable_of_read model.initialQuery
    hsolver.initPredicate hsolver.stateSig hpath rfl hword hread
    (Problem.reach_eq_none hbound hchains)
  have hstands := h.stands
  rw [← hstands.trimEnd] at hstands
  obtain ⟨hfree, -, hgiven⟩ := Problem.read_free_of_read .initial hvocabulary h.base hstands rfl
    hword rfl hword hread
  exact ⟨hvocabulary, problem.start, hread.trans (congrArg Except.ok hfree),
    ExplicitSolver.origins_eq hread, hgiven⟩

end Exploration

namespace Session

variable {solver : ExplicitSolver} {model : Model} {session : Session ExplicitSolver}
  {leg next : Leg}

/-- Once one moved on to an instance of an answer, what it tells is shown after the committed stops. -/
theorem Browsing.forward {problem : Problem} (h : Browsing solver (solver.answer problem) session)
    (hone : session.exploration.alternatives.depth = 1)
    (hname : Text.isName solver.vocabulary.stateSig = true)
    (hnodup : solver.system.fields.names.Nodup) {i : Nat} {views : List View}
    (hviews : (solver.chains problem)[i]? = some views)
    (hcarries : ∀ view ∈ views, solver.system.fields.Carries view)
    (hlength : views.length ≤ Text.maxWord) :
    (Session.execAll session
        (List.replicate i (.alternate false))).exploration.walk.stops.map (·.state) =
      session.exploration.walk.rollback.stops.map (·.state) ++
        shownOf (views.map State.ofFields) := by
  obtain ⟨hreached, hdepth, hcommitted, -⟩ :=
    h.execAll (Tuple.not_arrow_of_isName hname) (List.replicate i false)
  rw [List.map_replicate] at hreached hdepth hcommitted
  have hcount : i < (solver.answer problem).instances.length := by
    simpa [ExplicitSolver.answer] using (List.getElem?_eq_some_iff.1 hviews).1
  rw [hone, turns_replicate (by omega)] at hdepth
  obtain ⟨schema, chain, hchain, hstates⟩ := hreached.browsable.tail_eq
  have hindex : 1 + i - 1 = i := by omega
  rw [hdepth, hindex] at hchain
  have hsig := (Solution.of_chain_eq_ok hchain).1
  rw [← show solver.vocabulary.stateSig = _ from hsig,
    ExplicitSolver.chain_eq hname hnodup hviews hcarries hlength] at hchain
  obtain ⟨-, rfl⟩ := Prod.mk.inj (Except.ok.inj hchain)
  rw [← Walk.rollback_append_tail, List.map_append, hcommitted, hstates]

/-- Whether a session goes by a model over a solver whose vocabulary it shares. -/
structure Guided (solver : ExplicitSolver) (model : Model) (session : Session ExplicitSolver) :
    Prop where
  solver_eq : session.solver = solver
  vocabulary_eq : session.profile.settings.vocabulary = solver.vocabulary
  structured : session.exploration.Structured
  faithful : session.exploration.Faithful solver model
  offers : session.exploration.Offers solver model

/-- Taking steps and browsing on, the same model is gone by. -/
theorem Guided.exec (h : Guided solver model session) (hsolver : solver.Plain) {command : Command}
    (hcommand : command.Forward) : Guided solver model (session.exec command).2 := by
  have hmodel : ∀ text, command ≠ .loadModel text := by rcases hcommand with rfl | rfl <;> simp
  have htrace : ∀ trace, command ≠ .loadTrace trace := by rcases hcommand with rfl | rfl <;> simp
  have hset : (session.exec command).2.profile = session.profile := by
    rcases hcommand with rfl | rfl <;> rfl
  have hsame : (session.exec command).2.exploration.Structured ∧
      (session.exec command).2.exploration.Faithful solver model ∧
      (session.exec command).2.exploration.Offers solver model := by
    rcases exec_change session command with hsame | hchange
    · rw [hsame]
      exact ⟨h.structured, h.faithful, h.offers⟩
    · rw [h.solver_eq] at hchange
      exact ⟨h.structured.change hsolver.endsCommand hchange,
        h.faithful.change h.offers h.structured hsolver h.vocabulary_eq hmodel htrace hchange⟩
  exact ⟨(exec_solver session command).trans h.solver_eq, by rw [hset]; exact h.vocabulary_eq,
    hsame.1, hsame.2.1, hsame.2.2⟩

/-- The same model is gone by after any number of such commands. -/
theorem Guided.execAll (h : Guided solver model session) (hsolver : solver.Plain)
    {commands : List Command} (hcommands : ∀ command ∈ commands, command.Forward) :
    Guided solver model (Session.execAll session commands) := by
  induction commands generalizing session with
  | nil => exact h
  | cons command rest ih =>
    obtain ⟨hcommand, hrest⟩ := List.forall_mem_cons.1 hcommands
    exact ih (h.exec hsolver hcommand) hrest

/-- Whether a session stands at a leg: the last state of the walk is what the leg shows, tuples carry
it, and the query for a step from there lets chains start at the leg. -/
structure Poised (solver : ExplicitSolver) (model : Model) (session : Session ExplicitSolver)
    (leg : Leg) : Prop extends Guided solver model session where
  current : session.exploration.walk.stops.getLast?.map (·.state) = some (State.ofFields leg.view)
  carries : solver.system.fields.Carries leg.view
  seen : 1 < session.exploration.store.size →
    solver.system.Sees solver.vocabulary.transitionField leg
  origin : session.exploration.store.size ≤ 1 → leg ∈ solver.origins model

/-- A session that stands somewhere shows something. -/
theorem Poised.ready (h : Poised solver model session leg) : session.exploration.walk.stops ≠ [] := by
  rintro hnil
  have hcurrent := h.current
  simp [hnil] at hcurrent

/-- Wherever a session stands, a query can be asked that lets chains start there and has no
conditions. -/
theorem Poised.exists_query (h : Poised solver model session leg) (hsolver : solver.Plain)
    (hvocabulary : solver.vocabulary.Unmistakable) :
    ∃ text start, session.exploration.Resumes session.profile model text ∧
      solver.read (Query.render solver.vocabulary ⟨model.base, text, .path [], 1⟩) =
        .ok (.free start 1) ∧
      leg ∈ solver.system.starts solver.vocabulary.transitionField start := by
  have hword : 1 < Text.maxWord := by decide
  by_cases hmany : 1 < session.exploration.store.size
  · have hseen := h.seen hmany
    obtain ⟨hfits, hsets⟩ := hseen.fits hsolver.system.relational
    obtain ⟨stop, hlast, hstate⟩ := Option.map_eq_some_iff.1 h.current
    have hcurrent := (h.structured.current?_eq h.faithful.exploring).trans hlast
    refine ⟨_, .fixed leg.view, .current hmany hcurrent, ?_, hseen.mem_starts⟩
    rw [h.faithful.vocabulary h.vocabulary_eq, h.faithful.schema_eq, hstate]
    have hread := Problem.read_resumed (.path []) 1 hvocabulary hsolver.isName_of_mem
      h.faithful.base hfits rfl hword
    rw [hsets] at hread
    exact hread
  · obtain ⟨solution, schema, first, rest, hanswers, -⟩ := h.faithful.loaded
    obtain ⟨hinitial, -, -⟩ := hanswers
    rename_i problem
    have hstands := h.faithful.stands
    rw [← hstands.trimEnd] at hstands
    obtain ⟨-, hread, -⟩ := Problem.read_free_of_read (.path []) hvocabulary h.faithful.base hstands
      rfl (by decide) rfl hword hinitial
    refine ⟨model.init, problem.start, .initial (by omega), hread, ?_⟩
    rw [← ExplicitSolver.origins_eq hinitial]
    exact h.origin (by omega)

/-- A step from where a session stands is answered with every state that can be entered from there. -/
theorem Poised.exec_step (h : Poised solver model session leg) (hsolver : solver.Plain)
    (hvocabulary : solver.vocabulary.Unmistakable) (hroomy : solver.Roomy)
    (hnext : next ∈ solver.system.moves solver.vocabulary.transitionField leg.state) :
    ∃ problem, [leg.view, next.view] ∈ solver.chains problem ∧
      Browsing solver (solver.answer problem) (session.exec (.step 1 [])).2 ∧
      (session.exec (.step 1 [])).2.exploration.alternatives.depth = 1 ∧
      (session.exec (.step 1 [])).2.exploration.walk.rollback.stops =
        session.exploration.walk.stops := by
  obtain ⟨text, start, hresumes, hread, hleg⟩ := h.exists_query hsolver hvocabulary
  have hmem : [leg.view, next.view] ∈ solver.chains (.free start 1) := by
    have hrun : [next] ∈ solver.system.runs solver.vocabulary.transitionField 1 leg.state :=
      List.mem_flatMap.2 ⟨next, hnext, List.mem_singleton_self _⟩
    exact Problem.mem_chains_free (hroomy _ _ hread (Nat.le_refl 1)) hleg hrun
  refine ⟨_, hmem, ?_⟩
  obtain ⟨chain, hanswers, hlength⟩ := exists_answers (Tuple.not_arrow_of_isName hsolver.stateSig)
    hread (List.ne_nil_of_mem hmem)
  obtain ⟨first, second, rfl⟩ := List.length_eq_two.1 hlength
  rw [← h.faithful.vocabulary h.vocabulary_eq] at hanswers
  obtain ⟨stop, hlast, -⟩ := Option.map_eq_some_iff.1 h.current
  have hmem := List.mem_of_getLast? hlast
  obtain ⟨y, hrun, hattaches⟩ := Explore.exists_run_step h.faithful.exploring h.faithful.model_eq
    hresumes ((h.structured.current?_eq h.faithful.exploring).trans hlast)
    (h.faithful.shows stop hmem).has hanswers
  have hexec : session.exec (.step 1 []) = (.ok .done, { session with exploration := y }) := by
    simp [exec, perform, run, Op.run_map, h.solver_eq, hrun]
  have hguided := h.exec hsolver (.inr rfl)
  rw [hexec] at hguided ⊢
  obtain ⟨hkept, -, hstates, honly, hown⟩ := hattaches.tail_eq
  rw [Walk.stops_rollback_commit] at hkept
  obtain ⟨hdepth, document, hbrowsable⟩ := hanswers.browsable honly hstates
    (iff_of_false (by simp) (by rw [hkept]; exact List.ne_nil_of_mem hmem))
  obtain rfl := hbrowsable.document_eq honly
  refine ⟨⟨h.solver_eq, hguided.structured, hguided.faithful.exploring, hdepth, ?_⟩, ?_, hkept⟩
  · dsimp only
    rw [vocabulary, hown]
    exact hbrowsable
  · dsimp only
    rw [honly]
    rfl

/-- From where a session stands, steps and further alternatives lead to every state that can be
entered from there, and the session stands at it. -/
theorem Poised.step (h : Poised solver model session leg) (hsolver : solver.Plain)
    (hvocabulary : solver.vocabulary.Unmistakable) (hnodup : solver.system.fields.names.Nodup)
    (hroomy : solver.Roomy)
    (hnext : next ∈ solver.system.moves solver.vocabulary.transitionField leg.state) :
    ∃ commands : List Command, (∀ command ∈ commands, command.Forward) ∧
      Poised solver model (Session.execAll session commands) next ∧
      (Session.execAll session commands).exploration.walk.stops.map (·.state) =
        session.exploration.walk.stops.map (·.state) ++ [State.ofFields next.view] := by
  obtain ⟨problem, hmem, hbrowsing, hone, hkept⟩ := h.exec_step hsolver hvocabulary hroomy hnext
  obtain ⟨i, hviews⟩ := List.mem_iff_getElem?.1 hmem
  have hseen := hsolver.system.sees hnext
  have hcarries := hseen.carries hsolver.system.relational
  have hword : 2 ≤ Text.maxWord := by decide
  have hforward : ∀ command ∈ Command.step 1 [] :: List.replicate i (.alternate false),
      command.Forward := by
    refine List.forall_mem_cons.2 ⟨.inr rfl, fun command hcommand => .inl ?_⟩
    exact List.eq_of_mem_replicate hcommand
  have hstates : (Session.execAll session
        (.step 1 [] :: List.replicate i (.alternate false))).exploration.walk.stops.map (·.state) =
      session.exploration.walk.stops.map (·.state) ++ [State.ofFields next.view] := by
    rw [← hkept]
    exact hbrowsing.forward hone hsolver.stateSig hnodup hviews
      (by simpa using ⟨h.carries, hcarries⟩) hword
  have hguided := h.execAll hsolver hforward
  have hmany := hguided.structured.many (by
    have hlength := congrArg List.length hstates
    have hpos := List.length_pos_iff.2 h.ready
    simp only [List.length_map, List.length_append, List.length_singleton] at hlength
    omega)
  refine ⟨_, hforward, ⟨hguided, ?_, hcarries, fun _ => hseen, fun hfew => ?_⟩, hstates⟩
  · rw [← List.getLast?_map, hstates, List.getLast?_concat]
  · omega

/-- From where a session stands, every run of the system can be followed. -/
theorem Poised.run (hsolver : solver.Plain) (hvocabulary : solver.vocabulary.Unmistakable)
    (hnodup : solver.system.fields.names.Nodup) (hroomy : solver.Roomy) {legs : List Leg}
    {session : Session ExplicitSolver} (h : Poised solver model session leg)
    (hlegs : (leg :: legs).IsChain fun a b =>
      b ∈ solver.system.moves solver.vocabulary.transitionField a.state) :
    ∃ commands : List Command, (∀ command ∈ commands, command.Forward) ∧
      (Session.execAll session commands).exploration.walk.stops.map (·.state) =
        session.exploration.walk.stops.map (·.state) ++ legs.map (State.ofFields ·.view) := by
  induction legs generalizing leg session with
  | nil => exact ⟨[], by simp, by simp [Session.execAll]⟩
  | cons next legs ih =>
    obtain ⟨hnext, hrest⟩ := List.isChain_cons_cons.1 hlegs
    obtain ⟨commands, hcommands, hpoised, hstates⟩ :=
      h.step hsolver hvocabulary hnodup hroomy hnext
    obtain ⟨more, hmore, hfollowed⟩ := ih hpoised hrest
    refine ⟨commands ++ more, List.forall_mem_append.2 ⟨hcommands, hmore⟩, ?_⟩
    rw [Session.execAll, List.foldl_append]
    refine hfollowed.trans ?_
    rw [hstates, List.append_assoc]
    rfl

/-! ### The initial state -/

/-- Loading a model that succeeds leaves the profile, and the model is loaded. -/
theorem modelLoaded_of_ok (hsame : session.solver = solver) {text : String}
    (hloads : (session.exec (.loadModel text)).1 = .ok .done) :
    (session.exec (.loadModel text)).2.profile = session.profile ∧
      session.exploration.ModelLoaded solver session.profile text
        (session.exec (.loadModel text)).2.exploration := by
  rcases hrun : (Explore.loadModel text session.profile).run session.exploration session.solver
    with ⟨_ | ⟨⟩, y, t⟩
  · simp [exec, perform, run, Op.run_map, hrun] at hloads
  · have hexec : (session.exec (.loadModel text)).2 =
        { session with exploration := y, solver := t } := by
      simp [exec, perform, run, Op.run_map, hrun]
    rw [hexec]
    exact ⟨rfl, hsame ▸ Explore.of_loadModel_ok hrun⟩

/-- A model that is loaded is gone by, and its initial states can be browsed. -/
theorem guided_of_loaded (hsolver : solver.Plain) (hsame : session.solver = solver)
    (hprofile : session.profile.settings.vocabulary = solver.vocabulary) {text : String}
    (hkeeps : (Command.loadModel text).KeepsTo solver.vocabulary)
    (hloads : (session.exec (.loadModel text)).1 = .ok .done)
    (hmodel : Model.parse text solver.vocabulary = .ok model) :
    let loaded := (session.exec (.loadModel text)).2
    Guided solver model loaded ∧ loaded.exploration.store.size = 1 ∧
      loaded.exploration.walk.rollback.stops = [] ∧ loaded.exploration.alternatives.depth = 1 ∧
      ∃ problem, solver.read (model.initialQuery.render solver.vocabulary) = .ok problem ∧
        Browsing solver (solver.answer problem) loaded := by
  intro loaded
  obtain ⟨hsettings, hloaded⟩ := modelLoaded_of_ok hsame hloads
  obtain ⟨own, other, solution, schema, only, hown, hparse, hgoes, hanswers, honly, hstored, hkept,
    -⟩ := hloaded.exists_initial hsolver.endsCommand
  rw [hprofile, hkeeps.1 own hown, hmodel] at hparse
  obtain rfl := Except.ok.inj hparse
  obtain ⟨other, hfaithful, hoffers⟩ := faithful_of_modelLoaded hsolver hprofile hkeeps hloaded
  obtain rfl := Option.some.inj (hgoes.symm.trans hfaithful.model_eq)
  have hguided : Guided solver model loaded :=
    ⟨(exec_solver session _).trans hsame, hsettings ▸ hprofile, structured_of_modelLoaded hloaded,
      hfaithful, hoffers⟩
  obtain ⟨hdepth, document, hbrowsable⟩ := hloaded.browsable hsolver.endsCommand
  obtain rfl := hbrowsable.document_eq honly
  rw [hfaithful.vocabulary hprofile] at hanswers
  obtain ⟨hread, -, -⟩ := hanswers
  refine ⟨hguided, ?_, hkept, by rw [honly]; rfl, _, hread, hguided.solver_eq, hguided.structured,
    hfaithful.exploring, hdepth, hsettings ▸ hbrowsable⟩
  rw [← Store.length_states, hstored]
  rfl

/-- After a model was loaded, further alternatives lead to every start of the initial query, and the
session stands there, if tuples carry what is prescribed for the transition field. -/
theorem exists_poised (hsolver : solver.Plain)
    (hpath : ¬Query.pathName.toList <:+: solver.vocabulary.stateSig.toList)
    (hnodup : solver.system.fields.names.Nodup) (hroomy : solver.Roomy)
    (hsame : session.solver = solver)
    (hprofile : session.profile.settings.vocabulary = solver.vocabulary) {text : String}
    (hkeeps : (Command.loadModel text).KeepsTo solver.vocabulary)
    (hloads : (session.exec (.loadModel text)).1 = .ok .done)
    (hmodel : Model.parse text solver.vocabulary = .ok model) (hleg : leg ∈ solver.origins model)
    (hprescribed : ∀ v ∈ (leg.view.get? solver.vocabulary.transitionField).getD [],
      Tuple.readBack v = v) :
    solver.vocabulary.Unmistakable ∧
      ∃ commands : List Command, (∀ command ∈ commands, command.Forward) ∧
        Poised solver model (execAll (session.exec (.loadModel text)).2 commands) leg ∧
        (execAll (session.exec (.loadModel text)).2 commands).exploration.walk.stops.map (·.state) =
          [State.ofFields leg.view] := by
  obtain ⟨hguided, hsize, hkept, hone, problem, hproblem, hbrowsing⟩ :=
    guided_of_loaded hsolver hsame hprofile hkeeps hloads hmodel
  obtain ⟨hvocabulary, start, hread, horigins, hgiven⟩ :=
    hguided.faithful.exists_start hsolver hpath
  obtain rfl := Except.ok.inj (hproblem.symm.trans hread)
  have hstart := horigins ▸ hleg
  obtain ⟨i, hviews, hseen⟩ := TransitionSystem.exists_chain_of_mem_starts
    (hroomy _ _ hread (Nat.zero_le 1)) hstart
  have hcarries := hsolver.system.relational.carries_of_mem_starts hgiven hstart hprescribed
  have hword : 1 ≤ Text.maxWord := by decide
  have hstates := hbrowsing.forward hone hsolver.stateSig hnodup hviews (by simpa using hcarries)
    hword
  rw [hkept] at hstates
  have hforward : ∀ command ∈ List.replicate i (.alternate false), Command.Forward command :=
    fun command hcommand => .inl (List.eq_of_mem_replicate hcommand)
  refine ⟨hvocabulary, _, hforward, ⟨hguided.execAll hsolver hforward, ?_, hcarries, fun hmany => ?_,
    fun _ => hleg⟩, hstates⟩
  · rw [← List.getLast?_map, hstates]
    rfl
  · rcases hseen with rfl | hseen
    · exact absurd hsize (Nat.ne_of_gt hmany)
    · exact hseen

/-! ### Every run of the system -/

/-- Whether one can get from a session to a walk along the given legs by showing further alternatives
and taking steps. -/
def CanFollow (session : Session ExplicitSolver) (legs : List Leg) : Prop :=
  ∃ commands : List Command, (∀ command ∈ commands, command.Forward) ∧
    (execAll session commands).exploration.walk.stops.map (·.state) =
      legs.map (State.ofFields ·.view)

/-- Whether a session that shares the vocabulary of its solver can load a model over a plain system
in which a run is declared that starts where the model says. -/
structure Ahead (session : Session ExplicitSolver) (text : String) (leg : Leg) (legs : List Leg) :
    Prop where
  plain : session.solver.Plain
  distinct : session.solver.system.fields.names.Nodup
  roomy : session.solver.Roomy
  vocabulary_eq : session.profile.settings.vocabulary = session.solver.vocabulary
  keeps : (Command.loadModel text).KeepsTo session.solver.vocabulary
  loads : (session.exec (.loadModel text)).1 = .ok .done
  starts : ∃ model, Model.parse text session.solver.vocabulary = .ok model ∧
    leg ∈ session.solver.origins model
  follows : (leg :: legs).IsChain fun a b =>
    b ∈ session.solver.system.moves session.solver.vocabulary.transitionField a.state

/-- After a model was loaded every run of the system that starts where the model says can be followed,
as long as the state signature is not mistaken for the predicate of a step, and tuples carry what
the model prescribes for the transition field. -/
theorem canFollow_of_ahead {text : String} {legs : List Leg} (h : session.Ahead text leg legs)
    (hpath : ¬Query.pathName.toList <:+: session.solver.vocabulary.stateSig.toList)
    (hprescribed : ∀ v ∈ (leg.view.get? session.solver.vocabulary.transitionField).getD [],
      Tuple.readBack v = v) :
    (session.exec (.loadModel text)).2.CanFollow (leg :: legs) := by
  obtain ⟨model, hmodel, hleg⟩ := h.starts
  obtain ⟨hvocabulary, commands, hcommands, hpoised, hstates⟩ := exists_poised h.plain hpath
    h.distinct h.roomy rfl h.vocabulary_eq h.keeps h.loads hmodel hleg hprescribed
  obtain ⟨more, hmore, hfollowed⟩ :=
    hpoised.run h.plain hvocabulary h.distinct h.roomy h.follows
  refine ⟨commands ++ more, List.forall_mem_append.2 ⟨hcommands, hmore⟩, ?_⟩
  rw [execAll, List.foldl_append]
  refine hfollowed.trans ?_
  rw [hstates]
  rfl

/-- A session over the traffic light whose solver allows more chains than there are. -/
def atTheLight : Session ExplicitSolver :=
  .start ⟨trafficLight, .default, ExplicitSolver.usualCap, trafficSolver.wellFormed⟩
    ⟨.default, .plain⟩

/-- The red light at the start. -/
def atRed : Leg :=
  ⟨⟨"red", .ofList [("light", ["Red"])]⟩, .ofList [("light", ["Red"]), ("transTaken", [])]⟩

/-- Over the traffic light the empty model is loaded. -/
theorem loads_emptyModel : (atTheLight.exec (.loadModel emptyModel)).1 = .ok .done := by
  decide +kernel

/-- With the empty model, the traffic light starts at red. -/
theorem origins_emptyParts : atTheLight.solver.origins emptyParts = [atRed] := by
  decide +kernel

/-- Over the traffic light, the run from red to green and back to red can be followed. -/
theorem canFollow_of_ahead_traffic :
    let turns : List Leg :=
      [⟨⟨"green", .ofList [("light", ["Green"])]⟩,
          .ofList [("light", ["Green"]), ("transTaken", ["go"])]⟩,
        ⟨⟨"red", .ofList [("light", ["Red"])]⟩,
          .ofList [("light", ["Red"]), ("transTaken", ["halt"])]⟩]
    atTheLight.Ahead emptyModel atRed turns ∧
      ¬Query.pathName.toList <:+: atTheLight.solver.vocabulary.stateSig.toList ∧
      (∀ v ∈ (atRed.view.get? atTheLight.solver.vocabulary.transitionField).getD [],
        Tuple.readBack v = v) ∧
      (atTheLight.exec (.loadModel emptyModel)).2.CanFollow (atRed :: turns) := by
  intro turns
  have hahead : atTheLight.Ahead emptyModel atRed turns :=
    { plain := ⟨by decide +kernel, by decide +kernel, by decide +kernel⟩
      distinct := by decide
      roomy := ExplicitSolver.roomy_of_lt (by decide)
      vocabulary_eq := rfl
      keeps := keepsTo_emptyModel
      loads := loads_emptyModel
      starts := ⟨emptyParts, parse_emptyModel, origins_emptyParts ▸ List.mem_singleton_self _⟩
      follows := by decide +kernel }
  have hpath : ¬Query.pathName.toList <:+: atTheLight.solver.vocabulary.stateSig.toList := by
    decide +kernel
  have hprescribed : ∀ v ∈ (atRed.view.get? atTheLight.solver.vocabulary.transitionField).getD [],
      Tuple.readBack v = v := by
    decide +kernel
  exact ⟨hahead, hpath, hprescribed, canFollow_of_ahead hahead hpath hprescribed⟩

/-- A command that fails leaves a session as it is. -/
theorem exec_eq_self {command : Command} (hcommand : command.Forward)
    (hfails : (session.exec command).1.isOk = false) : (session.exec command).2 = session := by
  have hsolver := exec_solver session command
  match hresult : (session.exec command).1 with
  | .ok reply =>
    rw [hresult] at hfails
    cases hfails
  | .error e =>
    have hexploration : (session.exec command).2.exploration = session.exploration := by
      rcases hcommand with rfl | rfl
      · exact run_eq_of_error (Explore.atomic_alternate _ _).bind_pure hresult
      · exact run_eq_of_error (Explore.atomic_step _ _ _).bind_pure hresult
    calc (session.exec command).2
        = { session with
            solver := (session.exec command).2.solver
            exploration := (session.exec command).2.exploration } := by
          rcases hcommand with rfl | rfl <;> rfl
      _ = session := by rw [hsolver, hexploration]

/-- A session that can neither go on nor show another alternative only shows what it shows. -/
theorem not_canFollow {legs : List Leg} (hstep : (session.exec (.step 1 [])).1.isOk = false)
    (halternate : (session.exec (.alternate false)).1.isOk = false)
    (hother : session.exploration.walk.stops.map (·.state) ≠ legs.map (State.ofFields ·.view)) :
    ¬session.CanFollow legs := by
  have hstays (commands : List Command) (hcommands : ∀ command ∈ commands, command.Forward) :
      execAll session commands = session := by
    induction commands with
    | nil => rfl
    | cons command rest ih =>
      obtain ⟨hcommand, hrest⟩ := List.forall_mem_cons.1 hcommands
      have hsame : (session.exec command).2 = session := by
        refine exec_eq_self hcommand ?_
        rcases hcommand with rfl | rfl
        · exact halternate
        · exact hstep
      rw [execAll, List.foldl_cons, hsame]
      exact ih hrest
  rintro ⟨commands, hcommands, hstates⟩
  rw [hstays commands hcommands] at hstates
  exact hother hstates

/-- A session over a single state, whose model prescribes something for the transition field. -/
def marked : Session ExplicitSolver :=
  .start ⟨⟨[⟨"transTaken", 1⟩, ⟨"f", 1⟩], [⟨"a", .ofList [("f", ["A"])]⟩], ["a"], []⟩, .default,
    ExplicitSolver.usualCap, by decide⟩ ⟨.default, .plain⟩

/-- A model that prescribes a value with the mark of an atom. -/
def markedModel : String :=
  "pred init[s: State] \x7b\n s.transTaken = x$0\n s.f = A\n\x7d\npred next[s, t: State] \x7b\x7d"

/-- The state as it is prescribed. -/
def atMarked : Leg :=
  ⟨⟨"a", .ofList [("f", ["A"])]⟩, .ofList [("f", ["A"]), ("transTaken", ["x$0"])]⟩

/-- A vocabulary whose state signature is called like the predicate of a step. -/
def stepping : Vocabulary :=
  { Vocabulary.default with stateSig := "trellis_path_0" }

/-- A session over two letters under that vocabulary. -/
def mistaken : Session ExplicitSolver :=
  .start ⟨⟨[⟨"f", 1⟩], [⟨"a", .ofList [("f", ["A"])]⟩, ⟨"b", .ofList [("f", ["B"])]⟩], ["a"],
      [⟨"a", "b", none⟩]⟩, stepping, ExplicitSolver.usualCap, by decide⟩
    ⟨{ Settings.default with vocabulary := stepping }, .plain⟩

/-- A model with a predicate of that name, which holds of the first letter only. -/
def mistakenModel : String :=
  "pred trellis_path_0[s: State] \x7b\n s.f = A\n\x7d\npred init[s: State] \x7b\x7d\n" ++
    "pred next[s, t: State] \x7b\x7d"

/-- A leg that shows a letter. -/
def atLetter (name value : String) : Leg :=
  ⟨⟨name, .ofList [("f", [value])]⟩, .ofList [("f", [value])]⟩

/-- The model that prescribes the mark is loaded, and the session can only show something else. -/
theorem stuck_marked :
    (marked.exec (.loadModel markedModel)).1 = .ok .done ∧
      ((marked.exec (.loadModel markedModel)).2.exec (.step 1 [])).1.isOk = false ∧
      ((marked.exec (.loadModel markedModel)).2.exec (.alternate false)).1.isOk = false ∧
      (marked.exec (.loadModel markedModel)).2.exploration.walk.stops.map (·.state) ≠
        [atMarked].map (State.ofFields ·.view) := by
  decide +kernel

/-- The prescribed state is one to start from. -/
theorem ahead_marked : marked.Ahead markedModel atMarked [] := by
  have hmodel : Model.parse markedModel .default =
      .ok ⟨"\npred next[s, t: State] \x7b\x7d",
        "pred init[s: State] \x7b\n s.transTaken = x$0\n s.f = A\n\x7d"⟩ := by
    decide +kernel
  exact
    { plain := ⟨by decide +kernel, by decide +kernel, by decide +kernel⟩
      distinct := by decide
      roomy := ExplicitSolver.roomy_of_lt (by decide)
      vocabulary_eq := rfl
      keeps := Command.keepsTo_of_parse (by decide +kernel) hmodel (by decide +kernel)
      loads := stuck_marked.1
      starts := ⟨_, hmodel, by decide +kernel⟩
      follows := List.isChain_singleton _ }

/-- The model with the mistaken predicate is loaded, and the session can only show the first
letter. -/
theorem stuck_mistaken :
    (mistaken.exec (.loadModel mistakenModel)).1 = .ok .done ∧
      ((mistaken.exec (.loadModel mistakenModel)).2.exec (.step 1 [])).1.isOk = false ∧
      ((mistaken.exec (.loadModel mistakenModel)).2.exec (.alternate false)).1.isOk = false ∧
      (mistaken.exec (.loadModel mistakenModel)).2.exploration.walk.stops.map (·.state) ≠
        [atLetter "a" "A", atLetter "b" "B"].map (State.ofFields ·.view) := by
  decide +kernel

/-- The step to the other letter is declared. -/
theorem ahead_mistaken : mistaken.Ahead mistakenModel (atLetter "a" "A") [atLetter "b" "B"] := by
  have hmodel : Model.parse mistakenModel stepping =
      .ok ⟨"pred trellis_path_0[s: State] \x7b\n s.f = A\n\x7d\n\npred next[s, t: State] \x7b\x7d",
        "pred init[s: State] \x7b\x7d"⟩ := by
    decide +kernel
  exact
    { plain := ⟨by decide +kernel, by decide +kernel, by decide +kernel⟩
      distinct := by decide
      roomy := ExplicitSolver.roomy_of_lt (by decide)
      vocabulary_eq := rfl
      keeps := Command.keepsTo_of_parse (by decide +kernel) hmodel (by decide +kernel)
      loads := stuck_mistaken.1
      starts := ⟨_, hmodel, by decide +kernel⟩
      follows := by decide +kernel }

/-- Where a model prescribes the mark of an atom for the transition field, not even its initial state is
shown as it is prescribed; and where the state signature is called like the predicate of a step,
the first step may be refused. -/
theorem not_canFollow_marked :
    (marked.Ahead markedModel atMarked [] ∧
      ¬(marked.exec (.loadModel markedModel)).2.CanFollow [atMarked]) ∧
    mistaken.Ahead mistakenModel (atLetter "a" "A") [atLetter "b" "B"] ∧
      ¬(mistaken.exec (.loadModel mistakenModel)).2.CanFollow
        [atLetter "a" "A", atLetter "b" "B"] := by
  obtain ⟨-, hstep, halternate, hother⟩ := stuck_marked
  obtain ⟨-, hstep', halternate', hother'⟩ := stuck_mistaken
  exact ⟨⟨ahead_marked, not_canFollow hstep halternate hother⟩, ahead_mistaken,
    not_canFollow hstep' halternate' hother'⟩

end Session

end StateExplorer
