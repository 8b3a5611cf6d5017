import Mathlib.Order.Bounds.Basic
import StateExplorer.Proofs.Query.Bounds
import StateExplorer.Proofs.Session.Asking
import StateExplorer.Proofs.Session.Completeness

/-!
# Moving on to the first hit

Moving on to a breakpoint, or until a transition is taken, asks for one transition, then for two,
and so on. All these queries start at the same states and want the same condition, so the first
one that is answered has the least bound at which the condition can be met, and what it is answered
with meets the condition in the last state only. This holds in every session in which the vocabulary
in effect is that of the solver, unless the state signature is mistaken for the predicate of a step.
-/

namespace StateExplorer

/-- Whether a solver reads all queries that a search up to a limit asks: the first one, and each next
one as long as no chain was found. -/
def ExplicitSolver.Accepts (solver : ExplicitSolver) (query : Nat → String) (limit : Nat) : Prop :=
  ∀ bound, 1 ≤ bound → bound ≤ limit →
    (∀ shorter, 1 ≤ shorter → shorter < bound → ∀ problem,
      solver.read (query shorter) = .ok problem → solver.chains problem = []) →
    ∃ problem, solver.read (query bound) = .ok problem

/-- A solver that reads all queries up to a limit reads those that are asked. -/
theorem ExplicitSolver.accepts_of_all {solver : ExplicitSolver} {query : Nat → String} {limit : Nat}
    (h : ∀ bound ≤ limit, 1 ≤ bound → (solver.read (query bound)).isOk = true) :
    solver.Accepts query limit := by
  intro bound hpos hle _
  match hread : solver.read (query bound) with
  | .ok problem => exact ⟨problem, rfl⟩
  | .error e =>
    have hok := h bound hle hpos
    rw [hread] at hok
    cases hok

/-- The bounds up to a limit at which some run from where chains start meets a condition. -/
def ExplicitSolver.hits (solver : ExplicitSolver) (start : Start) (condition : Condition)
    (limit : Nat) : Set Nat :=
  {bound | 1 ≤ bound ∧ bound ≤ limit ∧
    solver.system.Reaches solver.vocabulary.transitionField start condition bound}

namespace Exploration

variable {solver : ExplicitSolver} {profile : Profile} {x y : Exploration}

/-! ### The model that is gone by -/

/-- Whether a model is gone by where something is stored and no trace is replayed. -/
def Modelled (x : Exploration) : Prop :=
  x.replaying = false → x.store.size ≠ 0 → ∃ model, x.model = some model

/-- What is shown is stored. -/
theorem Structured.has (h : x.Structured) {stop : Stop} (hstop : stop ∈ x.walk.stops) :
    x.store.Has stop.id :=
  (h.walk.resolve_left (List.ne_nil_of_mem hstop)).has h.shaped _ (List.mem_map_of_mem hstop)

/-- Where something is shown, something is stored. -/
theorem Structured.size_ne_zero (h : x.Structured) (hready : x.walk.stops ≠ []) :
    x.store.size ≠ 0 := by
  obtain ⟨stop, hstop⟩ := List.exists_mem_of_ne_nil _ hready
  have hhas := h.has hstop
  have hpos := hhas.1
  have hle := hhas.2
  omega

/-- The model stays when a chain is attached. -/
theorem Attaches.model_eq {parent : Option Nat} {chain : List State} {kept : Walk}
    {alternatives : Alternatives} (h : x.Attaches parent chain kept alternatives y) :
    y.model = x.model := by
  obtain ⟨-, -, -⟩ := h
  rfl

/-- The model stays when an alternative is shown. -/
theorem Alternated.model_eq {reverse : Bool} (h : x.Alternated profile reverse y) :
    y.model = x.model := by
  cases h with
  | root _ _ _ _ hattaches => exact hattaches.model_eq
  | tail _ _ _ _ _ hattaches => exact hattaches.model_eq

/-- An extension goes by the model, which stays. -/
theorem Extended.exists_model {goal : Goal} {bound : Nat}
    (h : x.Extended solver profile goal bound y) : ∃ model, y.model = some model := by
  obtain ⟨hmodel, -, -, -, hattaches⟩ := h
  exact ⟨_, hattaches.model_eq.trans hmodel⟩

/-- To show the initial state anew is to go by the model, which stays. -/
theorem Restarted.exists_model (h : x.Restarted solver profile y) :
    ∃ model, y.model = some model := by
  obtain ⟨-, hmodel, -⟩ := h
  exact ⟨_, hmodel⟩

/-- Going back outside of a replay goes by the model, which stays. -/
theorem Retraced.exists_model {steps : Nat} (h : x.Retraced solver profile steps y)
    (hexploring : x.replaying = false) : ∃ model, y.model = some model := by
  obtain ⟨-, hfound, hbrowsed, -⟩ := h
  rename_i y z target
  have hy : ∃ model, y.model = some model := by
    cases hfound with
    | replayed hreplayed =>
      obtain ⟨hreplaying⟩ := hreplayed
      exact Bool.noConfusion (hexploring.symm.trans hreplaying)
    | restarted _ _ hrestarted => exact hrestarted.exists_model
    | extended _ _ hextended => exact hextended.exists_model
  have hz : z.model = y.model := by
    induction hbrowsed with
    | refl => rfl
    | tail _ halternated ih => exact halternated.model_eq.trans ih
  obtain ⟨model, hmodel⟩ := hy
  exact ⟨model, hz.trans hmodel⟩

/-- Every change keeps that a model is gone by. -/
theorem Modelled.change (h : x.Modelled) (hstructured : x.Structured) {command : Command}
    (hchange : x.Change solver profile command y) : y.Modelled := by
  intro hexploring hsize
  cases hchange with
  | model hloaded =>
    obtain ⟨-, -, -, -, -⟩ := hloaded
    exact ⟨_, rfl⟩
  | trace hloaded =>
    obtain ⟨-, -, -⟩ := hloaded
    cases hexploring
  | replay hreplayed =>
    obtain ⟨-⟩ := hreplayed
    exact h hexploring hsize
  | extend _ hextended => exact hextended.exists_model
  | alternate halternated =>
    obtain ⟨hready, hsame⟩ := halternated.replaying_eq
    obtain ⟨model, hmodel⟩ :=
      h (hsame.symm.trans hexploring) (hstructured.size_ne_zero hready)
    exact ⟨model, halternated.model_eq.trans hmodel⟩
  | restart _ hrestarted => exact hrestarted.exists_model
  | move _ hmoved =>
    obtain ⟨-, -, -⟩ := hmoved
    exact h hexploring hsize
  | retrace hretraced => exact hretraced.exists_model (hretraced.replaying_eq.symm.trans hexploring)
  | breakpoints list => exact h hexploring hsize

/-- Where something is shown, chains can be asked for from somewhere. -/
theorem Structured.exists_resumes (h : x.Structured) (hexploring : x.replaying = false)
    (hready : x.walk.stops ≠ []) (profile : Profile) (model : Model) :
    ∃ text, x.Resumes profile model text := by
  by_cases hmany : 1 < x.store.size
  · obtain ⟨stop, hstop⟩ := Option.isSome_iff_exists.1 (List.getLast?_isSome.2 hready)
    exact ⟨_, .current hmany ((h.current?_eq hexploring).trans hstop)⟩
  · exact ⟨_, .initial (Nat.le_of_not_lt hmany)⟩

/-! ### One bound after another -/

/-- Whether chains are asked for from a predicate, by a model and in the vocabulary of the solver. -/
structure Asking (solver : ExplicitSolver) (profile : Profile) (model : Model) (text : String)
    (x : Exploration) : Prop where
  structured : x.Structured
  exploring : x.replaying = false
  ready : x.walk.stops ≠ []
  shared : x.vocabulary profile.settings = solver.vocabulary
  model_eq : x.model = some model
  resumes : x.Resumes profile model text

section Search

variable {model : Model} {text : String} {goal : Goal} {start : Start} {condition : Condition}
  {limit bound left : Nat}

/-- Where chains were found for a bound, the walk is extended by the first of them. -/
theorem Asking.exists_run_extend (h : x.Asking solver profile model text)
    (hsig : ¬Tuple.arrow <:+: solver.vocabulary.stateSig.toList) (hpos : 1 ≤ bound)
    (hword : bound < Text.maxWord) (hsome : solver.chains (.seeking start condition bound) ≠ []) :
    ∃ y, (Explore.extend (solver.answer (.seeking start condition bound)).first profile).run x solver =
      (.ok (), y, solver) := by
  have hcount : 0 < (solver.answer (.seeking start condition bound)).instances.length := by
    simpa [ExplicitSolver.answer, List.length_pos_iff] using hsome
  obtain ⟨chain, hchain, hlength⟩ := solver.exists_chain hsig hword hcount
  obtain ⟨stop, hlast⟩ := Option.isSome_iff_exists.1 (List.getLast?_isSome.2 h.ready)
  rw [← h.shared] at hchain
  rcases chain with _ | ⟨first, _ | ⟨next, rest⟩⟩
  · cases hlength
  · have hzero : bound = 0 := (Nat.succ.inj hlength).symm
    omega
  · obtain ⟨y, hextend, -⟩ := Explore.exists_run_extend
      ((h.structured.current?_eq h.exploring).trans hlast)
      (h.structured.has (List.mem_of_getLast? hlast)) hchain solver
    exact ⟨y, hextend⟩

/-- A search that has met nothing at the bounds before goes on to the least bound at which the condition
can be met, or finds that there is none. -/
theorem Asking.run_searchBounds (h : x.Asking solver profile model text) (hcap : 1 ≤ solver.cap)
    (hsig : ¬Tuple.arrow <:+: solver.vocabulary.stateSig.toList)
    (haccepts : solver.Accepts (fun bound =>
      Query.render solver.vocabulary ⟨model.base, text, goal, bound⟩) limit)
    (hread : ∀ bound problem,
      solver.read (Query.render solver.vocabulary ⟨model.base, text, goal, bound⟩) = .ok problem →
        problem = .seeking start condition bound ∧ bound < Text.maxWord)
    (missing : NoChain) (hpos : 1 ≤ bound) (hlimit : bound + left = limit + 1)
    (hbefore : ∀ shorter ∈ solver.hits start condition limit, bound ≤ shorter) :
    (∃ found y, IsLeast (solver.hits start condition limit) found ∧
      (Explore.searchBounds goal missing profile bound left).run x solver = (.ok found, y, solver) ∧
      y.alternatives = .only (solver.answer (.seeking start condition found)).first) ∨
    (solver.hits start condition limit = ∅ ∧
      (Explore.searchBounds goal missing profile bound left).run x solver =
        (.error (.unsatisfiable missing), x, solver)) := by
  induction left generalizing bound with
  | zero =>
    refine .inr ⟨Set.eq_empty_of_forall_notMem fun found hfound => ?_, rfl⟩
    have hle := hbefore found hfound
    have hmost := hfound.2.1
    omega
  | succ left ih =>
    obtain ⟨problem, hproblem⟩ := haccepts bound hpos (by omega) fun shorter hfirst hshort _ hasked => by
      obtain ⟨rfl, -⟩ := hread shorter _ hasked
      by_contra hsome
      have hhit := (Problem.chains_seeking_ne_nil_iff solver.wellFormed hcap).1 hsome
      have hle := hbefore shorter ⟨hfirst, by omega, hhit⟩
      omega
    obtain ⟨rfl, hword⟩ := hread bound problem hproblem
    have hsolve := Explore.run_solve h.model_eq h.resumes (h.shared ▸ hproblem)
    have hhit : solver.chains (.seeking start condition bound) ≠ [] ↔ _ :=
      Problem.chains_seeking_ne_nil_iff solver.wellFormed hcap
    rw [Explore.searchBounds, Op.run_bind, hsolve]
    dsimp only
    by_cases hsome : solver.chains (.seeking start condition bound) ≠ []
    · -- The first bound with chains is the least one.
      rw [if_pos (ExplicitSolver.satisfiable_first_iff.2 hsome)]
      obtain ⟨y, hextend⟩ := h.exists_run_extend hsig hpos hword hsome
      obtain ⟨_, _, _, _, _, _, _, hattaches⟩ := Explore.of_extend_ok hextend
      refine .inl ⟨bound, y, ⟨⟨hpos, by omega, hhit.1 hsome⟩, hbefore⟩, ?_,
        hattaches.tail_eq.2.2.2.1⟩
      rw [Op.run_bind, hextend]
      rfl
    · rw [if_neg (mt ExplicitSolver.satisfiable_first_iff.1 hsome)]
      refine ih (Nat.le_add_left 1 bound) (by omega) fun shorter hshorter => ?_
      have hle := hbefore shorter hshorter
      rcases Nat.lt_or_eq_of_le hle with hlt | rfl
      · exact hlt
      · exact absurd (hhit.2 hshorter.2.2) hsome

end Search

end Exploration

namespace Session

open Exploration

variable {solver : ExplicitSolver} {session : Session ExplicitSolver} {model : Model}
  {text : String} {goal : Goal} {limit : Nat}

/-- The query for a goal that a session asks from a predicate, by its bound. -/
def queries (session : Session ExplicitSolver) (model : Model) (text : String) (goal : Goal)
    (bound : Nat) : String :=
  Query.render (session.exploration.vocabulary session.profile.settings)
    ⟨model.base, text, goal, bound⟩

/-- Whether a command that asks such queries stops at the least bound at which a condition can be met
after the first state, and shows a chain that meets it in the last state only. -/
structure StopsFirst (solver : ExplicitSolver) (session : Session ExplicitSolver)
    (command : Command) (query : Nat → String) (limit : Nat) (missing : NoChain) (start : Start)
    (condition : Condition) : Prop where
  /-- All queries start at the same states and want the same condition. -/
  read_eq : ∀ bound < Text.maxWord,
    solver.read (query bound) = .ok (.seeking start condition bound)
  /-- What is answered is the least bound at which the condition can be met, -/
  found_iff : ∀ bound, (session.exec command).1 = .ok (.bound bound) ↔
    IsLeast (solver.hits start condition limit) bound
  /-- or that there is none. -/
  missing_iff : (session.exec command).1 = .error (.unsatisfiable missing) ↔
    solver.hits start condition limit = ∅
  /-- The first chain for that bound is shown, and all of them are the alternatives. -/
  presents : ∀ bound, (session.exec command).1 = .ok (.bound bound) →
    (session.exec command).2.exploration.Presents solver.vocabulary.stateSig
        (solver.answer (.seeking start condition bound)) ∧
      (session.exec command).2.exploration.alternatives.depth = 1
  /-- The condition holds in the last state of each of them, and in none between it and the first. -/
  stops : ∀ bound, (session.exec command).1 = .ok (.bound bound) →
    ∀ views ∈ solver.chains (.seeking start condition bound),
      Problem.StopsAt condition views

/-- Whether a session is ready to search by a model from a predicate. -/
structure Searching (solver : ExplicitSolver) (session : Session ExplicitSolver) (model : Model)
    (text : String) : Prop where
  solver_eq : session.solver = solver
  asking : session.exploration.Asking solver session.profile model text
  room : 1 ≤ solver.cap
  initPredicate : Text.isName solver.vocabulary.initPredicate = true
  stateSig : Text.isName solver.vocabulary.stateSig = true
  not_path : ¬Query.pathName.toList <:+: solver.vocabulary.stateSig.toList

/-- Queries for some state, the first of which is read, are all read with one start and one condition,
up to the largest bound that fits a word. -/
theorem Searching.exists_read (h : session.Searching solver model text) {name : String}
    (hname : name = Query.breakName ∨ name = Query.forceName)
    (hgoal : Query.goalCommand solver.vocabulary goal =
      Query.someState solver.vocabulary.stateSig name)
    (hfirst : ∃ problem, solver.read (session.queries model text goal 1) = .ok problem) :
    ∃ start condition,
      (∀ bound < Text.maxWord,
        solver.read (session.queries model text goal bound) = .ok (.seeking start condition bound)) ∧
      ∀ bound problem, solver.read (session.queries model text goal bound) = .ok problem →
        problem = .seeking start condition bound ∧ bound < Text.maxWord := by
  simp only [queries, h.asking.shared] at hfirst ⊢
  obtain ⟨parts, hparts⟩ := Problem.exists_read_seeking solver.system.fields h.initPredicate
    h.stateSig h.not_path hname hgoal model.base text
  obtain ⟨problem, hfirst⟩ := hfirst
  have hone := (hparts 1).1 (by decide)
  rw [ExplicitSolver.read, hone] at hfirst
  rcases parts with e | ⟨start, condition⟩
  · cases hfirst
  · refine ⟨start, condition, fun bound hword => (hparts bound).1 hword, fun bound problem hread => ?_⟩
    by_cases hword : bound < Text.maxWord
    · rw [ExplicitSolver.read, (hparts bound).1 hword] at hread
      exact ⟨(Except.ok.inj hread).symm, hword⟩
    · obtain ⟨e, he⟩ := (hparts bound).2 hword
      rw [ExplicitSolver.read, he] at hread
      cases hread

/-- An extension by one solution presents the document of that solution. -/
theorem presents_of_extended {profile : Profile} {x y : Exploration} {bound : Nat}
    {solution : Solution} (hextended : x.Extended solver profile goal bound y)
    (honly : y.alternatives = .only solution) :
    y.Presents (x.vocabulary profile.settings).stateSig solution.document := by
  obtain ⟨-, document, hbrowsable⟩ := hextended.browsable
  obtain rfl := hbrowsable.document_eq honly
  have hown : y.ownVocabulary = x.ownVocabulary := by
    obtain ⟨-, -, -, -, hattaches⟩ := hextended
    exact hattaches.tail_eq.2.2.2.2
  have hpresents := hbrowsable.toPresents
  rwa [Exploration.vocabulary, hown] at hpresents

/-- A command that searches stops at the first hit. -/
theorem Searching.stopsFirst (h : session.Searching solver model text) {command : Command}
    {name : String} (hname : name = Query.breakName ∨ name = Query.forceName)
    (hgoal : Query.goalCommand solver.vocabulary goal =
      Query.someState solver.vocabulary.stateSig name) (hlimit : 1 ≤ limit)
    (haccepts : solver.Accepts (session.queries model text goal) limit) {missing : NoChain}
    (hexec : session.exec command = session.run fun profile =>
      Reply.bound <$> Explore.searchBounds goal missing profile 1 limit) :
    ∃ start condition, session.StopsFirst solver command (session.queries model text goal) limit
      missing start condition := by
  obtain rfl := h.solver_eq
  -- The first query is asked in any case, so it is read, and all others are read like it.
  obtain ⟨start, condition, hreads, hread⟩ := h.exists_read hname hgoal
    (haccepts 1 (Nat.le_refl 1) hlimit fun _ hpos hlt _ => by omega)
  have hqueries : session.queries model text goal = fun bound =>
      Query.render session.solver.vocabulary ⟨model.base, text, goal, bound⟩ := by
    funext bound
    rw [queries, h.asking.shared]
  have hsearch := h.asking.run_searchBounds h.room (Tuple.not_arrow_of_isName h.stateSig)
    (hqueries ▸ haccepts) (by simpa only [hqueries] using hread) missing (Nat.le_refl 1)
    (Nat.add_comm 1 limit) fun shorter hshorter => hshorter.1
  refine ⟨start, condition, ?_⟩
  rcases hsearch with ⟨found, y, hleast, hrun, honly⟩ | ⟨hnone, hrun⟩
  · have hdone : session.exec command = (.ok (.bound found), { session with exploration := y }) := by
      rw [hexec, run, Op.run_map, hrun]
    have hsame (bound : Nat) (hbound : (session.exec command).1 = .ok (.bound bound)) :
        found = bound := by
      rw [hdone] at hbound
      exact Reply.bound.inj (Except.ok.inj hbound)
    refine ⟨hreads, fun bound => ⟨fun hbound => ?_, fun hbound => ?_⟩, ⟨fun hmissing => ?_,
      fun hnone => ?_⟩, fun bound hbound => ?_, fun bound hbound views hviews => ?_⟩
    · rwa [← hsame bound hbound]
    · rw [hdone, hleast.unique hbound]
    · rw [hdone] at hmissing
      cases hmissing
    · exact absurd hleast.1 (hnone ▸ Set.notMem_empty found)
    · obtain rfl := hsame bound hbound
      have hpresents := presents_of_extended (Explore.of_searchBounds_ok hrun) honly
      rw [h.asking.shared] at hpresents
      rw [hdone]
      refine ⟨hpresents, ?_⟩
      rw [honly]
      rfl
    · obtain rfl := hsame bound hbound
      refine Problem.stopsAt_of_mem_chains session.solver.wellFormed (fun shorter hpos hshort hhit => ?_)
        hviews
      have hmost := hleast.1.2.1
      have hle := hleast.2 ⟨hpos, by omega, hhit⟩
      omega
  · have hdone : session.exec command = (.error (.unsatisfiable missing), session) := by
      rw [hexec, run, Op.run_map, hrun]
    have hnever (bound : Nat) : (session.exec command).1 ≠ .ok (.bound bound) := by
      simp [hdone]
    refine ⟨hreads, fun bound => ⟨fun hbound => absurd hbound (hnever bound), fun hbound => ?_⟩,
      ⟨fun _ => hnone, fun _ => by rw [hdone]⟩, fun bound hbound => absurd hbound (hnever bound),
      fun bound hbound => absurd hbound (hnever bound)⟩
    exact absurd hbound.1 (hnone ▸ Set.notMem_empty bound)

/-- Moving on to a breakpoint is a search for the states at breakpoints. -/
theorem exec_runUntil (hready : session.exploration.walk.stops ≠ [])
    (hexploring : session.exploration.replaying = false) (hlimit : 1 ≤ limit)
    (hbreakpoints : session.exploration.breakpoints ≠ []) :
    session.exec (.runUntil limit) = session.run fun profile => Reply.bound <$>
      Explore.searchBounds (.breakpoint session.exploration.breakpoints) (.breakpoint limit) profile 1
        limit := by
  have hstops : session.exploration.walk.stops.isEmpty = false := by simpa using hready
  have hnonzero : (limit != 0) = true := by simpa using Nat.ne_of_gt hlimit
  have hsome : session.exploration.breakpoints.isEmpty = false := by simpa using hbreakpoints
  simp [exec, run, Explore.runUntil, Op.run_map, Op.run_bind, Explore.requireReady, Op.run_require,
    hstops, hexploring, hnonzero, hsome]

/-- Forcing a transition is a search for the states that it enters. -/
theorem exec_force {name transition : String} (hready : session.exploration.walk.stops ≠ [])
    (hexploring : session.exploration.replaying = false) (hlimit : 1 ≤ limit)
    (hforce : session.profile.kind.canForce = true)
    (htransition : session.profile.kind.transition? name = some transition) :
    session.exec (.force name limit) = session.run fun profile => Reply.bound <$>
      Explore.searchBounds (.transition transition) (.transition name limit) profile 1 limit := by
  have hstops : session.exploration.walk.stops.isEmpty = false := by simpa using hready
  have hnonzero : (limit != 0) = true := by simpa using Nat.ne_of_gt hlimit
  simp [exec, run, Explore.force, Op.run_map, Op.run_bind, Explore.requireReady, Op.run_require,
    Op.run_ofOption, hstops, hexploring, hnonzero, hforce, htransition]

/-- Whether a command that searches for a goal stops at the first hit, wherever the session asks from,
unless a query is refused. -/
def FindsFirst (solver : ExplicitSolver) (session : Session ExplicitSolver) (command : Command)
    (goal : Goal) (limit : Nat) (missing : NoChain) : Prop :=
  ∃ model text, session.exploration.model = some model ∧
    session.exploration.Resumes session.profile model text ∧
    (solver.Accepts (session.queries model text goal) limit → ∃ start condition,
      session.StopsFirst solver command (session.queries model text goal) limit missing start
        condition)

/-- In every session over a transition system, outside of replays, moving on to a breakpoint and
forcing a transition stop at the first hit, as long as the vocabulary in effect is that of the
solver, it consists of names, and the state signature is not mistaken for the predicate of a step. -/
theorem execAll_findsFirst (profile : Profile) (commands : List Command)
    (hsession : session = execAll (.start solver profile) commands) (hroom : 1 ≤ solver.cap)
    (hexploring : session.exploration.replaying = false)
    (hready : session.exploration.walk.stops ≠ [])
    (hshared : session.exploration.vocabulary session.profile.settings = solver.vocabulary)
    (hinit : Text.isName solver.vocabulary.initPredicate = true)
    (hsig : Text.isName solver.vocabulary.stateSig = true)
    (hpath : ¬Query.pathName.toList <:+: solver.vocabulary.stateSig.toList) :
    (∀ limit, 1 ≤ limit → session.exploration.breakpoints ≠ [] →
      session.FindsFirst solver (.runUntil limit) (.breakpoint session.exploration.breakpoints) limit
        (.breakpoint limit)) ∧
    ∀ name transition limit, 1 ≤ limit → session.profile.kind.canForce = true →
      session.profile.kind.transition? name = some transition →
      session.FindsFirst solver (.force name limit) (.transition transition) limit
        (.transition name limit) := by
  have hreached : (session.exploration.Structured ∧ session.exploration.Modelled) ∧ True ∧
      session.solver = solver := by
    rw [hsession]
    exact execAll_induction (P := fun x => x.Structured ∧ x.Modelled) (Q := fun _ => True) trivial
      (fun _ _ _ _ => trivial) ⟨structured_empty, fun _ hsize => absurd rfl hsize⟩
      fun p _ command _ x y hx hchange =>
        ⟨hx.1.change (Vocabulary.endsCommand_of_isName hsig) hchange, hx.2.change hx.1 hchange⟩
  obtain ⟨⟨hstructured, hmodelled⟩, -, hsame⟩ := hreached
  obtain ⟨model, hmodel⟩ := hmodelled hexploring (hstructured.size_ne_zero hready)
  obtain ⟨text, hresumes⟩ := hstructured.exists_resumes hexploring hready session.profile model
  have hsearching : session.Searching solver model text :=
    ⟨hsame, ⟨hstructured, hexploring, hready, hshared, hmodel, hresumes⟩, hroom, hinit, hsig, hpath⟩
  refine ⟨fun limit hlimit hbreakpoints => ?_, fun name transition limit hlimit hforce htransition => ?_⟩
  · exact ⟨model, text, hmodel, hresumes, fun haccepts =>
      hsearching.stopsFirst (.inl rfl) rfl hlimit haccepts
        (exec_runUntil hready hexploring hlimit hbreakpoints)⟩
  · exact ⟨model, text, hmodel, hresumes, fun haccepts =>
      hsearching.stopsFirst (.inr rfl) rfl hlimit haccepts
        (exec_force hready hexploring hlimit hforce htransition)⟩

/-- A session over the traffic light that waits for green. -/
def waiting : Session ExplicitSolver :=
  execAll (.start trafficSolver ⟨.default, .plain⟩)
    [.loadModel emptyModel, .addBreakpoint "s.light = Green"]

/-- The search for green from the red light stops at the first hit. -/
theorem execAll_findsFirst_green :
    1 ≤ trafficSolver.cap ∧ waiting.exploration.replaying = false ∧
      waiting.exploration.walk.stops ≠ [] ∧
      waiting.exploration.vocabulary waiting.profile.settings = trafficSolver.vocabulary ∧
      Text.isName trafficSolver.vocabulary.initPredicate = true ∧
      Text.isName trafficSolver.vocabulary.stateSig = true ∧
      ¬Query.pathName.toList <:+: trafficSolver.vocabulary.stateSig.toList ∧
      waiting.exploration.breakpoints ≠ [] ∧ ∃ model text start condition,
        waiting.StopsFirst trafficSolver (.runUntil 1)
          (waiting.queries model text (.breakpoint waiting.exploration.breakpoints)) 1 (.breakpoint 1)
          start condition := by
  have hroom : 1 ≤ trafficSolver.cap := by decide
  have hinit : Text.isName trafficSolver.vocabulary.initPredicate = true := by decide
  have hsig : Text.isName trafficSolver.vocabulary.stateSig = true := by decide
  have hpath : ¬Query.pathName.toList <:+: trafficSolver.vocabulary.stateSig.toList := by decide
  have hshown : waiting.exploration.replaying = false ∧ waiting.exploration.walk.stops ≠ [] ∧
      waiting.exploration.vocabulary waiting.profile.settings = .default ∧
      waiting.exploration.breakpoints = ["s.light = Green"] ∧ waiting.exploration.store.size ≤ 1 ∧
      waiting.exploration.model =
        some ⟨" pred next[s, t: State] \x7b\x7d", "pred init[s: State] \x7b\x7d"⟩ := by
    decide +kernel
  obtain ⟨hexploring, hready, hshared, hbreakpoints, hfew, hmodel⟩ := hshown
  have hsome : waiting.exploration.breakpoints ≠ [] := by simp [hbreakpoints]
  have hread : ∀ bound ≤ 1, 1 ≤ bound → (trafficSolver.read (Query.render .default
      ⟨" pred next[s, t: State] \x7b\x7d", "pred init[s: State] \x7b\x7d",
        .breakpoint ["s.light = Green"], bound⟩)).isOk = true := by
    decide +kernel
  have hreached : waiting = execAll (.start trafficSolver ⟨.default, .plain⟩)
      [.loadModel emptyModel, .addBreakpoint "s.light = Green"] := rfl
  obtain ⟨model, text, hsame, hresumes, hfinds⟩ := (execAll_findsFirst _ _ hreached hroom hexploring
    hready hshared hinit hsig hpath).1 1 (Nat.le_refl 1) hsome
  refine ⟨hroom, hexploring, hready, hshared, hinit, hsig, hpath, hsome, model, text, hfinds ?_⟩
  -- Nothing was explored yet, so the search asks from the initial predicate.
  obtain rfl := Option.some.inj (hmodel.symm.trans hsame)
  cases hresumes with
  | current hmany _ => exact absurd hmany (Nat.not_lt.2 hfew)
  | initial _ =>
    refine ExplicitSolver.accepts_of_all fun bound hle hpos => ?_
    rw [queries, hshared, hbreakpoints]
    exact hread bound hle hpos

/-- A vocabulary whose state signature is called like the predicate of a step. -/
def stepNamed : Vocabulary :=
  { Vocabulary.default with
    stateSig := "trellis_path_0"
    initPredicate := "i"
    transitionRelation := "n" }

/-- Two letters, the first of which goes on to the second or stays. -/
def twoLetters : TransitionSystem where
  fields := [⟨"f", 1⟩]
  states := [⟨"x", .ofList [("f", ["A"])]⟩, ⟨"y", .ofList [("f", ["B"])]⟩]
  initial := ["x"]
  transitions := [⟨"x", "y", none⟩, ⟨"x", "x", none⟩, ⟨"y", "x", none⟩]

/-- A solver over the two letters under that vocabulary. -/
def twoLetterSolver : ExplicitSolver :=
  ⟨twoLetters, stepNamed, ExplicitSolver.usualCap, by decide⟩

/-- A model with a predicate of that name, which holds of the first letter only. -/
def twoLetterModel : String :=
  "pred trellis_path_0\x7bs.f=A\x7dpred i\x7b\x7dpred n\x7b\x7d"

/-- A session over the two letters that waits for the second one. -/
def misled : Session ExplicitSolver :=
  execAll (.start twoLetterSolver ⟨{ Settings.default with vocabulary := stepNamed }, .plain⟩)
    [.loadModel twoLetterModel, .addBreakpoint "s.f=B"]

/-- Where the state signature is called like the predicate of a step, a search may miss a state that is
entered: the condition that it asks for can be met with one transition, and it finds no chain. -/
theorem not_findsFirst_misled :
    Text.isName twoLetterSolver.vocabulary.initPredicate = true ∧
      Text.isName twoLetterSolver.vocabulary.stateSig = true ∧
      misled.exploration.replaying = false ∧ misled.exploration.walk.stops ≠ [] ∧
      misled.exploration.vocabulary misled.profile.settings = twoLetterSolver.vocabulary ∧
      misled.exploration.breakpoints ≠ [] ∧ ∃ model text problem condition,
        misled.exploration.model = some model ∧
        misled.exploration.Resumes misled.profile model text ∧
        twoLetterSolver.read (misled.queries model text
          (.breakpoint misled.exploration.breakpoints) 1) = .ok problem ∧
        problem.reach = some condition ∧ 1 ∈ twoLetterSolver.hits problem.start condition 1 ∧
        (misled.exec (.runUntil 1)).1 = .error (.unsatisfiable (.breakpoint 1)) := by
  have hshown : misled.exploration.replaying = false ∧ misled.exploration.walk.stops ≠ [] ∧
      misled.exploration.vocabulary misled.profile.settings = stepNamed ∧
      misled.exploration.breakpoints = ["s.f=B"] ∧ misled.exploration.store.size ≤ 1 ∧
      misled.exploration.model = some
        ⟨"pred trellis_path_0\x7bs.f=A\x7dpred n\x7b\x7d", "pred i\x7b\x7d"⟩ ∧
      (misled.exec (.runUntil 1)).1 = .error (.unsatisfiable (.breakpoint 1)) := by
    decide +kernel
  have hasked : (twoLetterSolver.read (Query.render stepNamed
      ⟨"pred trellis_path_0\x7bs.f=A\x7dpred n\x7b\x7d", "pred i\x7b\x7d", .breakpoint ["s.f=B"],
        1⟩)).toOption.map (fun problem => (twoLetters.starts "transTaken" problem.start,
          problem.reach.map (·.holds (.ofList [("f", ["B"])])))) =
      some ([atLetter "x" "A"], some true) := by
    decide +kernel
  obtain ⟨hexploring, hready, hshared, hbreakpoints, hfew, hmodel, hmissed⟩ := hshown
  obtain ⟨problem, hread, hparts⟩ := Option.map_eq_some_iff.1 hasked
  obtain ⟨hstarts, hmeets⟩ := Prod.mk.inj hparts
  obtain ⟨condition, hreach, hholds⟩ := Option.map_eq_some_iff.1 hmeets
  have hrun : twoLetters.Run "transTaken" problem.start (atLetter "x" "A") [⟨"x", "y", none⟩] :=
    ⟨hstarts ▸ List.mem_singleton_self _, by decide, by decide⟩
  refine ⟨by decide, by decide, hexploring, hready, hshared, by simp [hbreakpoints], _, _, problem,
    condition, hmodel, .initial hfew, ?_, hreach, ⟨Nat.le_refl 1, Nat.le_refl 1, ?_⟩, hmissed⟩
  · rw [queries, hshared, hbreakpoints]
    exact toOption_eq_some_iff.1 hread
  · exact ⟨_, _, hrun, rfl, _, List.mem_singleton_self _, atLetter "y" "B", by decide, hholds⟩

end Session

end StateExplorer
