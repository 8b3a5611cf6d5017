import Mathlib.Logic.Relation
import StateExplorer.Proofs.Session.Atomicity
import StateExplorer.Proofs.Session.Steadiness

/-!
# What a command can change

Every command that succeeds changes the exploration in one of a few ways: a model or a trace is
loaded, the cursor of a replay moves, a chain is attached below the current state or in place of
the provisional tail, the initial state is shown anew, a stored state is gone to, or a walk is
retraced, which is made up of some of these. Each way is stated with all that was checked for it,
so an invariant of sessions is proved by looking at these ways only.
-/

namespace StateExplorer

namespace Exploration

variable {solver : ExplicitSolver} {profile : Profile} {x y : Exploration}

/-- Whether chains are asked for from a predicate: the constraint of the current state, or the
initial predicate as long as there is one stored state at most. -/
inductive Resumes (profile : Profile) (model : Model) (x : Exploration) : String → Prop
  | current {stop : Stop} (many : 1 < x.store.size) (current : x.walk.current? = some stop) :
      Resumes profile model x (stop.state.constraint x.schema
        (x.vocabulary profile.settings).initPredicate (x.vocabulary profile.settings).stateSig)
  | initial (few : x.store.size ≤ 1) : Resumes profile model x model.init

/-- Whether a solver answers a query with a solution, and that with a chain. -/
inductive Answers (solver : ExplicitSolver) (vocabulary : Vocabulary) (query : Query) :
    Solution → Schema → List State → Prop
  | intro {problem : Problem} {schema : Schema} {chain : List State}
      (read_eq : solver.read (query.render vocabulary) = .ok problem)
      (satisfiable : (solver.answer problem).first.satisfiable = true)
      (chain_eq : (solver.answer problem).first.chain vocabulary.stateSig = .ok (schema, chain)) :
      Answers solver vocabulary query (solver.answer problem).first schema chain

/-- Whether a model was loaded. -/
inductive ModelLoaded (solver : ExplicitSolver) (profile : Profile) (text : String)
    (x : Exploration) : Exploration → Prop
  | intro {own : Option Vocabulary} {model : Model} {solution : Solution} {schema : Schema}
      {chain : List State} {scopes : NameMap (List String)} {shown : List Stop}
      (own_eq : Vocabulary.embedded text = .ok own)
      (model_eq : Model.parse text (own.getD profile.settings.vocabulary) = .ok model)
      (answers : Answers solver (own.getD profile.settings.vocabulary)
        ⟨model.base, model.init, .initial, 0⟩ solution schema chain)
      (chain_ne : chain ≠ [])
      (stops_eq : (Store.rooted (own.getD profile.settings.vocabulary).transitionField chain).stops
        (List.range' 1 chain.length) = .ok shown) :
      ModelLoaded solver profile text x
        { x with
          ownVocabulary := own
          model := some model
          schema := schema
          scopes := scopes
          store := .rooted (own.getD profile.settings.vocabulary).transitionField chain
          walk := Walk.empty.extend shown
          alternatives := .only solution
          replaying := false }

/-- Whether a trace was loaded. -/
inductive TraceLoaded (profile : Profile) (trace : Document) (x : Exploration) :
    Exploration → Prop
  | intro {schema : Schema} {chain : List State} {scopes : NameMap (List String)}
      {shown : List Stop}
      (chain_eq : trace.first.chain profile.settings.vocabulary.stateSig = .ok (schema, chain))
      (chain_ne : chain ≠ [])
      (stops_eq : (Store.rooted profile.settings.vocabulary.transitionField chain).stops
        (List.range' 1 chain.length) = .ok shown) :
      TraceLoaded profile trace x
        { x with
          ownVocabulary := none
          model := none
          schema := schema
          scopes := scopes
          store := .rooted profile.settings.vocabulary.transitionField chain
          walk := { Walk.committed shown with cursor := 0 }
          alternatives := .empty
          replaying := true }

/-- Whether nothing but the cursor of a replay moved. -/
inductive Replayed (x : Exploration) (cursor : Nat) : Exploration → Prop
  | intro (replaying : x.replaying = true) :
      Replayed x cursor { x with walk := { x.walk with cursor := cursor } }

/-- Whether the tail was kept and the answer to a goal attached below the current state. -/
inductive Extended (solver : ExplicitSolver) (profile : Profile) (goal : Goal) (bound : Nat)
    (x : Exploration) : Exploration → Prop
  | intro {y : Exploration} {model : Model} {start : String} {solution : Solution}
      {schema : Schema} {first next : State} {rest : List State} {anchor : Stop}
      (model_eq : x.model = some model)
      (resumes : x.Resumes profile model start)
      (answers : Answers solver (x.vocabulary profile.settings) ⟨model.base, start, goal, bound⟩
        solution schema (first :: next :: rest))
      (current : x.walk.current? = some anchor)
      (attaches : x.Attaches (some anchor.id) (next :: rest) x.walk.commit (.only solution) y) :
      Extended solver profile goal bound x y

/-- Whether the chain of another solution was put in place of the tail, as a new root where it has
one state only. -/
inductive Alternated (profile : Profile) (reverse : Bool) (x : Exploration) : Exploration → Prop
  | root {y : Exploration} {solution : Solution} {schema : Schema} {only : State}
      {alternatives : Alternatives}
      (ready : x.walk.stops ≠ [])
      (chosen_eq : Explore.chosen x.alternatives reverse = .ok solution)
      (turned_eq : Explore.turned solution reverse x.alternatives = .ok alternatives)
      (chain_eq : solution.chain (x.vocabulary profile.settings).stateSig = .ok (schema, [only]))
      (attaches : x.Attaches none [only] x.walk.rollback alternatives y) :
      Alternated profile reverse x y
  | tail {y : Exploration} {solution : Solution} {schema : Schema} {first next : State}
      {rest : List State} {anchor : Stop} {alternatives : Alternatives}
      (ready : x.walk.stops ≠ [])
      (chosen_eq : Explore.chosen x.alternatives reverse = .ok solution)
      (turned_eq : Explore.turned solution reverse x.alternatives = .ok alternatives)
      (chain_eq : solution.chain (x.vocabulary profile.settings).stateSig =
        .ok (schema, first :: next :: rest))
      (anchor_eq : Explore.anchor? x.walk = some anchor)
      (attaches : x.Attaches (some anchor.id) (next :: rest) x.walk.rollback alternatives y) :
      Alternated profile reverse x y

/-- Whether the initial state was asked for again and is shown under the number one. -/
inductive Restarted (solver : ExplicitSolver) (profile : Profile) (x : Exploration) :
    Exploration → Prop
  | intro {model : Model} {solution : Solution} {schema : Schema} {first : State}
      {rest : List State}
      (ready : x.walk.stops ≠ [])
      (model_eq : x.model = some model)
      (answers : Answers solver (x.vocabulary profile.settings)
        ⟨model.base, model.init, .initial, 0⟩ solution schema (first :: rest)) :
      Restarted solver profile x
        { x with
          walk := Walk.empty.extend [⟨1, first⟩]
          alternatives := .only solution }

/-- Whether the walk became the route to a stored state. -/
inductive Moved (id : Nat) (x : Exploration) : Exploration → Prop
  | intro {node : Node} {shown : List Stop}
      (node_eq : x.store.node? id = some node)
      (route_ne : node.route ≠ [])
      (stops_eq : x.store.stops node.route = .ok shown) :
      Moved id x { x with walk := .committed shown, alternatives := .empty }

/-- Whether the states some steps back were found again. -/
inductive FoundAgain (solver : ExplicitSolver) (profile : Profile) (steps : Nat)
    (x : Exploration) : Exploration → Prop
  | replayed {y : Exploration} (replayed : x.Replayed (x.walk.cursor - steps) y) :
      FoundAgain solver profile steps x y
  | restarted {y : Exploration} (exploring : x.replaying = false) (short : x.walk.cursor ≤ steps)
      (restarted : x.Restarted solver profile y) : FoundAgain solver profile steps x y
  | extended {y : Exploration} (exploring : x.replaying = false) (long : steps < x.walk.cursor)
      (extended : Extended solver profile (.path []) 1
        { x with walk := x.walk.retreat (steps + 1) false } y) :
      FoundAgain solver profile steps x y

/-- Whether a stop of the walk was found anew, by browsing from the states before it. -/
inductive Retraced (solver : ExplicitSolver) (profile : Profile) (steps : Nat) (x : Exploration) :
    Exploration → Prop
  | intro {y z : Exploration} {target : Stop}
      (target_eq : x.walk.stops[x.walk.cursor - steps]? = some target)
      (found : x.FoundAgain solver profile steps y)
      (browsed : Relation.ReflTransGen (Alternated profile false) y z)
      (there : Explore.isElsewhere target.state z = false) :
      Retraced solver profile steps x
        ({ z with walk := z.walk.renumber target.id }.recorded [])

/-- The ways in which a command that succeeds changes the exploration. -/
inductive Change (solver : ExplicitSolver) (profile : Profile) (x : Exploration) :
    Command → Exploration → Prop
  | model {text : String} {y : Exploration} (loaded : x.ModelLoaded solver profile text y) :
      Change solver profile x (.loadModel text) y
  | trace {trace : Document} {y : Exploration} (loaded : x.TraceLoaded profile trace y) :
      Change solver profile x (.loadTrace trace) y
  | replay {command : Command} {cursor : Nat} {y : Exploration} (replayed : x.Replayed cursor y) :
      Change solver profile x command y
  | extend {command : Command} {goal : Goal} {bound : Nat} {y : Exploration}
      (exploring : x.replaying = false) (extended : x.Extended solver profile goal bound y) :
      Change solver profile x command y
  | alternate {command : Command} {reverse : Bool} {y : Exploration}
      (alternated : x.Alternated profile reverse y) : Change solver profile x command y
  | restart {command : Command} {y : Exploration} (exploring : x.replaying = false)
      (restarted : x.Restarted solver profile y) : Change solver profile x command y
  | move {command : Command} {id : Nat} {y : Exploration} (exploring : x.replaying = false)
      (moved : x.Moved id y) : Change solver profile x command y
  | retrace {command : Command} {steps : Nat} {y : Exploration}
      (retraced : x.Retraced solver profile steps y) : Change solver profile x command y
  | breakpoints {command : Command} (list : List String) :
      Change solver profile x command { x with breakpoints := list }

/-- An alternative neither starts nor ends a replay. -/
theorem Alternated.replaying_eq {reverse : Bool} (h : x.Alternated profile reverse y) :
    x.walk.stops ≠ [] ∧ y.replaying = x.replaying := by
  cases h with
  | root hready _ _ _ hattaches =>
    obtain ⟨-, -, -⟩ := hattaches
    exact ⟨hready, rfl⟩
  | tail hready _ _ _ _ hattaches =>
    obtain ⟨-, -, -⟩ := hattaches
    exact ⟨hready, rfl⟩

/-- Browsing neither starts nor ends a replay. -/
theorem replaying_of_browsed
    (h : Relation.ReflTransGen (Alternated profile false) x y) : y.replaying = x.replaying := by
  induction h with
  | refl => rfl
  | tail _ halternated ih => exact halternated.replaying_eq.2.trans ih

/-- An extension needs a stop to be attached under. -/
theorem Extended.ready {goal : Goal} {bound : Nat} (h : x.Extended solver profile goal bound y) :
    x.walk.stops ≠ [] := by
  obtain ⟨-, -, -, hcurrent, -⟩ := h
  rintro hnil
  simp [Walk.current?, hnil] at hcurrent

/-- An extension neither starts nor ends a replay. -/
theorem Extended.replaying_eq {goal : Goal} {bound : Nat}
    (h : x.Extended solver profile goal bound y) : y.replaying = x.replaying := by
  obtain ⟨-, -, -, -, hattaches⟩ := h
  obtain ⟨-, -, -⟩ := hattaches
  rfl

/-- Going back neither starts nor ends a replay. -/
theorem Retraced.replaying_eq {steps : Nat} (h : x.Retraced solver profile steps y) :
    y.replaying = x.replaying := by
  obtain ⟨-, hfound, hbrowsed, -⟩ := h
  refine (replaying_of_browsed hbrowsed).trans ?_
  cases hfound with
  | replayed hreplayed =>
    obtain ⟨-⟩ := hreplayed
    rfl
  | restarted _ _ hrestarted =>
    obtain ⟨-, -, -⟩ := hrestarted
    rfl
  | extended _ _ hextended => exact hextended.replaying_eq

/-- Only a trace that is loaded starts a replay. -/
theorem Change.replaying_eq_false {command : Command}
    (h : x.Change solver profile command y) (hcommand : ∀ trace, command ≠ .loadTrace trace)
    (hexploring : x.replaying = false) : y.replaying = false := by
  cases h with
  | model hloaded =>
    obtain ⟨-, -, -, -, -⟩ := hloaded
    rfl
  | trace hloaded => exact absurd rfl (hcommand _)
  | replay hreplayed =>
    obtain ⟨-⟩ := hreplayed
    exact hexploring
  | extend _ hextended => exact hextended.replaying_eq.trans hexploring
  | alternate halternated => exact halternated.replaying_eq.2.trans hexploring
  | restart _ hrestarted =>
    obtain ⟨-, -, -⟩ := hrestarted
    exact hexploring
  | move _ hmoved =>
    obtain ⟨-, -, -⟩ := hmoved
    exact hexploring
  | retrace hretraced => exact hretraced.replaying_eq.trans hexploring
  | breakpoints list => exact hexploring

end Exploration

/-- In a replay an advance moves the cursor. -/
theorem Walk.of_advance_eq_ok {walk next : Walk} {steps : Nat}
    (h : walk.advance steps true = .ok next) :
    next = { walk with cursor := walk.cursor + steps } := by
  simp only [advance, if_true] at h
  split at h
  · exact (Except.ok.inj h).symm
  · simp at h

namespace Explore

open Exploration

variable {solver t : ExplicitSolver} {profile : Profile} {x y : Exploration} {u : Unit}

/-- A steady operation ends with the solver it started with. -/
theorem solver_eq {α : Type} {op : Op ExplicitSolver α} [hop : Op.Steady op]
    {r : Except SessionError α} (h : op.run x solver = (r, y, t)) : t = solver := by
  have := hop.solver_eq x solver
  rwa [h] at this

/-- After a steady part that only reads, everything is still as it was. -/
theorem of_reads_bind_ok {α β : Type} {op : Op ExplicitSolver α} [Op.Steady op] (hop : op.Reads)
    {next : α → Op ExplicitSolver β} {b : β} (h : (op >>= next).run x solver = (.ok b, y, t)) :
    ∃ a, op.run x solver = (.ok a, x, solver) ∧ (next a).run x solver = (.ok b, y, t) := by
  obtain ⟨a, z, s, hrun, hnext⟩ := Op.of_bind_ok h
  have hz := hop.eq hrun
  have hs := solver_eq hrun
  exact ⟨a, by rw [hrun, hz, hs], by rw [← hz, ← hs, hnext]⟩

/-- What is ready has a stop. -/
theorem of_requireReady_ok (h : requireReady.run x solver = (.ok u, y, t)) :
    x.walk.stops ≠ [] := by
  rw [requireReady, Op.run_get_bind] at h
  simpa using (Op.of_require_ok h).1

/-- The current stop is the one under the cursor. -/
theorem of_current_ok {stop : Stop} (h : current.run x solver = (.ok stop, y, t)) :
    x.walk.current? = some stop :=
  (Op.of_ofOption_ok h).1

/-- A chain is decoded under the vocabulary in effect. -/
theorem of_chainOf_ok {solution : Solution} {chain : List State}
    (h : (chainOf profile solution).run x solver = (.ok chain, y, t)) :
    ∃ schema, solution.chain (x.vocabulary profile.settings).stateSig = .ok (schema, chain) := by
  rw [chainOf, Op.run_get_bind] at h
  have hchain := (Op.of_ofExcept_ok h).1
  match hdecoded : solution.chain (x.vocabulary profile.settings).stateSig with
  | .ok (schema, found) =>
    rw [hdecoded] at hchain
    exact ⟨schema, by rw [← Except.ok.inj hchain]⟩
  | .error e => simp [hdecoded, Except.map] at hchain

/-- Chains start where the exploration resumes. -/
theorem of_resumption_ok {model : Model} {start : String}
    (h : (resumption model profile).run x solver = (.ok start, y, t)) :
    x.Resumes profile model start := by
  rw [resumption, Op.run_get_bind] at h
  split at h
  · rename_i hmany
    obtain ⟨stop, hcurrent, h⟩ := of_reads_bind_ok reads_current h
    obtain rfl := Except.ok.inj (Prod.mk.inj h).1
    exact .current hmany (of_current_ok hcurrent)
  · rename_i hfew
    obtain rfl := Except.ok.inj (Prod.mk.inj h).1
    exact .initial (by omega)

/-- A query that was answered is read as a problem, which the solution answers. -/
theorem of_ask_ok {query : String} {solution : Solution}
    (h : (Op.ask query).run x solver = (.ok solution, y, t)) :
    ∃ problem, solver.read query = .ok problem ∧ solution = (solver.answer problem).first := by
  obtain ⟨document, hrun, rfl, -⟩ := Op.of_ask_ok h
  rw [ExplicitSolver.run_eq] at hrun
  cases hread : solver.read query with
  | error e => simp [hread, Except.mapError, Except.map] at hrun
  | ok problem =>
    simp only [hread, Except.mapError, Except.map, Prod.mk.injEq, Except.ok.injEq] at hrun
    exact ⟨problem, rfl, by rw [← hrun.1]⟩

/-- A chain of two states or more is attached below the current state. -/
theorem of_extend_ok {solution : Solution}
    (h : (extend solution profile).run x solver = (.ok u, y, t)) :
    ∃ schema first next rest anchor,
      solution.chain (x.vocabulary profile.settings).stateSig =
        .ok (schema, first :: next :: rest) ∧
      x.walk.current? = some anchor ∧
      x.Attaches (some anchor.id) (next :: rest) x.walk.commit (.only solution) y := by
  obtain ⟨chain, hchain, h⟩ := of_reads_bind_ok (reads_chainOf profile solution) h
  obtain ⟨schema, hchain⟩ := of_chainOf_ok hchain
  match chain with
  | first :: next :: rest =>
    obtain ⟨anchor, hcurrent, h⟩ := of_reads_bind_ok reads_current h
    obtain ⟨alternatives, hturn, hattaches, -⟩ := of_attach_ok h
    obtain rfl : Alternatives.only solution = alternatives := Except.ok.inj hturn
    exact ⟨schema, first, next, rest, anchor, hchain, of_current_ok hcurrent, hattaches⟩
  | [] => simp at h
  | [_] => simp at h

/-- A solution answers the query that resumes from where the exploration is. -/
theorem of_solve_ok {goal : Goal} {bound : Nat} {solution : Solution}
    (h : (solve goal bound profile).run x solver = (.ok solution, y, t)) :
    ∃ model start problem, x.model = some model ∧ x.Resumes profile model start ∧
      solver.read (Query.render (x.vocabulary profile.settings)
        ⟨model.base, start, goal, bound⟩) = .ok problem ∧
      solution = (solver.answer problem).first := by
  rw [solve, Op.run_get_bind] at h
  obtain ⟨model, hmodel, h⟩ := of_reads_bind_ok (Op.reads_ofOption _ _) h
  obtain ⟨start, hstart, h⟩ := of_reads_bind_ok (reads_resumption model profile) h
  obtain ⟨problem, hread, hsolution⟩ := of_ask_ok h
  exact ⟨model, start, problem, (Op.of_ofOption_ok hmodel).1, of_resumption_ok hstart, hread,
    hsolution⟩

/-- A solution that was found extends the walk. -/
theorem extended_of_ok {goal : Goal} {bound : Nat} {solution : Solution}
    (hsolve : (solve goal bound profile).run x solver = (.ok solution, x, solver))
    (hsatisfiable : solution.satisfiable = true)
    (hextend : (extend solution profile).run x solver = (.ok u, y, t)) :
    x.Extended solver profile goal bound y := by
  obtain ⟨model, start, problem, hmodel, hresumes, hread, rfl⟩ := of_solve_ok hsolve
  obtain ⟨schema, first, next, rest, anchor, hchain, hanchor, hattaches⟩ := of_extend_ok hextend
  exact .intro hmodel hresumes (.intro hread hsatisfiable hchain) hanchor hattaches

/-- A step moves the cursor of a replay or extends the walk. -/
theorem of_step_ok {steps : Nat} {constraints : List String}
    (h : (step steps constraints profile).run x solver = (.ok u, y, t)) :
    x.Replayed (x.walk.cursor + steps) y ∨
      x.replaying = false ∧ x.Extended solver profile (.path constraints) steps y := by
  obtain ⟨_, -, h⟩ := of_reads_bind_ok reads_requireReady h
  obtain ⟨_, -, h⟩ := of_reads_bind_ok (Op.reads_require _ _) h
  rw [Op.run_get_bind] at h
  split at h
  · rename_i hreplaying
    rw [advance, Op.run_get_bind] at h
    obtain ⟨_, -, h⟩ := of_reads_bind_ok (Op.reads_require _ _) h
    obtain ⟨walk, hwalk, h⟩ := of_reads_bind_ok (Op.reads_ofExcept _ _) h
    have hwalk := (Op.of_ofExcept_ok hwalk).1
    obtain rfl := (Prod.mk.inj (Prod.mk.inj h).2).1
    rw [Walk.of_advance_eq_ok hwalk]
    exact .inl (.intro hreplaying)
  · rename_i hexploring
    obtain ⟨solution, hsolve, h⟩ := of_reads_bind_ok (reads_solve _ _ _) h
    obtain ⟨_, hsatisfiable, h⟩ := of_reads_bind_ok (Op.reads_require _ _) h
    exact .inr ⟨by simpa using hexploring,
      extended_of_ok hsolve (Op.of_require_ok hsatisfiable).1 h⟩

/-- A search extends the walk by the answer for one of the bounds. -/
theorem of_searchBounds_ok {goal : Goal} {missing : NoChain} {bound left found : Nat}
    (h : (searchBounds goal missing profile bound left).run x solver = (.ok found, y, t)) :
    x.Extended solver profile goal found y := by
  induction left generalizing bound with
  | zero => simp [searchBounds] at h
  | succ left ih =>
    obtain ⟨solution, hsolve, h⟩ := of_reads_bind_ok (reads_solve _ _ _) h
    split at h
    · rename_i hsatisfiable
      obtain ⟨_, z, s, hextend, h⟩ := Op.of_bind_ok h
      obtain ⟨rfl, rfl, rfl⟩ : bound = found ∧ z = y ∧ s = t := by simpa using h
      exact extended_of_ok hsolve hsatisfiable hextend
    · exact ih h

/-- Moving on to a breakpoint extends the walk. -/
theorem of_runUntil_ok {limit found : Nat}
    (h : (runUntil limit profile).run x solver = (.ok found, y, t)) :
    x.replaying = false ∧ ∃ goal, x.Extended solver profile goal found y := by
  obtain ⟨_, -, h⟩ := of_reads_bind_ok reads_requireReady h
  rw [Op.run_get_bind] at h
  obtain ⟨_, hexploring, h⟩ := of_reads_bind_ok (Op.reads_require _ _) h
  obtain ⟨_, -, h⟩ := of_reads_bind_ok (Op.reads_require _ _) h
  obtain ⟨_, -, h⟩ := of_reads_bind_ok (Op.reads_require _ _) h
  exact ⟨by simpa using (Op.of_require_ok hexploring).1, _, of_searchBounds_ok h⟩

/-- Forcing a transition extends the walk. -/
theorem of_force_ok {name : String} {limit found : Nat}
    (h : (force name limit profile).run x solver = (.ok found, y, t)) :
    x.replaying = false ∧ ∃ goal, x.Extended solver profile goal found y := by
  obtain ⟨_, -, h⟩ := of_reads_bind_ok reads_requireReady h
  obtain ⟨_, -, h⟩ := of_reads_bind_ok (Op.reads_require _ _) h
  rw [Op.run_get_bind] at h
  obtain ⟨_, hexploring, h⟩ := of_reads_bind_ok (Op.reads_require _ _) h
  obtain ⟨_, -, h⟩ := of_reads_bind_ok (Op.reads_require _ _) h
  obtain ⟨transition, -, h⟩ := of_reads_bind_ok (Op.reads_ofOption _ _) h
  exact ⟨by simpa using (Op.of_require_ok hexploring).1, _, of_searchBounds_ok h⟩

/-- An alternative is put in place of the tail. -/
theorem of_alternate_ok {reverse : Bool}
    (h : (alternate reverse profile).run x solver = (.ok u, y, t)) :
    x.Alternated profile reverse y := by
  obtain ⟨_, hready, h⟩ := of_reads_bind_ok reads_requireReady h
  have hready := of_requireReady_ok hready
  rw [Op.run_get_bind] at h
  obtain ⟨solution, hchosen, h⟩ := of_reads_bind_ok (Op.reads_ofExcept _ _) h
  have hchosen := (Op.of_ofExcept_ok hchosen).1
  obtain ⟨chain, hchain, h⟩ := of_reads_bind_ok (reads_chainOf profile solution) h
  obtain ⟨schema, hchain⟩ := of_chainOf_ok hchain
  match chain with
  | [] => simp at h
  | [only] =>
    obtain ⟨alternatives, hturned, hattaches, -⟩ := of_attach_ok h
    exact .root hready hchosen hturned hchain hattaches
  | first :: next :: rest =>
    simp only [Op.run_get_bind] at h
    obtain ⟨anchor, hanchor, h⟩ := of_reads_bind_ok (Op.reads_ofOption _ _) h
    obtain ⟨alternatives, hturned, hattaches, -⟩ := of_attach_ok h
    exact .tail hready hchosen hturned hchain (Op.of_ofOption_ok hanchor).1 hattaches

/-- A reset moves the cursor of a replay or shows the initial state anew. -/
theorem of_reset_ok (h : (reset profile).run x solver = (.ok u, y, t)) :
    x.Replayed 0 y ∨ x.replaying = false ∧ x.Restarted solver profile y := by
  obtain ⟨_, hready, h⟩ := of_reads_bind_ok reads_requireReady h
  rw [Op.run_get_bind] at h
  split at h
  · rename_i hreplaying
    obtain rfl := (Prod.mk.inj (Prod.mk.inj h).2).1
    rw [Walk.retreat, if_pos rfl, Nat.sub_self]
    exact .inl (.intro hreplaying)
  · rename_i hexploring
    obtain ⟨model, hmodel, h⟩ := of_reads_bind_ok (Op.reads_ofOption _ _) h
    obtain ⟨solution, hask, h⟩ := of_reads_bind_ok (reads_askInitial _ _) h
    obtain ⟨problem, hread, rfl⟩ := of_ask_ok hask
    obtain ⟨_, hsatisfiable, h⟩ := of_reads_bind_ok (Op.reads_require _ _) h
    obtain ⟨chain, hchain, h⟩ := of_reads_bind_ok (reads_chainOf profile _) h
    obtain ⟨schema, hchain⟩ := of_chainOf_ok hchain
    match chain with
    | [] => simp at h
    | first :: rest =>
      obtain rfl := (Prod.mk.inj (Prod.mk.inj h).2).1
      exact .inr ⟨by simpa using hexploring, .intro (of_requireReady_ok hready)
        (Op.of_ofOption_ok hmodel).1 (.intro hread (Op.of_require_ok hsatisfiable).1 hchain)⟩

/-- A recorded route is in the store. -/
theorem of_recordRoute_ok {id length : Nat}
    (h : (recordRoute id length).run x solver = (.ok u, y, t)) :
    y = { x with store := (x.store.recordRoute id (x.walk.ids.take length)).2 } := by
  rw [recordRoute, Op.run_get_bind] at h
  obtain ⟨fresh, z, s, hwrite, h⟩ := Op.of_bind_ok h
  rw [run_writeStore] at hwrite
  have hz := (Prod.mk.inj (Prod.mk.inj hwrite).2).1
  rw [hz]
  exact (Prod.mk.inj (Prod.mk.inj h).2).1.symm

/-- The walk is recorded as the route to the stop under the cursor. -/
theorem of_recordRoutes_nil_ok (h : (recordRoutes []).run x solver = (.ok u, y, t)) :
    y = x.recorded [] := by
  rw [recordRoutes, Op.run_bind, run_recordRoutesTo (by simp)] at h
  simp only [Op.run_get_bind] at h
  have hstore : x.recorded [] = { x with store := x.store.recordCursor x.walk } := rfl
  rw [hstore, Store.recordCursor]
  rcases Option.eq_none_or_eq_some x.walk.current? with hnone | ⟨stop, hstop⟩
  · rw [hnone] at h ⊢
    exact (Prod.mk.inj (Prod.mk.inj h).2).1.symm
  · rw [hstop] at h ⊢
    exact of_recordRoute_ok h

/-- How many solutions are left to browse. -/
def left (x : Exploration) : Nat :=
  (x.alternatives.top?.map Solution.remaining).getD 0

/-- One more alternative is one solution less to browse. -/
theorem left_of_alternated (h : x.Alternated profile false y) : left y + 1 = left x := by
  have hcount {solution : Solution} {alternatives : Alternatives}
      (hchosen : chosen x.alternatives false = .ok solution)
      (hturned : turned solution false x.alternatives = .ok alternatives) :
      (alternatives.top?.map Solution.remaining).getD 0 + 1 = left x := by
    match hshown : x.alternatives with
    | ⟨[]⟩ => simp [chosen, hshown, Alternatives.top?] at hchosen
    | ⟨top :: rest⟩ =>
      obtain rfl : (⟨solution :: top :: rest⟩ : Alternatives) = alternatives := by
        simpa [turned, hshown, Alternatives.push] using hturned
      simp only [chosen, hshown, Alternatives.top?, List.head?_cons] at hchosen
      unfold Solution.next? at hchosen
      by_cases hnext : top.index + 1 < top.document.instances.length
      · obtain rfl : ⟨top.document, top.index + 1⟩ = solution := by simpa [hnext] using hchosen
        simp only [left, hshown, Alternatives.top?, List.head?_cons, Option.map_some,
          Option.getD_some, Solution.remaining]
        omega
      · simp [hnext] at hchosen
  cases h with
  | root _ hchosen hturned _ hattaches =>
    obtain ⟨-, -, -⟩ := hattaches
    exact hcount hchosen hturned
  | tail _ hchosen hturned _ _ hattaches =>
    obtain ⟨-, -, -⟩ := hattaches
    exact hcount hchosen hturned

/-- Browsing with turns for all solutions that are left ends where the wanted state is shown. -/
theorem of_seek_ok {wanted : State} {turns : Nat} (hturns : left x < turns)
    (h : (seek wanted profile turns).run x solver = (.ok u, y, t)) :
    Relation.ReflTransGen (Alternated profile false) x y ∧ isElsewhere wanted y = false := by
  induction turns generalizing x with
  | zero => omega
  | succ turns ih =>
    rw [seek, Op.run_get_bind] at h
    split at h
    · obtain ⟨_, z, s, halternate, hrest⟩ := Op.of_bind_ok h
      obtain rfl := solver_eq halternate
      have halternated := of_alternate_ok halternate
      have hleft := left_of_alternated halternated
      obtain ⟨hbrowsed, hthere⟩ := ih (by omega) hrest
      exact ⟨.head halternated hbrowsed, hthere⟩
    · rename_i hthere
      obtain rfl := (Prod.mk.inj (Prod.mk.inj h).2).1
      exact ⟨.refl, by simpa using hthere⟩

/-- The states before the wanted one are found again. -/
theorem of_findAgain_ok {steps : Nat} (h : (findAgain steps profile).run x solver = (.ok u, y, t)) :
    x.FoundAgain solver profile steps y := by
  rw [findAgain, Op.run_get_bind] at h
  split at h
  · rename_i hshort
    rcases of_reset_ok h with hreplayed | ⟨hexploring, hrestarted⟩
    · exact .replayed (by rwa [Nat.sub_eq_zero_of_le hshort])
    · exact .restarted hexploring hshort hrestarted
  · rename_i hlong
    obtain ⟨_, z, s, hset, hrest⟩ := Op.of_bind_ok h
    obtain rfl := (Prod.mk.inj (Prod.mk.inj hset).2).1
    obtain rfl := solver_eq hset
    rcases of_step_ok hrest with hreplayed | ⟨hexploring, hextended⟩
    · obtain ⟨hreplaying⟩ := hreplayed
      have hwalk : ({ x.walk.retreat (steps + 1) x.replaying with
          cursor := (x.walk.retreat (steps + 1) x.replaying).cursor + 1 } : Walk) =
          { x.walk with cursor := x.walk.cursor - steps } := by
        rw [show x.replaying = true from hreplaying]
        simp only [Walk.retreat, if_true, Walk.mk.injEq, true_and]
        omega
      change x.FoundAgain s profile steps { x with
        walk := { x.walk.retreat (steps + 1) x.replaying with
          cursor := (x.walk.retreat (steps + 1) x.replaying).cursor + 1 } }
      rw [hwalk]
      exact .replayed (.intro hreplaying)
    · have hexploring : x.replaying = false := hexploring
      have hwalk : x.walk.retreat (steps + 1) x.replaying = x.walk.retreat (steps + 1) false := by
        rw [hexploring]
      rw [hwalk] at hextended
      exact .extended hexploring (by omega) hextended

/-- A walk is retraced. -/
theorem of_retrace_ok {steps : Nat} (h : (retrace steps profile).run x solver = (.ok u, y, t)) :
    x.Retraced solver profile steps y := by
  rw [retrace, Op.run_get_bind] at h
  obtain ⟨target, htarget, h⟩ := of_reads_bind_ok (Op.reads_ofOption _ _) h
  obtain ⟨_, z, s, hfound, hsettle⟩ := Op.of_bind_ok h
  obtain rfl := solver_eq hfound
  rw [settle, Op.run_get_bind] at hsettle
  obtain ⟨_, w, s, hseek, hrenumber⟩ := Op.of_bind_ok hsettle
  obtain rfl := solver_eq hseek
  obtain ⟨hbrowsed, hthere⟩ := of_seek_ok (Nat.lt_succ_self _) hseek
  obtain ⟨_, v, s, hupdate, hrecord⟩ := Op.of_bind_ok hrenumber
  obtain rfl := (Prod.mk.inj (Prod.mk.inj hupdate).2).1
  rw [of_recordRoutes_nil_ok hrecord]
  exact .intro (Op.of_ofOption_ok htarget).1 (of_findAgain_ok hfound) hbrowsed hthere

/-- Going back retraces the walk. -/
theorem of_reverseStep_ok {steps : Nat}
    (h : (reverseStep steps profile).run x solver = (.ok u, y, t)) :
    x.Retraced solver profile steps y := by
  obtain ⟨_, -, h⟩ := of_reads_bind_ok reads_requireReady h
  obtain ⟨_, -, h⟩ := of_reads_bind_ok (Op.reads_require _ _) h
  rw [Op.run_restoring] at h
  split at h
  · rename_i hretrace
    obtain ⟨rfl, rfl, rfl⟩ := by simpa using h
    exact of_retrace_ok hretrace
  · simp at h

/-- Going to a stored state moves the cursor of a replay or takes the state's route. -/
theorem of_moveTo_ok {id : Nat} (h : (moveTo id profile).run x solver = (.ok u, y, t)) :
    (∃ cursor, x.Replayed cursor y) ∨ x.replaying = false ∧ x.Moved id y := by
  obtain ⟨_, -, h⟩ := of_reads_bind_ok reads_requireReady h
  rw [Op.run_get_bind] at h
  obtain ⟨node, hnode, h⟩ := of_reads_bind_ok (Op.reads_ofExcept _ _) h
  have hnode := (Op.of_ofExcept_ok hnode).1
  split at h
  · rename_i hreplaying
    rw [seekStop, Op.run_get_bind] at h
    obtain ⟨_, -, h⟩ := of_reads_bind_ok (Op.reads_require _ _) h
    dsimp only at h
    split at h
    · obtain rfl := (Prod.mk.inj (Prod.mk.inj h).2).1
      simp only [Walk.retreat, if_true]
      exact .inl ⟨_, .intro hreplaying⟩
    · obtain ⟨walk, hwalk, h⟩ := of_reads_bind_ok (Op.reads_ofExcept _ _) h
      obtain rfl := (Prod.mk.inj (Prod.mk.inj h).2).1
      rw [Walk.of_advance_eq_ok (Op.of_ofExcept_ok hwalk).1]
      exact .inl ⟨_, .intro hreplaying⟩
  · rename_i hexploring
    obtain ⟨_, hroute, h⟩ := of_reads_bind_ok (Op.reads_require _ _) h
    obtain ⟨shown, hshown, h⟩ := of_reads_bind_ok (Op.reads_ofExcept _ _) h
    obtain rfl := (Prod.mk.inj (Prod.mk.inj h).2).1
    refine .inr ⟨by simpa using hexploring, ?_⟩
    exact .intro (Store.of_node_eq_ok hnode) (by simpa using (Op.of_require_ok hroute).1)
      (Op.of_ofExcept_ok hshown).1

/-- A model that was loaded has an initial state. -/
theorem of_loadModel_ok {text : String}
    (h : (loadModel text profile).run x solver = (.ok u, y, t)) :
    x.ModelLoaded solver profile text y := by
  unfold loadModel at h
  obtain ⟨own, hown, h⟩ := of_reads_bind_ok (Op.reads_ofExcept _ _) h
  dsimp only at h
  obtain ⟨model, hmodel, h⟩ := of_reads_bind_ok (Op.reads_ofExcept _ _) h
  obtain ⟨solution, hask, h⟩ := of_reads_bind_ok (reads_askInitial _ _) h
  obtain ⟨problem, hread, rfl⟩ := of_ask_ok hask
  obtain ⟨_, hsatisfiable, h⟩ := of_reads_bind_ok (Op.reads_require _ _) h
  obtain ⟨⟨schema, chain⟩, hchain, h⟩ := of_reads_bind_ok (Op.reads_ofExcept _ _) h
  obtain ⟨scopes, -, h⟩ := of_reads_bind_ok (Op.reads_ofExcept _ _) h
  obtain ⟨stored, hstored, h⟩ := of_reads_bind_ok (Op.reads_ofExcept _ _) h
  obtain ⟨hne, rfl⟩ := Store.of_storeOf_eq_ok (Op.of_ofExcept_ok hstored).1
  obtain ⟨shown, hshown, h⟩ := of_reads_bind_ok (Op.reads_ofExcept _ _) h
  obtain rfl := (Prod.mk.inj (Prod.mk.inj h).2).1
  exact .intro (Op.of_ofExcept_ok hown).1 (Op.of_ofExcept_ok hmodel).1
    (.intro hread (Op.of_require_ok hsatisfiable).1 (Op.of_ofExcept_ok hchain).1) hne
    (Op.of_ofExcept_ok hshown).1

/-- A trace that was loaded has a state. -/
theorem of_loadTrace_ok {trace : Document}
    (h : (loadTrace trace profile).run x solver = (.ok u, y, t)) :
    x.TraceLoaded profile trace y := by
  unfold loadTrace at h
  dsimp only at h
  obtain ⟨_, -, h⟩ := of_reads_bind_ok (Op.reads_require _ _) h
  obtain ⟨⟨schema, chain⟩, hchain, h⟩ := of_reads_bind_ok (Op.reads_ofExcept _ _) h
  obtain ⟨scopes, -, h⟩ := of_reads_bind_ok (Op.reads_ofExcept _ _) h
  obtain ⟨stored, hstored, h⟩ := of_reads_bind_ok (Op.reads_ofExcept _ _) h
  obtain ⟨hne, rfl⟩ := Store.of_storeOf_eq_ok (Op.of_ofExcept_ok hstored).1
  obtain ⟨shown, hshown, h⟩ := of_reads_bind_ok (Op.reads_ofExcept _ _) h
  obtain rfl := (Prod.mk.inj (Prod.mk.inj h).2).1
  exact .intro (Op.of_ofExcept_ok hchain).1 hne (Op.of_ofExcept_ok hshown).1

end Explore

namespace Session

open Exploration Explore

/-- An operation leaves the exploration of a session if it fails, and changes it as it succeeds. -/
theorem run_change {α β : Type} {f : α → β} (session : Session ExplicitSolver) (command : Command)
    {op : Profile → Op ExplicitSolver α} (hatomic : (op session.profile).Atomic session.exploration)
    (hok : ∀ a y t, (op session.profile).run session.exploration session.solver = (.ok a, y, t) →
      session.exploration.Change session.solver session.profile command y) :
    (session.run fun profile => f <$> op profile).2.exploration = session.exploration ∨
      session.exploration.Change session.solver session.profile command
        (session.run fun profile => f <$> op profile).2.exploration := by
  have hexploration : (session.run fun profile => f <$> op profile).2.exploration =
      ((op session.profile).run session.exploration session.solver).2.1 := by
    simp only [run, Op.run_map]
    split <;> simp_all
  rw [hexploration]
  rcases hrun : (op session.profile).run session.exploration session.solver with ⟨e | a, y, t⟩
  · have hsame := hatomic session.solver e (by rw [hrun])
    rw [hrun] at hsame
    exact .inl hsame
  · exact .inr (hok a y t hrun)

/-- A command leaves the exploration or changes it in one of the known ways. -/
theorem exec_change (session : Session ExplicitSolver) (command : Command) :
    (session.exec command).2.exploration = session.exploration ∨
      session.exploration.Change session.solver session.profile command
        (session.exec command).2.exploration := by
  cases command with
  | loadModel text =>
    exact run_change session _ (atomic_loadModel _ _) fun _ _ _ h => .model (of_loadModel_ok h)
  | loadTrace trace =>
    exact run_change session _ (atomic_loadTrace _ _) fun _ _ _ h => .trace (of_loadTrace_ok h)
  | step steps constraints =>
    refine run_change session _ (atomic_step _ _ _) fun _ _ _ h => ?_
    rcases of_step_ok h with hreplayed | ⟨hexploring, hextended⟩
    · exact .replay hreplayed
    · exact .extend hexploring hextended
  | runUntil limit =>
    refine run_change session _ (atomic_runUntil _ _) fun _ _ _ h => ?_
    obtain ⟨hexploring, goal, hextended⟩ := of_runUntil_ok h
    exact .extend hexploring hextended
  | force transition limit =>
    refine run_change session _ (atomic_force _ _ _) fun _ _ _ h => ?_
    obtain ⟨hexploring, goal, hextended⟩ := of_force_ok h
    exact .extend hexploring hextended
  | alternate reverse =>
    exact run_change session _ (atomic_alternate _ _) fun _ _ _ h => .alternate (of_alternate_ok h)
  | reverseStep steps =>
    exact run_change session _ (atomic_reverseStep _ _) fun _ _ _ h =>
      .retrace (of_reverseStep_ok h)
  | moveTo id =>
    refine run_change session _ (atomic_moveTo _ _) fun _ _ _ h => ?_
    rcases of_moveTo_ok h with ⟨cursor, hreplayed⟩ | ⟨hexploring, hmoved⟩
    · exact .replay hreplayed
    · exact .move hexploring hmoved
  | reset =>
    refine run_change session _ (atomic_reset _) fun _ _ _ h => ?_
    rcases of_reset_ok h with hreplayed | ⟨hexploring, hrestarted⟩
    · exact .replay hreplayed
    · exact .restart hexploring hrestarted
  | activate label =>
    refine run_change session _ (atomic_activate _ _) fun _ _ _ h => ?_
    unfold activate at h
    split at h
    · rcases of_moveTo_ok h with ⟨cursor, hreplayed⟩ | ⟨hexploring, hmoved⟩
      · exact .replay hreplayed
      · exact .move hexploring hmoved
    · obtain ⟨_, -, h⟩ := of_reads_bind_ok (Op.reads_require _ _) h
      obtain ⟨bound, z, t, hforce, hdone⟩ := Op.of_bind_ok h
      obtain ⟨hexploring, goal, hextended⟩ := of_force_ok hforce
      obtain rfl := (Prod.mk.inj (Prod.mk.inj hdone).2).1
      exact .extend hexploring hextended
  | validate constraint =>
    refine .inl ?_
    have hreads := reads_validate constraint session.profile session.exploration session.solver
    simp only [exec, perform, run, Op.run_map]
    split <;> simp_all
  | addBreakpoint constraint =>
    refine run_change session _ (atomic_addBreakpoint _ _) fun _ _ _ h => ?_
    obtain ⟨_, -, h⟩ := of_reads_bind_ok (reads_validate _ _) h
    obtain rfl := (Prod.mk.inj (Prod.mk.inj h).2).1
    exact .breakpoints _
  | removeBreakpoint index =>
    refine run_change session _ (atomic_removeBreakpoint _ _) fun _ _ _ h => ?_
    rw [removeBreakpoint, Op.run_get_bind] at h
    obtain ⟨removed, -, h⟩ := of_reads_bind_ok (Op.reads_ofOption _ _) h
    obtain rfl := (Prod.mk.inj (Prod.mk.inj h).2).1
    exact .breakpoints _
  | clearBreakpoints => exact .inr (.breakpoints [])
  | setVocabulary vocabulary => exact .inl rfl
  | setDiffMode on => exact .inl rfl

/-- A profile with another vocabulary in its settings. -/
def withVocabulary (profile : Profile) (vocabulary : Vocabulary) : Profile :=
  { profile with settings := { profile.settings with vocabulary := vocabulary } }

/-- A command leaves the profile of a session unless it sets the vocabulary. -/
theorem exec_profile (session : Session ExplicitSolver) (command : Command) :
    (session.exec command).2.profile = session.profile ∨ ∃ vocabulary,
      command = .setVocabulary vocabulary ∧
        (session.exec command).2.profile = withVocabulary session.profile vocabulary := by
  cases command with
  | setVocabulary vocabulary => exact .inr ⟨vocabulary, rfl, rfl⟩
  | _ => exact .inl rfl

/-- What holds of an exploration, and through every change, holds after every run from there. The
changes may rely on what the vocabularies that are set keep, which holds at the end as well, and on
the solver, which stays the same. -/
theorem execAll_preserves {P : Exploration → Prop} {Q : Profile → Prop}
    {session : Session ExplicitSolver} {commands : List Command} (hprofile : Q session.profile)
    (hset : ∀ vocabulary, .setVocabulary vocabulary ∈ commands →
      ∀ p, Q p → Q (withVocabulary p vocabulary))
    (hstart : P session.exploration)
    (hchange : ∀ p, Q p → ∀ command ∈ commands, ∀ x y, P x →
      x.Change session.solver p command y → P y) :
    P (execAll session commands).exploration ∧ Q (execAll session commands).profile ∧
      (execAll session commands).solver = session.solver := by
  induction commands generalizing session with
  | nil => exact ⟨hstart, hprofile, rfl⟩
  | cons command rest ih =>
    have hsolver := exec_solver session command
    have hafter : P (session.exec command).2.exploration := by
      rcases exec_change session command with hsame | hchanged
      · rwa [hsame]
      · exact hchange _ hprofile command List.mem_cons_self _ _ hstart hchanged
    have hkept : Q (session.exec command).2.profile := by
      rcases exec_profile session command with hsame | ⟨vocabulary, rfl, hother⟩
      · rwa [hsame]
      · rw [hother]
        exact hset vocabulary List.mem_cons_self _ hprofile
    obtain ⟨hP, hQ, hsame⟩ := ih hkept
      (fun vocabulary hmem => hset vocabulary (List.mem_cons_of_mem _ hmem)) hafter
      (fun p hp c hc => by
        rw [hsolver]
        exact hchange p hp c (List.mem_cons_of_mem _ hc))
    exact ⟨hP, hQ, hsame.trans hsolver⟩

/-- What holds of an exploration before anything is loaded, and through every change, holds after
every run of a session. -/
theorem execAll_induction {P : Exploration → Prop} {Q : Profile → Prop} {solver : ExplicitSolver}
    {profile : Profile} {commands : List Command} (hprofile : Q profile)
    (hset : ∀ vocabulary, .setVocabulary vocabulary ∈ commands →
      ∀ p, Q p → Q (withVocabulary p vocabulary))
    (hempty : P .empty)
    (hchange : ∀ p, Q p → ∀ command ∈ commands, ∀ x y, P x → x.Change solver p command y → P y) :
    P (execAll (.start solver profile) commands).exploration ∧
      Q (execAll (.start solver profile) commands).profile ∧
      (execAll (.start solver profile) commands).solver = solver :=
  execAll_preserves hprofile hset hempty hchange

end Session

end StateExplorer
