import StateExplorer.Proofs.Session.Browsing

/-!
# Asking for chains

A session asks for chains from where it resumes. A query that is read is answered with the first
solution to its problem, and a solution with a chain of two states or more extends the walk below
the current stop.
-/

namespace StateExplorer

/-- The first solution of an answer has an instance exactly if a chain was found. -/
theorem ExplicitSolver.satisfiable_first_iff {solver : ExplicitSolver} {problem : Problem} :
    (solver.answer problem).first.satisfiable = true ↔ solver.chains problem ≠ [] := by
  simp [Solution.satisfiable, Document.first, answer, List.length_pos_iff]

/-- A query for a problem that has chains is answered with one of them. -/
theorem Exploration.exists_answers {solver : ExplicitSolver} {query : Query} {problem : Problem}
    (hsig : ¬Tuple.arrow <:+: solver.vocabulary.stateSig.toList)
    (hread : solver.read (query.render solver.vocabulary) = .ok problem)
    (hchains : solver.chains problem ≠ []) :
    ∃ chain, Answers solver solver.vocabulary query (solver.answer problem).first
      solver.system.fields chain ∧ chain.length = problem.bound + 1 := by
  have hcount : 0 < (solver.answer problem).instances.length := by
    simpa [ExplicitSolver.answer] using List.length_pos_iff.2 hchains
  obtain ⟨chain, hchain, hlength⟩ :=
    solver.exists_chain hsig (Problem.bound_lt_of_read hread) hcount
  exact ⟨chain, .intro hread (ExplicitSolver.satisfiable_first_iff.2 hchains) hchain, hlength⟩

namespace Explore

open Exploration

variable {solver : ExplicitSolver} {profile : Profile} {x : Exploration} {model : Model}
  {start : String}

/-- Chains are asked for from where the exploration resumes. -/
theorem run_resumption {σ : Type} (h : x.Resumes profile model start) (s : σ) :
    (resumption model profile).run x s = (.ok start, x, s) := by
  rw [resumption, Op.run_get_bind]
  cases h with
  | @current stop hmany hcurrent =>
    rw [if_pos hmany, Op.run_bind, current, Op.run_get_bind, hcurrent, Op.run_ofOption]
    rfl
  | initial hfew =>
    rw [if_neg (by omega)]
    rfl

/-- A query that is read is answered with the first solution to its problem. -/
theorem run_solve {goal : Goal} {bound : Nat} {problem : Problem} (hmodel : x.model = some model)
    (hresumes : x.Resumes profile model start)
    (hread : solver.read (Query.render (x.vocabulary profile.settings)
      ⟨model.base, start, goal, bound⟩) = .ok problem) :
    (solve goal bound profile).run x solver = (.ok (solver.answer problem).first, x, solver) := by
  rw [solve, Op.run_get_bind, Op.run_bind, hmodel, Op.run_ofOption]
  dsimp only
  rw [Op.run_bind, run_resumption hresumes]
  dsimp only
  rw [Op.run_ask, ExplicitSolver.run_eq, hread]
  rfl

/-- A chain of two states or more is attached below the current stop, without its first state. -/
theorem exists_run_extend {anchor : Stop} {solution : Solution} {schema : Schema}
    {first next : State} {rest : List State} (hcurrent : x.walk.current? = some anchor)
    (hhas : x.store.Has anchor.id)
    (hchain : solution.chain (x.vocabulary profile.settings).stateSig =
      .ok (schema, first :: next :: rest)) {σ : Type} (s : σ) :
    ∃ y, (extend solution profile).run x s = (.ok (), y, s) ∧
      x.Attaches (some anchor.id) (next :: rest) x.walk.commit (.only solution) y := by
  have hparent : ∀ p ∈ some anchor.id, x.store.Has p := by simpa using hhas
  obtain ⟨shown, hshown, hattach⟩ := run_attach Walk.commit (fun _ => .ok (.only solution)) hparent
    (List.cons_ne_nil next rest) rfl s
  refine ⟨_, Eq.trans ?_ hattach, .intro hparent (List.cons_ne_nil next rest) hshown⟩
  rw [extend, Op.run_bind, run_chainOf hchain]
  dsimp only
  rw [Op.run_bind, current, Op.run_get_bind, hcurrent, Op.run_ofOption]

end Explore

end StateExplorer
