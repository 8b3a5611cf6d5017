import StateExplorer.Proofs.Session.Appending
import StateExplorer.Proofs.Session.Forest

/-!
# Going back cuts the walk short

Going back does not cut the walk: it drops one stop too many, asks for what comes next, browses
until the wanted state is shown and puts that under the old number. What is left is the walk as it
was up to the wanted stop, and a store that was only added to. Browsing is a loop without a bound;
every turn takes up one of the solutions that are left, so it ends, and the bound that it is given
here is never what ends it.
-/

namespace StateExplorer

namespace Explore

variable {σ : Type}

/-- What browsing for a state comes to if nothing but the state, or a turn that fails, ends it, and
how many turns it takes. -/
inductive Browsed (wanted : State) (profile : Profile) :
    Exploration → σ → (turns : Nat) → Except SessionError Unit × Exploration × σ → Prop
  | there {x : Exploration} {s : σ} (there : isElsewhere wanted x = false) :
      Browsed wanted profile x s 0 (.ok (), x, s)
  | fails {x y : Exploration} {s t : σ} {e : SessionError} (elsewhere : isElsewhere wanted x = true)
      (turn : (alternate false profile).run x s = (.error e, y, t)) :
      Browsed wanted profile x s 1 (.error e, y, t)
  | goes {x y : Exploration} {s t : σ} {turns : Nat}
      {outcome : Except SessionError Unit × Exploration × σ}
      (elsewhere : isElsewhere wanted x = true)
      (turn : (alternate false profile).run x s = (.ok (), y, t))
      (rest : Browsed wanted profile y t turns outcome) :
      Browsed wanted profile x s (turns + 1) outcome

variable {solver t : ExplicitSolver} {profile : Profile} {x y : Exploration}

/-- Browsing ends, after no more turns than there are solutions left and one that fails, with what
as many turns come to. -/
theorem browsed_seek (wanted : State) (profile : Profile) (x : Exploration)
    (solver : ExplicitSolver) : ∃ turns ≤ left x + 1,
      Browsed wanted profile x solver turns ((seek wanted profile (left x + 1)).run x solver) := by
  generalize hleft : left x = n
  induction n generalizing x solver with
  | zero =>
    rw [seek, Op.run_get_bind]
    cases helsewhere : isElsewhere wanted x with
    | false => exact ⟨0, Nat.zero_le _, .there helsewhere⟩
    | true =>
      rw [if_pos rfl, Op.run_bind]
      rcases hturn : (alternate false profile).run x solver with ⟨e | ⟨⟩, y, t⟩
      · exact ⟨1, Nat.le_refl 1, .fails helsewhere hturn⟩
      · -- Nothing was left, so no turn succeeds.
        have hless := left_of_alternated (of_alternate_ok hturn)
        omega
  | succ n ih =>
    rw [seek, Op.run_get_bind]
    cases helsewhere : isElsewhere wanted x with
    | false => exact ⟨0, Nat.zero_le _, .there helsewhere⟩
    | true =>
      rw [if_pos rfl, Op.run_bind]
      rcases hturn : (alternate false profile).run x solver with ⟨e | ⟨⟩, y, t⟩
      · exact ⟨1, by omega, .fails helsewhere hturn⟩
      · have hless := left_of_alternated (of_alternate_ok hturn)
        obtain ⟨turns, hturns, hbrowsed⟩ := ih y t (by omega)
        exact ⟨turns + 1, by omega, .goes helsewhere hturn hbrowsed⟩

end Explore

namespace Exploration

variable {solver : ExplicitSolver} {profile : Profile} {x y : Exploration} {steps : Nat}

/-- Whether a walk was cut short so many states back from its cursor, in content: what is left of
it is shown as it was, its last stop is the current one and the only provisional one, there are
alternatives, and the store was only added to. -/
structure Truncated (steps : Nat) (x y : Exploration) : Prop where
  stops_eq : y.walk.stops = x.walk.stops.take (x.walk.cursor - steps + 1)
  cursor_eq : y.walk.cursor = x.walk.cursor - steps
  length_eq : y.walk.stops.length = y.walk.cursor + 1
  provisional_eq : y.walk.provisional = 1
  alternatives_ne : y.alternatives.depth ≠ 0
  appended : x.store.Appended y.store

/-- Where the states before a stop are kept and one is found after them, showing it as the stop
leaves the walk up to there. -/
theorem Browses.truncated {old : Store} {z : Exploration} {target : Stop}
    (h : Browses old (x.walk.stops.take (x.walk.cursor - steps)) z)
    (htarget : x.walk.stops[x.walk.cursor - steps]? = some target)
    (hthere : Explore.isElsewhere target.state z = false)
    (happended : x.store.Appended
      (({ z with walk := z.walk.renumber target.id } : Exploration).recorded []).store) :
    x.Truncated steps (({ z with walk := z.walk.renumber target.id } : Exploration).recorded []) := by
  have hwalk : (({ z with walk := z.walk.renumber target.id } : Exploration).recorded []).walk =
      ⟨x.walk.stops.take (x.walk.cursor - steps) ++ [target], z.walk.provisional, z.walk.cursor⟩ :=
    h.renumber_eq hthere
  have htake : x.walk.stops.take (x.walk.cursor - steps) ++ [target] =
      x.walk.stops.take (x.walk.cursor - steps + 1) := by
    rw [List.take_add_one, htarget]
    rfl
  obtain ⟨shown, hstops⟩ := h.stops
  have hcursor := h.structured.cursor h.exploring (by simp [hstops])
  have hlt := (List.getElem?_eq_some_iff.1 htarget).1
  rw [hstops, List.length_append, List.length_take, List.length_singleton] at hcursor
  refine ⟨by rw [hwalk, ← htake], ?_, ?_, by rw [hwalk]; exact h.provisional,
    fun hdepth => ?_, happended⟩
  · rw [hwalk]
    dsimp only
    omega
  · rw [hwalk]
    simp only [List.length_append, List.length_take, List.length_singleton]
    omega
  · have hnone := (h.structured.alternatives h.exploring).1 hdepth
    rw [h.provisional] at hnone
    cases hnone

/-- A walk that is retraced is cut short. -/
theorem Structured.truncated (h : x.Structured)
    (hvocabulary : solver.vocabulary.endsCommand = true) (hexploring : x.replaying = false)
    (hretraced : x.Retraced solver profile steps y) (happended : x.store.Appended y.store) :
    x.Truncated steps y := by
  obtain ⟨htarget, hfound, hbrowsed, hthere⟩ := hretraced
  cases hfound with
  | replayed hreplayed =>
    obtain ⟨hreplaying⟩ := hreplayed
    exact Bool.noConfusion (hexploring.symm.trans hreplaying)
  | restarted _ hshort hrestarted =>
    refine (?_ : Browses x.store _ _).truncated htarget hthere happended
    rw [Nat.sub_eq_zero_of_le hshort, List.take_zero]
    exact (h.browses_of_restarted hexploring hrestarted).browsed hbrowsed
  | extended _ hlong hextended =>
    exact ((h.browses_of_extended hvocabulary hexploring hlong hextended).browsed
      hbrowsed).truncated htarget hthere happended

/-- What was found again is the first of the solver's solutions, and all others are left. -/
theorem FoundAgain.exists_left (h : x.FoundAgain solver profile steps y)
    (hexploring : x.replaying = false) : ∃ problem,
      y.alternatives = .only (solver.answer problem).first ∧
        Explore.left y + 1 = (solver.answer problem).instances.length := by
  have hcount {problem : Problem} (hsatisfiable : (solver.answer problem).first.satisfiable = true)
      (hy : y.alternatives = .only (solver.answer problem).first) :
      Explore.left y + 1 = (solver.answer problem).instances.length := by
    have hpos : 0 < (solver.answer problem).instances.length := of_decide_eq_true hsatisfiable
    rw [Explore.left, hy]
    simp only [Alternatives.only, Alternatives.top?, List.head?_cons, Option.map_some,
      Option.getD_some, Solution.remaining, Document.first]
    omega
  cases h with
  | replayed hreplayed =>
    obtain ⟨hreplaying⟩ := hreplayed
    exact Bool.noConfusion (hexploring.symm.trans hreplaying)
  | restarted _ _ hrestarted =>
    obtain ⟨-, -, hanswers⟩ := hrestarted
    obtain ⟨-, hsatisfiable, -⟩ := hanswers
    exact ⟨_, rfl, hcount hsatisfiable rfl⟩
  | extended _ _ hextended =>
    obtain ⟨-, -, hanswers, -, hattaches⟩ := hextended
    obtain ⟨-, hsatisfiable, -⟩ := hanswers
    obtain ⟨-, -, -⟩ := hattaches
    exact ⟨_, rfl, hcount hsatisfiable rfl⟩

end Exploration

namespace Session

/-- Going back so many steps from the cursor, if it succeeds, leaves in content the walk up to the
stop there, which is the current one and can be browsed, and a store that was only added to. And it
ends in any case: what is browsed are the solutions to one query, and the loop takes no more turns
than there are of them. It holds in every session over a transition system that replays no trace,
unless the state signature of the solver holds a command. -/
theorem execAll_truncates (solver : ExplicitSolver) (profile : Profile) (commands : List Command)
    (hvocabulary : solver.vocabulary.endsCommand = true) {session : Session ExplicitSolver}
    (hsession : execAll (.start solver profile) commands = session)
    (hexploring : session.exploration.replaying = false) (steps : Nat) :
    (∀ reply, (session.exec (.reverseStep steps)).1 = .ok reply →
      session.exploration.Truncated steps (session.exec (.reverseStep steps)).2.exploration) ∧
    ∀ wanted y t, (Explore.findAgain steps session.profile).run session.exploration
        session.solver = (.ok (), y, t) →
      ∃ problem, y.alternatives = .only (solver.answer problem).first ∧
        ∃ turns ≤ (solver.answer problem).instances.length,
          Explore.Browsed wanted session.profile y t turns
            ((Explore.seek wanted session.profile (Explore.left y + 1)).run y t) := by
  have hsolver : session.solver = solver := by
    rw [← hsession]
    exact (execAll_induction (P := fun _ => True) (Q := fun _ => True) trivial
      (fun _ _ _ _ => trivial) trivial fun _ _ _ _ _ _ _ _ => trivial).2.2
  have hstructured := structured_of_execAll profile commands hvocabulary
  have hsettled : (execAll (.start solver profile) commands).exploration.store.Settled :=
    execAll_settled (Store.settled_empty none) commands
  rw [hsession] at hstructured hsettled
  refine ⟨fun reply hreply => ?_, fun wanted y t hfound => ?_⟩
  · have hperform : session.perform (Explore.reverseStep steps) =
        (.ok reply, (session.exec (.reverseStep steps)).2) := Prod.ext hreply rfl
    have hretraced := Explore.of_reverseStep_ok (of_perform_eq_ok hperform)
    rw [hsolver] at hretraced
    have hgrown := exec_grown hsettled (.reverseStep steps) fun hloads => by cases hloads
    exact hstructured.truncated hvocabulary hexploring hretraced hgrown.appended
  · rw [hsolver] at hfound
    obtain rfl := Explore.solver_eq hfound
    obtain ⟨problem, halternatives, hleft⟩ :=
      (Explore.of_findAgain_ok hfound).exists_left hexploring
    obtain ⟨turns, hturns, hbrowsed⟩ := Explore.browsed_seek wanted session.profile y t
    exact ⟨problem, halternatives, turns, hleft ▸ hturns, hbrowsed⟩

/-- A session at the third state of the traffic light. -/
def thirdLight : Session ExplicitSolver :=
  execAll (.start trafficSolver ⟨.default, .plain⟩) [.loadModel emptyModel, .step 2 []]

/-- Over the traffic light, going back from the third state leaves the first two. -/
theorem execAll_truncates_traffic :
    trafficSolver.vocabulary.endsCommand = true ∧ thirdLight.exploration.replaying = false ∧
      thirdLight.exploration.walk.ids = [1, 2, 3] ∧
      (thirdLight.exec (.reverseStep 1)).1 = .ok .done ∧
      thirdLight.exploration.Truncated 1 (thirdLight.exec (.reverseStep 1)).2.exploration := by
  obtain ⟨hexploring, hids, hdone⟩ : thirdLight.exploration.replaying = false ∧
      thirdLight.exploration.walk.ids = [1, 2, 3] ∧
      (thirdLight.exec (.reverseStep 1)).1 = .ok .done := by
    decide +kernel
  have hsession : execAll (.start trafficSolver ⟨.default, .plain⟩)
      [.loadModel emptyModel, .step 2 []] = thirdLight := rfl
  have htruncates := execAll_truncates trafficSolver ⟨.default, .plain⟩ _ (by decide) hsession
    hexploring 1
  exact ⟨by decide, hexploring, hids, hdone, htruncates.1 _ hdone⟩

/-- The lamp has no fault. -/
theorem faults_lamp : lamp.faults = [] := by
  decide

/-- A session over the lamp under a vocabulary that holds a command for three states. -/
def thirdLamp : Session ExplicitSolver :=
  execAll (.start ⟨lamp, commanding, 64, faults_lamp⟩
    ⟨{ Settings.default with vocabulary := commanding }, .plain⟩) [.loadModel emptyModel]

/-- Where the state signature holds a command, going back from the third state of the lamp leaves
three states, the last of them under the number of the second one. -/
theorem not_truncated_lamp :
    thirdLamp.exploration.walk.ids = [1, 2, 3] ∧ thirdLamp.exploration.walk.cursor = 2 ∧
      (thirdLamp.exec (.reverseStep 1)).1 = .ok .done ∧
      (thirdLamp.exec (.reverseStep 1)).2.exploration.walk.ids = [1, 4, 2] ∧
      ¬thirdLamp.exploration.Truncated 1 (thirdLamp.exec (.reverseStep 1)).2.exploration := by
  obtain ⟨hids, hcursor, hdone, hback⟩ : thirdLamp.exploration.walk.ids = [1, 2, 3] ∧
      thirdLamp.exploration.walk.cursor = 2 ∧
      (thirdLamp.exec (.reverseStep 1)).1 = .ok .done ∧
      (thirdLamp.exec (.reverseStep 1)).2.exploration.walk.ids = [1, 4, 2] := by
    decide +kernel
  refine ⟨hids, hcursor, hdone, hback, fun h => ?_⟩
  have hstops := congrArg (List.map (·.id)) h.stops_eq
  rw [List.map_take, hcursor] at hstops
  rw [Walk.ids] at hids hback
  rw [hids, hback] at hstops
  exact absurd hstops (by decide)

end Session

end StateExplorer
