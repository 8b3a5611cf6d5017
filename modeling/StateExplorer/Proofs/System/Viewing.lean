import StateExplorer.Proofs.Condition.Support
import StateExplorer.Proofs.System.Initializer

/-!
# What conditions are asked of

A solver asks its conditions of views: of what a state holds when it is entered, and of the values
that an initializer fixes. Every view has all declared fields, and a condition that names another is
refused when the query is read. So no condition that was read ever comes upon a missing field.
-/

namespace StateExplorer

/-- The views that a solver makes: what any state is seen to hold, entered under any label or none,
and the values that a condition fixes. -/
inductive ExplicitSolver.Makes (solver : ExplicitSolver) : View → Prop
  | seen (state : SystemState) (label : Option String) :
    Makes solver (solver.system.view solver.vocabulary.transitionField state label)
  | fixed {condition : Condition} {given : View}
    (h : Problem.fixedFields? solver.system.fields solver.vocabulary.transitionField condition =
      some given) : Makes solver given

namespace ExplicitSolver

variable {solver : ExplicitSolver} {view : View}

/-- A view has every declared field. -/
theorem Makes.isSome_get? (h : solver.Makes view) {name : String}
    (hname : name ∈ solver.system.fields.names) : (view.get? name).isSome = true := by
  cases h with
  | seen state label => exact TransitionSystem.isSome_get?_view.2 hname
  | fixed h =>
    obtain ⟨found, -, hgiven⟩ := Problem.of_fixedFields?_eq_some h
    rw [hgiven, if_pos hname, Option.isSome_or, Option.isSome_some, Bool.or_true]

/-- Where chains of a query start, the solver has made the view. -/
theorem makes_of_mem_starts {text : String} {problem : Problem} (hread : solver.read text = .ok problem)
    {leg : Leg}
    (h : leg ∈ solver.system.starts solver.vocabulary.transitionField problem.start) :
    solver.Makes leg.view := by
  obtain ⟨condition, -, hstart⟩ := Problem.of_read_eq_ok hread
  cases hcase : problem.start with
  | matching asked =>
    rw [hcase] at h
    obtain ⟨state, -, rfl⟩ := List.mem_map.1 (List.mem_filter.1 h).1
    exact .seen state none
  | fixed given =>
    rw [hcase] at h
    obtain ⟨state, -, rfl⟩ := List.mem_map.1 h
    exact .fixed (Problem.fixedFields?_of_startOf (hstart.symm.trans hcase))

/-- Where a transition leads, the solver has made the view. -/
theorem makes_of_mem_moves {source : SystemState} {leg : Leg}
    (h : leg ∈ solver.system.moves solver.vocabulary.transitionField source) :
    solver.Makes leg.view := by
  obtain ⟨t, -, -, -, hview⟩ := TransitionSystem.mem_moves_iff.1 h
  rw [hview]
  exact .seen leg.state t.label

end ExplicitSolver

/-- A condition depends on nothing but the sets of the fields that it names: it holds alike of all
states that show them the same. The conditions that a solver reads name only fields that all views of
its searches have, so what they answer never rests on a missing field. -/
theorem holds_of_named_fields :
    (∀ (condition : Condition) (a b : NameMap (List String)),
      (∀ field ∈ condition.fields, SameSet a b field) → condition.holds a = condition.holds b) ∧
    ∀ solver : ExplicitSolver,
      (∀ text name condition,
        Problem.conditionOf solver.system.fields text name = .ok condition →
          ∀ view, solver.Makes view →
            (∀ field ∈ condition.fields, (view.get? field).isSome = true) ∧
              condition.ask? view = some (condition.holds view)) ∧
      ∀ text problem, solver.read text = .ok problem →
        ∀ leg, (leg ∈ solver.system.starts solver.vocabulary.transitionField problem.start ∨
            ∃ source, leg ∈ solver.system.moves solver.vocabulary.transitionField source) →
          solver.Makes leg.view := by
  refine ⟨fun condition a b h => Condition.holds_congr h, fun solver => ⟨?_, ?_⟩⟩
  · intro text name condition hcondition view hview
    obtain ⟨-, hdeclared⟩ := Problem.exists_parse_of_conditionOf hcondition
    have hpresent : ∀ field ∈ condition.fields, (view.get? field).isSome = true :=
      fun field hfield => hview.isSome_get? (hdeclared field hfield)
    exact ⟨hpresent, Condition.ask?_eq_some hpresent⟩
  · rintro text problem hread leg (hstart | ⟨source, hmove⟩)
    · exact ExplicitSolver.makes_of_mem_starts hread hstart
    · exact ExplicitSolver.makes_of_mem_moves hmove

/-- The light is red and green, or nobody waits. -/
def mixedOrIdle : Condition :=
  .any [.equals "light" ["Green", "Red"], .isEmpty "queue"]

/-- A light that is red, green and red once more, and something else. -/
def disordered : NameMap (List String) :=
  .ofList [("light", ["Red", "Green", "Red"]), ("other", ["x"])]

/-- A light that is green and red. -/
def ordered : NameMap (List String) := .ofList [("light", ["Green", "Red"])]

/-- What the traffic light is seen to hold at red. -/
def redView : View :=
  trafficLight.view "transTaken" ⟨"red", .ofList [("light", ["Red"])]⟩ none

set_option maxRecDepth 4000 in
/-- A condition holds alike of a state in order and one in disorder, and the condition of a query for
the traffic light finds the one field that it names. -/
theorem holds_of_named_fields_traffic :
    ((∀ field ∈ mixedOrIdle.fields, SameSet disordered ordered field) ∧
      mixedOrIdle.holds disordered = mixedOrIdle.holds ordered) ∧
    ∃ condition, Problem.conditionOf trafficLight.fields redText.toList "init" = .ok condition ∧
      condition.fields = ["light"] ∧ (redView.get? "light").isSome = true ∧
      condition.ask? redView = some true := by
  obtain ⟨hcongr, hsolver⟩ := holds_of_named_fields
  have hsame : ∀ field ∈ mixedOrIdle.fields, SameSet disordered ordered field := by
    have hlight : SameSet disordered ordered "light" :=
      Option.Rel.some (a := ["Red", "Green", "Red"]) (b := ["Green", "Red"]) fun v => by
        simp only [List.mem_cons, List.not_mem_nil, or_false]
        tauto
    have hqueue : SameSet disordered ordered "queue" := Option.Rel.none
    exact List.forall_mem_cons.2 ⟨hlight, List.forall_mem_singleton.2 hqueue⟩
  have hread : (Problem.conditionOf trafficLight.fields redText.toList "init").toOption.map
      (fun condition => (condition.fields, condition.holds redView)) = some (["light"], true) := by
    decide +kernel
  obtain ⟨condition, hcondition, hanswer⟩ := Option.map_eq_some_iff.1 hread
  obtain ⟨hfields, hholds⟩ := Prod.mk.inj hanswer
  obtain ⟨hpresent, hask⟩ := (hsolver trafficSolver).1 _ _ _ (toOption_eq_some_iff.1 hcondition) redView
    (.seen _ none)
  refine ⟨⟨hsame, hcongr _ _ _ hsame⟩, condition, toOption_eq_some_iff.1 hcondition, hfields,
    hpresent "light" (hfields ▸ List.mem_singleton_self _), ?_⟩
  rw [hask, hholds]

end StateExplorer
