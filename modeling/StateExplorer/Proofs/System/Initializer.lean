import StateExplorer.Proofs.Query.Resumption
import StateExplorer.Proofs.System.Chains

/-!
# What the initializer asks of the first state

A condition that is no conjunction of equations over all fields is asked of every initial state, so
chains start where it holds. A conjunction of equations is not asked again: chains start with what
it fixes. Where two of its equations give one field different sets, the later one is taken and the
condition does not hold of it, since it holds of nothing; in every other case it does.
-/

namespace StateExplorer

/-- Whether values are given for exactly the fields of a schema. -/
def Schema.Assigns (schema : Schema) (values : NameMap (List String)) : Prop :=
  ∀ name, (values.get? name).isSome = true ↔ name ∈ schema.names

/-- Of entries that give a name the same value wherever they list it, this value is bound. -/
theorem NameMap.get?_ofList_of_agree {α : Type} {entries : List (String × α)} {name : String}
    {value : α} (hmem : (name, value) ∈ entries) (h : ∀ v, (name, v) ∈ entries → v = value) :
    (ofList entries).get? name = some value := by
  have hfold : ∀ m : NameMap α, (name, value) ∈ entries ∨ m.get? name = some value →
      (entries.foldl (fun m e => m.insert e.1 e.2) m).get? name = some value := by
    clear hmem
    induction entries with
    | nil => simp
    | cons e rest ih =>
      intro m hm
      refine ih (fun v hv => h v (List.mem_cons_of_mem _ hv)) _ ?_
      rw [get?_insert]
      by_cases hname : name = e.1
      · subst hname
        exact .inr (by rw [if_pos rfl, h e.2 List.mem_cons_self])
      · rw [if_neg hname]
        refine hm.imp_left fun hmem => ?_
        rcases List.mem_cons.1 hmem with rfl | hrest
        · exact absurd rfl hname
        · exact hrest
  exact hfold empty (.inl hmem)

namespace Problem

/-- The condition of a predicate was read, and is over declared fields. -/
theorem exists_parse_of_conditionOf {fields : Schema} {text : List Char} {name : String}
    {condition : Condition} (h : conditionOf fields text name = .ok condition) :
    (∃ body, Condition.parse body = .ok condition) ∧
      ∀ field ∈ condition.fields, field ∈ fields.names := by
  unfold conditionOf at h
  split at h
  · cases h
  · cases h
  · rename_i body hbody
    split at h
    · cases h
    · rename_i found hparse
      split at h
      · cases h
      · rename_i hdeclared
        obtain rfl := Except.ok.inj h
        refine ⟨⟨_, hparse⟩, fun field hfield => ?_⟩
        have hfound := List.find?_eq_none.1 hdeclared field hfield
        exact Schema.declares_iff.1 (by simpa using hfound)

/-- What equations fix satisfies them, unless two of them clash. -/
theorem holds_of_fixedFields? {fields : Schema} {transitionField : String} {condition : Condition}
    (hsets : condition.OverSets) {given : NameMap (List String)}
    (h : fixedFields? fields transitionField condition = some given) :
    condition.holds given = true ↔ ¬condition.Clashes := by
  refine ⟨fun hholds hclash => hclash.not_holds given hholds, fun hclash => ?_⟩
  obtain ⟨found, hfound, hgiven⟩ := of_fixedFields?_eq_some h
  refine (Condition.holds_iff_of_equations? hfound).2 fun e he => ?_
  have hset : valueSet e.2 = e.2 := by
    have hpart : Condition.equals e.1 e.2 ∈ condition.conjuncts := by
      rw [Condition.conjuncts_of_equations? hfound]
      exact List.mem_map_of_mem he
    cases hsets.of_mem_conjuncts _ hpart with
    | equals hset => exact hset
  have hbound : (NameMap.ofList found).get? e.1 = some e.2 := by
    refine NameMap.get?_ofList_of_agree he fun v hv => ?_
    by_contra hne
    exact hclash ⟨found, hfound, e.1, v, e.2, hv, he, hne⟩
  rw [hgiven, hbound, Option.some_or, Option.map_some, hset]

end Problem

namespace TransitionSystem

variable {system : TransitionSystem} {transitionField : String}

/-- A view gives values for exactly the fields of the system. -/
theorem assigns_view (state : SystemState) (label : Option String) :
    system.fields.Assigns (system.view transitionField state label) :=
  fun _ => isSome_get?_view

/-- Where chains start, values are given for exactly the fields of the system, and the condition
that says where holds of them unless it clashes. -/
theorem constrains_of_mem_starts {condition : Condition} (hsets : condition.OverSets)
    (hdeclared : ∀ field ∈ condition.fields, field ∈ system.fields.names) {leg : Leg}
    (h : leg ∈ system.starts transitionField
      (Problem.startOf system.fields transitionField condition)) :
    system.fields.Assigns leg.view ∧ (condition.holds leg.view = true ↔ ¬condition.Clashes) := by
  cases hstart : Problem.startOf system.fields transitionField condition with
  | fixed given =>
    rw [hstart] at h
    obtain ⟨state, -, rfl⟩ := List.mem_map.1 h
    exact ⟨Problem.isSome_get?_of_startOf hdeclared hstart,
      Problem.holds_of_fixedFields? hsets (Problem.fixedFields?_of_startOf hstart)⟩
  | matching asked =>
    obtain rfl : condition = asked := by
      unfold Problem.startOf at hstart
      split at hstart
      · cases hstart
      · exact Start.matching.inj hstart
    rw [hstart] at h
    obtain ⟨hmem, hholds⟩ := List.mem_filter.1 h
    obtain ⟨state, -, rfl⟩ := List.mem_map.1 hmem
    have hassigns : system.fields.Assigns (system.view transitionField state none) :=
      assigns_view state none
    exact ⟨hassigns, fun _ hclash => hclash.not_holds _ hholds, fun _ => hholds⟩

end TransitionSystem

/-- A solver compiles the texts that it reads. -/
theorem ExplicitSolver.compile_eq_ok_iff {solver : ExplicitSolver} {text : String}
    {problem : Problem} :
    (Solver.compile solver text).1 = .ok problem ↔ solver.read text = .ok problem := by
  cases hread : solver.read text with
  | error e => simp [Solver.compile, hread, Except.mapError]
  | ok found => simp [Solver.compile, hread, Except.mapError]

/-- The condition of the initial predicate holds of the first state of every chain found, and of
what it fixes, exactly if it does not clash; and if it does not clash and holds of no values for
the fields, the answer is unsatisfiable. -/
theorem initializer_constrains (solver : ExplicitSolver) (text : String) {problem : Problem}
    (h : (Solver.compile solver text).1 = .ok problem) :
    ∃ condition, Problem.conditionOf solver.system.fields text.toList
        solver.vocabulary.initPredicate = .ok condition ∧
      (∀ chain ∈ solver.chains problem, ∃ first rest, chain = first :: rest ∧
        (condition.holds first = true ↔ ¬condition.Clashes)) ∧
      (∀ given, Problem.fixedFields? solver.system.fields solver.vocabulary.transitionField
          condition = some given → (condition.holds given = true ↔ ¬condition.Clashes)) ∧
      ∃ document, (Solver.solve solver problem).1 = .ok document ∧
        document.instances = (solver.chains problem).map solver.instanceOf ∧
        (¬condition.Clashes →
          (∀ values, solver.system.fields.Assigns values → condition.holds values = false) →
            document.first.satisfiable = false) := by
  obtain ⟨condition, hcondition, hstart⟩ :=
    Problem.of_read_eq_ok (ExplicitSolver.compile_eq_ok_iff.1 h)
  obtain ⟨⟨body, hparse⟩, hdeclared⟩ := Problem.exists_parse_of_conditionOf hcondition
  have hsets := Condition.overSets_of_parse hparse
  have hfirst : ∀ chain ∈ solver.chains problem, ∃ first rest, chain = first :: rest ∧
      solver.system.fields.Assigns first ∧ (condition.holds first = true ↔ ¬condition.Clashes) := by
    intro chain hchain
    obtain ⟨leg, legs, hleg, -, rfl⟩ := Problem.of_mem_chains hchain
    rw [hstart] at hleg
    exact ⟨leg.view, legs.map (·.view), rfl,
      TransitionSystem.constrains_of_mem_starts hsets hdeclared hleg⟩
  refine ⟨condition, hcondition, fun chain hchain => ?_, fun given hgiven => ?_,
    solver.answer problem, rfl, rfl, fun hclash hnone => ?_⟩
  · obtain ⟨first, rest, hfirst, -, hholds⟩ := hfirst chain hchain
    exact ⟨first, rest, hfirst, hholds⟩
  · exact Problem.holds_of_fixedFields? hsets hgiven
  · -- An answer with a chain would give an assignment that the condition holds of.
    cases hchains : solver.chains problem with
    | nil => simp [Solution.satisfiable, Document.first, ExplicitSolver.answer, hchains]
    | cons chain more =>
      obtain ⟨first, -, -, hassigns, hholds⟩ := hfirst chain (hchains ▸ List.mem_cons_self)
      rw [hnone first hassigns] at hholds
      cases hholds.2 hclash

/-- A query for the traffic light where it is red. -/
def redText : String :=
  "pred init[s: State] \x7b\n s.light = Red\n\x7d\nrun for exactly 1 State\n"

set_option maxRecDepth 4000 in
/-- The traffic light is found red where the initializer says so. -/
theorem initializer_constrains_red : ∃ problem condition,
    (Solver.compile trafficSolver redText).1 = .ok problem ∧
      trafficSolver.chains problem = [[.ofList [("light", ["Red"]), ("transTaken", [])]]] ∧
      Problem.conditionOf trafficLight.fields redText.toList "init" = .ok condition ∧
      ¬condition.Clashes ∧
      ∀ chain ∈ trafficSolver.chains problem, ∃ first rest, chain = first :: rest ∧
        condition.holds first = true := by
  have hsolved : (trafficSolver.read redText).toOption.map trafficSolver.chains =
      some [[.ofList [("light", ["Red"]), ("transTaken", [])]]] := by
    decide +kernel
  have hequations : (Problem.conditionOf trafficLight.fields redText.toList "init").toOption.bind
      Problem.equations? = some [("light", ["Red"])] := by
    decide +kernel
  obtain ⟨problem, hread, hchains⟩ := Option.map_eq_some_iff.1 hsolved
  have hcompile := ExplicitSolver.compile_eq_ok_iff.2 (toOption_eq_some_iff.1 hread)
  obtain ⟨condition, hfound, hfirst, -⟩ := initializer_constrains trafficSolver redText hcompile
  have hcondition : (Problem.conditionOf trafficLight.fields redText.toList "init").toOption =
      some condition := toOption_eq_some_iff.2 hfound
  rw [hcondition, Option.bind_some] at hequations
  have hclash : ¬condition.Clashes := by
    rintro ⟨found, hasked, field, v, w, hv, hw, hne⟩
    obtain rfl := Option.some.inj (hequations.symm.trans hasked)
    simp_all
  refine ⟨problem, condition, hcompile, hchains, hfound, hclash, fun chain hchain => ?_⟩
  obtain ⟨first, rest, hchain, hholds⟩ := hfirst chain hchain
  exact ⟨first, rest, hchain, hholds.2 hclash⟩

/-- A query for the traffic light where it is red and green. -/
def clashingText : String :=
  "pred init[s: State] \x7b\n s.light = Red\n s.light = Green\n\x7d\nrun for exactly 1 State\n"

set_option maxRecDepth 4000 in
/-- Nothing is red and green, and yet there is an answer: a light that is green. -/
theorem not_constrains_clashing : ∃ problem condition,
    (Solver.compile trafficSolver clashingText).1 = .ok problem ∧
      Problem.conditionOf trafficLight.fields clashingText.toList "init" = .ok condition ∧
      (∀ values, condition.holds values = false) ∧
      trafficSolver.chains problem = [[.ofList [("light", ["Green"]), ("transTaken", [])]]] ∧
      (trafficSolver.answer problem).first.satisfiable = true := by
  have hsolved : (trafficSolver.read clashingText).toOption.map trafficSolver.chains =
      some [[.ofList [("light", ["Green"]), ("transTaken", [])]]] := by
    decide +kernel
  have hequations : (Problem.conditionOf trafficLight.fields clashingText.toList
      "init").toOption.bind Problem.equations? = some [("light", ["Red"]), ("light", ["Green"])] := by
    decide +kernel
  obtain ⟨problem, hread, hchains⟩ := Option.map_eq_some_iff.1 hsolved
  obtain ⟨condition, hcondition, hasked⟩ := Option.bind_eq_some_iff.1 hequations
  have hclash : condition.Clashes :=
    ⟨_, hasked, "light", ["Red"], ["Green"], by decide, by decide, by decide⟩
  refine ⟨problem, condition, ExplicitSolver.compile_eq_ok_iff.2 (toOption_eq_some_iff.1 hread),
    toOption_eq_some_iff.1 hcondition, fun values => Bool.eq_false_iff.2 (hclash.not_holds values),
    hchains, ?_⟩
  simp [Solution.satisfiable, Document.first, ExplicitSolver.answer, hchains]

end StateExplorer
