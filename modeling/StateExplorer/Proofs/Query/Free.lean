import StateExplorer.Proofs.Query.Reading

/-!
# Queries without conditions

The command of a query that asks nothing of the states after the first mentions no predicate, unless
the state signature looks like one of those that goals are given. Such a query is read exactly if
its resumption states a condition over declared fields, and is then the problem of all chains of
its bound from there. A state that fits its schema is resumed from without fail.
-/

namespace StateExplorer

/-- The names that a command mentions the predicates of goals by. -/
def Query.goalNames : List String := [pathName, breakName, forceName]

/-- Whether a vocabulary names the initial predicate and the state signature, and no command
mentions a goal because of the signature. -/
structure Vocabulary.Unmistakable (vocabulary : Vocabulary) : Prop where
  initPredicate : Text.isName vocabulary.initPredicate = true
  stateSig : Text.isName vocabulary.stateSig = true
  not_goal : ∀ name ∈ Query.goalNames, ¬name.toList <:+: vocabulary.stateSig.toList

namespace Problem

/-- The problem that asks nothing of chains but where they start and how many transitions they
have. -/
def free (start : Start) (bound : Nat) : Problem := ⟨start, bound, [], none⟩

variable {fields : Schema} {vocabulary : Vocabulary} {query : Query} {problem : Problem}

/-- A command without calls mentions no goal. -/
theorem not_goal_commandLine (hvocabulary : vocabulary.Unmistakable) {name : String}
    (hname : name ∈ Query.goalNames) (bound : Nat) :
    ¬name.toList <:+: Query.commandLine [] vocabulary.stateSig bound := by
  have hmarks : ∀ name ∈ Query.goalNames, '_' ∈ name.toList ∧ ' ' ∉ name.toList ∧
      '\x7b' ∉ name.toList ∧ '\x7d' ∉ name.toList := by decide
  obtain ⟨hmark, hblank, hbraces⟩ := hmarks name hname
  rw [Query.infix_commandLine_iff hmark hblank hbraces (hvocabulary.not_goal name hname),
    List.infix_nil]
  rintro hnil
  rw [hnil] at hmark
  cases hmark

/-- A query without conditions is read exactly if its resumption states a condition, and then chains
start where that says. -/
theorem read_free_eq_ok_iff (query : Query) (hvocabulary : vocabulary.Unmistakable)
    (hbase : Predicate.find? vocabulary.initPredicate query.base.toList = none)
    (hstands : Predicate.Stands vocabulary.initPredicate (Text.trimEnd query.resumption.toList))
    (hgoal : Query.commandText vocabulary query.goal = []) (hbound : query.bound < Text.maxWord) :
    read fields vocabulary (query.render vocabulary) = .ok problem ↔
      ∃ init, Condition.over? fields (String.ofList
          (Predicate.bodyOf (Text.trimEnd query.resumption.toList))) = some init ∧
        problem = free (startOf fields vocabulary.transitionField init) query.bound := by
  obtain ⟨more, htext⟩ := query.render_toList vocabulary
  have hbody : Predicate.body? vocabulary.initPredicate (query.render vocabulary).toList =
      .ok (some (Predicate.bodyOf (Text.trimEnd query.resumption.toList))) := by
    rw [htext]
    exact hstands.body?_eq hvocabulary.initPredicate hbase more
  have hcommand := command?_render query hvocabulary.stateSig
    (Query.not_break_of_mem_commandText hvocabulary.stateSig query.goal)
  have hscope := boundOf_commandLine vocabulary.stateSig
    (Query.not_scope_commandText hvocabulary.stateSig query.goal) hbound
  rw [hgoal] at hcommand hscope
  have hmentions : mentions (Query.commandLine [] vocabulary.stateSig query.bound) = [] :=
    mentions_of_not_infix (not_goal_commandLine hvocabulary (by decide) query.bound)
  have hreach : reachOf fields (query.render vocabulary).toList
      (Query.commandLine [] vocabulary.stateSig query.bound) = .ok none := by
    have hunmentioned {name : String} (hname : name ∈ Query.goalNames) :
        Text.hasInfix name.toList (Query.commandLine [] vocabulary.stateSig query.bound) = false :=
      Text.hasInfix_eq_false_iff.2 (not_goal_commandLine hvocabulary hname query.bound)
    rw [reachOf, hunmentioned (by decide), hunmentioned (by decide)]
    rfl
  rw [← toOption_conditionOf hbody, read_eq_ok_iff hcommand hscope, hmentions, hreach]
  simp only [toOption_eq_some_iff, List.mapM_nil]
  obtain ⟨start, bound, positional, reach⟩ := problem
  constructor
  · rintro ⟨init, hinit, hstart, hbound, hpositional, hnone⟩
    dsimp only at hstart hbound hpositional hnone
    refine ⟨init, hinit, ?_⟩
    rw [free, hstart, hbound, ← Except.ok.inj hpositional, ← Except.ok.inj hnone]
  · rintro ⟨init, hinit, hproblem⟩
    obtain ⟨rfl, rfl, rfl, rfl⟩ := Problem.mk.inj hproblem
    exact ⟨init, hinit, rfl, rfl, rfl, rfl⟩

/-- If a query without conditions is read, so is one with another bound, and chains start at the same
states; fields that are given are the declared ones. -/
theorem read_free_of_read {base resumption : String} {goal : Goal} (other : Goal) {bound more : Nat}
    (hvocabulary : vocabulary.Unmistakable)
    (hbase : Predicate.find? vocabulary.initPredicate base.toList = none)
    (hstands : Predicate.Stands vocabulary.initPredicate (Text.trimEnd resumption.toList))
    (hgoal : Query.commandText vocabulary goal = []) (hbound : bound < Text.maxWord)
    (hother : Query.commandText vocabulary other = []) (hmore : more < Text.maxWord)
    (hread : read fields vocabulary (Query.render vocabulary ⟨base, resumption, goal, bound⟩) =
      .ok problem) :
    problem = free problem.start bound ∧
      read fields vocabulary (Query.render vocabulary ⟨base, resumption, other, more⟩) =
        .ok (free problem.start more) ∧
      ∀ given, problem.start = .fixed given →
        ∀ name, (given.get? name).isSome = true ↔ name ∈ fields.names := by
  obtain ⟨init, hinit, rfl⟩ := (read_free_eq_ok_iff ⟨base, resumption, goal, bound⟩ hvocabulary
    hbase hstands hgoal hbound).1 hread
  refine ⟨rfl, (read_free_eq_ok_iff ⟨base, resumption, other, more⟩ hvocabulary hbase
    hstands hother hmore).2 ⟨init, hinit, rfl⟩, fun given hgiven => ?_⟩
  refine isSome_get?_of_startOf (fun name hname => ?_) hgiven
  obtain ⟨-, hdeclared⟩ := Option.filter_eq_some_iff.1 hinit
  obtain ⟨field, hfield, hsame⟩ := List.any_eq_true.1 (List.all_eq_true.1 hdeclared name hname)
  exact List.mem_map.2 ⟨field, hfield, beq_iff_eq.1 hsame⟩

/-- A command that asks nothing of later states mentions neither breakpoints nor a transition. -/
theorem of_reachOf_eq_none {text command : List Char} (h : reachOf fields text command = .ok none) :
    Text.hasInfix Query.breakName.toList command = false ∧
      Text.hasInfix Query.forceName.toList command = false := by
  have hsome (name : String) :
      (some <$> conditionOf fields text name : Except ReadError (Option Condition)) ≠ .ok none := by
    cases conditionOf fields text name with
    | error e => simp [Functor.map, Except.map]
    | ok condition => simp [Functor.map, Except.map]
  unfold reachOf at h
  split at h
  · exact absurd h (hsome _)
  · split at h
    · exact absurd h (hsome _)
    · simp_all

/-- Where a query without conditions is read as a problem that asks nothing of later states, the state
signature is not mistaken for a goal, unless for the predicate of a step. -/
theorem unmistakable_of_read (query : Query)
    (hinit : Text.isName vocabulary.initPredicate = true)
    (hsig : Text.isName vocabulary.stateSig = true)
    (hpath : ¬Query.pathName.toList <:+: vocabulary.stateSig.toList)
    (hgoal : Query.commandText vocabulary query.goal = []) (hbound : query.bound < Text.maxWord)
    (hread : read fields vocabulary (query.render vocabulary) = .ok problem)
    (hreach : problem.reach = none) : vocabulary.Unmistakable := by
  have hcommand := command?_render query hsig
    (Query.not_break_of_mem_commandText hsig query.goal)
  have hscope := boundOf_commandLine vocabulary.stateSig
    (Query.not_scope_commandText hsig query.goal) hbound
  rw [hgoal] at hcommand hscope
  obtain ⟨-, -, -, -, -, hasked⟩ := (read_eq_ok_iff hcommand hscope).1 hread
  have hmentioned {name : String} (hname : name.toList <:+: vocabulary.stateSig.toList) :
      Text.hasInfix name.toList (Query.commandLine [] vocabulary.stateSig query.bound) = true := by
    have hsuffix : vocabulary.stateSig.toList <:+
        Query.commandLine [] vocabulary.stateSig query.bound :=
      ⟨"run \x7b\x7d for exactly ".toList ++ Text.decimal (query.bound + 1) ++ [' '], by
        simp [Query.commandLine, Query.scopeText]⟩
    exact Text.hasInfix_iff.2 (hname.trans hsuffix.isInfix)
  refine ⟨hinit, hsig, fun name hname hoccurs => ?_⟩
  simp only [Query.goalNames, List.mem_cons, List.not_mem_nil, or_false] at hname
  rw [hreach] at hasked
  obtain ⟨hbreak, hforce⟩ := of_reachOf_eq_none hasked
  rcases hname with rfl | rfl | rfl
  · exact hpath hoccurs
  · exact Bool.noConfusion ((hmentioned hoccurs).symm.trans hbreak)
  · exact Bool.noConfusion ((hmentioned hoccurs).symm.trans hforce)

/-- The equations of a state that fits are over declared fields. -/
theorem over?_equations {state : State} (hfields : ∀ name ∈ fields.names, Text.isName name = true)
    (hfits : state.Fits fields) :
    Condition.over? fields (String.ofList ('\n' :: (state.equations fields).toList)) =
      some (Condition.allOf (state.fields.entries.map fun e => .equals e.1 (valueSet e.2))) := by
  have hnamed (entries : List (String × List String)) :
      (Condition.allOf (entries.map fun e => .equals e.1 (valueSet e.2))).fields =
        entries.map Prod.fst := by
    match entries with
    | [] => rfl
    | [e] => rfl
    | e :: f :: rest =>
      simp [Condition.allOf, Condition.fields, Condition.fieldsOf_eq_flatMap, List.flatMap_map,
        ← List.map_eq_flatMap]
  have hdeclared : (Condition.allOf (state.fields.entries.map fun e =>
      .equals e.1 (valueSet e.2))).fields.all fields.declares = true := by
    rw [hnamed, List.all_map, List.all_eq_true]
    intro entry hentry
    exact Schema.declares_iff.2 (hfits.mem_names (NameMap.mem_entries_iff.1 hentry))
  rw [Condition.over?, Condition.parse_equations hfields hfits]
  exact Option.filter_eq_some_iff.2 ⟨rfl, hdeclared⟩

/-- A query that resumes from a state that fits, without conditions, asks for all chains from where
the fields hold its sets. -/
theorem read_resumed {base : String} {state : State} (goal : Goal) (bound : Nat)
    (hvocabulary : vocabulary.Unmistakable)
    (hfields : ∀ name ∈ fields.names, Text.isName name = true)
    (hbase : Predicate.find? vocabulary.initPredicate base.toList = none)
    (hfits : state.Fits fields) (hgoal : Query.commandText vocabulary goal = [])
    (hbound : bound < Text.maxWord) :
    read fields vocabulary (Query.render vocabulary ⟨base,
      state.constraint fields vocabulary.initPredicate vocabulary.stateSig, goal, bound⟩) =
      .ok (free (.fixed state.sets) bound) := by
  obtain ⟨hstands, hbody⟩ := State.stands_constraint hvocabulary.initPredicate
    hvocabulary.stateSig hfields hfits
  refine (read_free_eq_ok_iff ⟨base,
    state.constraint fields vocabulary.initPredicate vocabulary.stateSig, goal, bound⟩ hvocabulary
    hbase hstands hgoal hbound).2
    ⟨Condition.allOf (state.fields.entries.map fun e => .equals e.1 (valueSet e.2)), ?_, ?_⟩
  · rw [hbody]
    exact over?_equations hfields hfits
  · rw [startOf_equations vocabulary.transitionField hfits]

end Problem

end StateExplorer
