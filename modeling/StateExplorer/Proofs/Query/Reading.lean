import StateExplorer.Proofs.Condition.Margins
import StateExplorer.Proofs.Model.Blocks
import StateExplorer.Proofs.Query.CommandLine
import StateExplorer.Proofs.Query.Resumption

/-!
# Queries are read back

A query whose vocabulary consists of names, none of them reserved for the predicates of goals, is
read back as the problem it was composed for. Reading succeeds exactly if the resumption and the
goal state conditions over declared fields, and then the problem starts where the resumption says,
has the bound that was asked for, and has the conditions of the goal, at the positions of the
goal. This rests on each predicate being found under its own name, and on the command being the
last line.
-/

namespace StateExplorer

/-- The condition that a text states, if it states one over declared fields. -/
def Condition.over? (fields : Schema) (text : String) : Option Condition :=
  (parse text).toOption.filter fun condition => condition.fields.all fields.declares

namespace Goal

/-- The texts that a goal is given. -/
def texts : Goal → List String
  | .initial => []
  | .path constraints => constraints
  | .breakpoint constraints => constraints
  | .transition name => [name]

/-- One of the constraints holds. -/
def disjunction (constraints : List String) : String :=
  " or\n".intercalate (constraints.map fun c => "\t(" ++ Query.trimmed c ++ ")")

/-- Constraints that open and close no block are joined to a text that does not, either. -/
theorem not_brace_of_mem_disjunction {constraints : List String}
    (h : ∀ constraint ∈ constraints, ∀ c ∈ constraint.toList, c ≠ '\x7b' ∧ c ≠ '\x7d') :
    ∀ c ∈ (disjunction constraints).toList, c ≠ '\x7b' ∧ c ≠ '\x7d' := by
  intro c hc
  rcases State.mem_intercalate hc with hc | ⟨part, hpart, hc⟩
  · exact Text.of_mem_of_all (by decide) hc
  · obtain ⟨constraint, hconstraint, rfl⟩ := List.mem_map.1 hpart
    obtain ⟨before, after, htext, -, -⟩ := Text.exists_append_trim_append constraint.toList
    have htrim : Text.trim constraint.toList <:+: constraint.toList := ⟨before, after, htext⟩
    simp only [String.toList_append, Query.trimmed, String.toList_ofList, List.mem_append] at hc
    rcases hc with (hc | hc) | hc
    · exact Text.of_mem_of_all (by decide) hc
    · exact h constraint hconstraint c (htrim.subset hc)
    · exact Text.of_mem_of_all (by decide) hc

/-- The transition field holds a name. -/
def entered (transitionField name : String) : String :=
  "s." ++ transitionField ++ " = " ++ name

/-- The conditions of a goal at positions: those of the constraints that ask for something, each
one position after its place. -/
def positional? (fields : Schema) : Goal → Option (List (Nat × Condition))
  | .path constraints => (Query.asked constraints).mapM fun (constraint, step) =>
      (Condition.over? fields constraint).map fun condition => (step + 1, condition)
  | _ => some []

/-- The condition of a goal on some state after the first, if it has one. -/
def reach? (fields : Schema) (transitionField : String) : Goal → Option (Option Condition)
  | .breakpoint constraints => (Condition.over? fields (disjunction constraints)).map some
  | .transition name => (Condition.over? fields (entered transitionField name)).map some
  | _ => some none

end Goal

/-- Blanks around a text do not change which condition over declared fields it states. -/
theorem Condition.over?_append (fields : Schema) {before after : List Char}
    (hbefore : ∀ c ∈ before, Text.isBlank c = true) (hafter : ∀ c ∈ after, Text.isBlank c = true)
    (text : List Char) :
    over? fields (String.ofList (before ++ text ++ after)) = over? fields (String.ofList text) := by
  rw [over?, over?, toOption_parse_append hbefore hafter]

/-- The condition of a predicate is what its body states over declared fields. -/
theorem Problem.toOption_conditionOf {fields : Schema} {text body : List Char} {name : String}
    (h : Predicate.body? name text = .ok (some body)) :
    (conditionOf fields text name).toOption = Condition.over? fields (String.ofList body) := by
  rw [Condition.over?]
  simp only [conditionOf, h]
  cases Condition.parse (String.ofList body) with
  | error e => rfl
  | ok condition =>
    simp only [Except.toOption, Option.filter]
    cases hfind : condition.fields.find? (!fields.declares ·) with
    | none =>
      have hall : condition.fields.all fields.declares = true := by
        simpa using hfind
      rw [if_pos hall]
      rfl
    | some field =>
      have hall : ¬condition.fields.all fields.declares = true := by
        have hmem := List.mem_of_find?_eq_some hfind
        have hfield := List.find?_some hfind
        simp only [List.all_eq_true, not_forall]
        exact ⟨field, hmem, by simpa using hfield⟩
      rw [if_neg hall]
      rfl

/-- Of a mention only the digits matter. -/
theorem Problem.toOption_positionalOf (fields : Schema) (text command after : List Char) :
    (positionalOf fields text command after).toOption =
      (Text.readNat? (after.takeWhile Char.isDigit)).bind fun step =>
        (conditionOf fields text (Query.pathName ++ toString step)).toOption.map
          fun condition => (step + 1, condition) := by
  rw [positionalOf]
  cases Text.readNat? (after.takeWhile Char.isDigit) with
  | none => rfl
  | some step =>
    simp only [Option.bind_some]
    cases conditionOf fields text (Query.pathName ++ toString step) <;> rfl

/-- Where the predicates for steps state the constraints, the mentions of these steps are read as
the constraints, each one position after its place. -/
theorem Problem.toOption_mapM_positionalOf {fields : Schema} {text : List Char}
    (entries : List (String × Nat))
    (hread : ∀ e ∈ entries, e.2 ≤ Text.maxWord ∧
      (conditionOf fields text (Query.pathName ++ toString e.2)).toOption =
        Condition.over? fields e.1)
    (command : List Char) {mentions : List (List Char)}
    (hmentions : mentions.map (·.takeWhile Char.isDigit) = entries.map (Text.decimal ·.2)) :
    (mentions.mapM (positionalOf fields text command)).toOption =
      entries.mapM fun (constraint, step) =>
        (Condition.over? fields constraint).map fun condition => (step + 1, condition) := by
  induction entries generalizing mentions with
  | nil =>
    obtain rfl : mentions = [] := by simpa using hmentions
    rfl
  | cons entry rest ih =>
    obtain ⟨after, later, rfl⟩ : ∃ after later, mentions = after :: later := by
      cases mentions with
      | nil => cases hmentions
      | cons after later => exact ⟨after, later, rfl⟩
    obtain ⟨hfirst, hlater⟩ := List.cons.inj hmentions
    dsimp only at hfirst
    obtain ⟨⟨hword, hcondition⟩, hrest⟩ := List.forall_mem_cons.1 hread
    have hmore := ih hrest hlater
    rw [toOption_mapM] at hmore ⊢
    rw [List.mapM_cons, List.mapM_cons, hmore, toOption_positionalOf, hfirst,
      Text.readNat?_decimal, if_pos hword, Option.bind_some, hcondition]

/-- The names in a command decide which condition is wanted of some state. -/
theorem Problem.toOption_reachOf (fields : Schema) (text command : List Char) :
    (reachOf fields text command).toOption =
      if Text.hasInfix Query.breakName.toList command then
        (conditionOf fields text Query.breakName).toOption.map some
      else if Text.hasInfix Query.forceName.toList command then
        (conditionOf fields text Query.forceName).toOption.map some
      else some none := by
  rw [reachOf]
  split
  · cases conditionOf fields text Query.breakName <;> rfl
  · split
    · cases conditionOf fields text Query.forceName <;> rfl
    · rfl

namespace Query

/-! ### The predicates of a query -/

/-- The predicates of a goal by their names, with what is between their braces. -/
def goalBlocks (transitionField : String) : Goal → List (String × List Char)
  | .initial => []
  | .path constraints => (asked constraints).map fun (constraint, step) =>
      (pathName ++ toString step, '\n' :: '\t' :: (Text.trim constraint.toList ++ ['\n']))
  | .breakpoint constraints =>
      [(breakName, '\n' :: ((Goal.disjunction constraints).toList ++ ['\n']))]
  | .transition name =>
      [(forceName, '\n' :: '\t' :: ((Goal.entered transitionField name).toList ++ ['\n']))]

/-- The predicates of a goal are written one after another. -/
theorem goalPredicates_toList (vocabulary : Vocabulary) (goal : Goal) :
    (goalPredicates vocabulary goal).toList =
      Predicate.blocks vocabulary.stateSig (goalBlocks vocabulary.transitionField goal) := by
  cases goal with
  | initial => rfl
  | path constraints =>
    rw [goalPredicates, String.toList_join, Predicate.blocks, goalBlocks, List.flatMap_map,
      List.flatMap_map]
    refine congrArg (List.flatMap · _) (funext fun entry => ?_)
    rw [Predicate.statePredicate_toList]
    simp [trimmed]
  | breakpoint constraints =>
    rw [goalPredicates, breakpointPredicate, Predicate.statePredicate_toList]
    simp [Predicate.blocks, goalBlocks, Goal.disjunction]
  | transition name =>
    rw [goalPredicates, Predicate.statePredicate_toList]
    simp [Predicate.blocks, goalBlocks, Goal.entered]

/-- A query is its base, a blank line, its resumption, the predicates of its goal, and more. -/
theorem render_blocks (vocabulary : Vocabulary) (query : Query) :
    ∃ more : List Char, (query.render vocabulary).toList =
      Text.trimEnd query.base.toList ++ '\n' :: ([] ++ '\n' ::
        (Text.trimEnd query.resumption.toList ++ '\n' ::
          (Predicate.blocks vocabulary.stateSig
            (goalBlocks vocabulary.transitionField query.goal) ++ more))) := by
  refine ⟨("fact \x7b " ++ vocabulary.initPredicate ++ "[first] \x7d\n" ++
    "fact \x7b all s: " ++ vocabulary.stateSig ++ " - last | " ++ vocabulary.transitionRelation ++
    "[s, s.next] \x7d\n" ++
    "run " ++ commandBlock (goalCommand vocabulary query.goal) ++ " for exactly " ++
    toString (query.bound + 1) ++ " " ++ vocabulary.stateSig ++ "\n").toList, ?_⟩
  delta Query.render
  simp [trimmedEnd, goalPredicates_toList]

/-- The name of the predicate for a step is a name. -/
theorem isName_pathName (step : Nat) : Text.isName (pathName ++ toString step) = true := by
  have hdigits : ∀ c ∈ (toString step).toList, Text.isNameChar c = true := by
    intro c hc
    rw [Text.toList_toString] at hc
    simp [Text.isNameChar, Char.isAlphanum, Text.isDigit_of_mem_decimal hc]
  have hname : ∀ c ∈ pathName.toList, Text.isNameChar c = true :=
    fun _ => Text.of_mem_of_all (by decide)
  rw [Text.isName, String.toList_append, List.all_append, List.all_eq_true.2 hname,
    List.all_eq_true.2 hdigits]
  rfl

/-- Predicates for different steps have different names. -/
theorem pathName_inj {step other : Nat}
    (h : pathName ++ toString step = pathName ++ toString other) : step = other := by
  have hdigits := congrArg String.toList h
  rw [String.toList_append, String.toList_append, List.append_cancel_left_eq, Text.toList_toString,
    Text.toList_toString] at hdigits
  have hread := Text.digits?_decimal step
  rw [hdigits, Text.digits?_decimal] at hread
  exact (Option.some.inj hread).symm

/-- A step that is asked for is the place of its constraint. -/
theorem of_mem_asked {constraints : List String} {constraint : String} {step : Nat}
    (h : (constraint, step) ∈ asked constraints) : constraints[step]? = some constraint := by
  simpa [List.mk_mem_zipIdx_iff_getElem?] using (List.mem_filter.1 h).1

/-- Each step is asked for once. -/
theorem nodup_asked (constraints : List String) : ((asked constraints).map (·.2)).Nodup := by
  have hsteps : (constraints.zipIdx.map (·.2)).Nodup := by
    rw [List.zipIdx_map_snd]
    exact List.nodup_range'
  exact hsteps.sublist (List.filter_sublist.map _)

end Query

/-- Whether a query can be read back with a given text in its resumption. -/
structure Query.Legible (vocabulary : Vocabulary) (query : Query) (body : List Char) : Prop where
  /-- The names that are looked for are names, -/
  initPredicate : Text.isName vocabulary.initPredicate = true
  stateSig : Text.isName vocabulary.stateSig = true
  transitionField : Text.isName vocabulary.transitionField = true
  /-- and none of them looks like that of a predicate of a goal. -/
  not_reserved : ¬reserved <:+: vocabulary.initPredicate.toList ∧
    ¬reserved <:+: vocabulary.stateSig.toList
  /-- The base holds no predicate that is looked for. -/
  base : ¬Predicate.heading vocabulary.initPredicate <:+: query.base.toList ∧
    ¬Predicate.keyword ++ reserved <:+: query.base.toList
  /-- The resumption is the initial predicate, and nothing in it looks like another one. -/
  resumption : Text.trimEnd query.resumption.toList =
    Predicate.block vocabulary.initPredicate vocabulary.stateSig body
  body : Predicate.IsInner body
  /-- Nothing in the goal looks like a predicate or ends one. -/
  texts : ∀ text ∈ query.goal.texts, Predicate.IsInner text.toList
  /-- The number of states and those of the steps fit a word. -/
  bound : query.bound < Text.maxWord
  steps : query.goal.texts.length ≤ Text.maxWord

namespace Query.Legible

variable {vocabulary : Vocabulary} {query : Query} {body : List Char}

/-- A reserved name is looked for among the predicates of the goal. -/
theorem exists_body?_eq (h : query.Legible vocabulary body) :
    ∃ more : List Char, ∀ name, Text.isName name = true → reserved <+: name.toList →
      Predicate.body? name (query.render vocabulary).toList =
        Predicate.body? name (Predicate.blocks vocabulary.stateSig
          (goalBlocks vocabulary.transitionField query.goal) ++ more) := by
  obtain ⟨more, hmore⟩ := render_blocks vocabulary query
  refine ⟨more, fun name hname hreserved => ?_⟩
  have hbase : ¬Predicate.heading name <:+: query.base.toList := by
    refine fun hoccurs => h.base.2 (List.IsInfix.trans ?_ hoccurs)
    exact ((List.prefix_append_right_inj Predicate.keyword).2 hreserved).isInfix
  have hinit : name ≠ vocabulary.initPredicate := by
    rintro rfl
    exact h.not_reserved.1 hreserved.isInfix
  have htrimmed := Predicate.find?_trimEnd (Predicate.find?_eq_none_of_not_infix hbase)
  have hresumption := Predicate.find?_block_of_ne hname h.initPredicate h.stateSig
    h.body.not_keyword hinit
  rw [hmore, h.resumption, Predicate.body?_append_newline hname htrimmed,
    Predicate.body?_append_newline hname (rfl : Predicate.find? name [] = none),
    Predicate.body?_append_newline hname hresumption]

/-- The condition of the initial predicate is that of the resumption. -/
theorem conditionOf_init (h : query.Legible vocabulary body) (fields : Schema) :
    (Problem.conditionOf fields (query.render vocabulary).toList
      vocabulary.initPredicate).toOption = Condition.over? fields (String.ofList body) := by
  obtain ⟨more, hmore⟩ := render_blocks vocabulary query
  obtain ⟨hstands, hbody⟩ :=
    Predicate.stands_block h.initPredicate
      (Text.ne_and_ne_of_isName h.stateSig (by decide) (by decide)) h.body.not_brace
  have htrimmed := Predicate.find?_trimEnd (Predicate.find?_eq_none_of_not_infix h.base.1)
  refine Problem.toOption_conditionOf ?_
  rw [hmore, h.resumption, Predicate.body?_append_newline h.initPredicate htrimmed,
    Predicate.body?_append_newline h.initPredicate
      (rfl : Predicate.find? vocabulary.initPredicate [] = none), hstands.body?_append, hbody]

/-- A predicate of the goal is read back as it was written, apart from blanks. -/
theorem toOption_conditionOf (h : query.Legible vocabulary body) {name : String}
    (hname : Text.isName name = true) (hreserved : reserved <+: name.toList)
    {before after : List (String × List Char)} {left text right : List Char}
    (hblocks : goalBlocks vocabulary.transitionField query.goal =
      before ++ (name, left ++ text ++ right) :: after)
    (hbefore : ∀ p ∈ before, Text.isName p.1 = true ∧ ¬Predicate.keyword <:+: p.2 ∧ p.1 ≠ name)
    (hleft : ∀ c ∈ left, Text.isBlank c = true) (hright : ∀ c ∈ right, Text.isBlank c = true)
    (htext : ∀ c ∈ text, c ≠ '\x7b' ∧ c ≠ '\x7d') (fields : Schema) :
    (Problem.conditionOf fields (query.render vocabulary).toList name).toOption =
      Condition.over? fields (String.ofList text) := by
  have hblank {c : Char} (hc : Text.isBlank c = true) : c ≠ '\x7b' ∧ c ≠ '\x7d' := by
    refine ⟨?_, ?_⟩
    · rintro rfl
      exact absurd hc (by decide)
    · rintro rfl
      exact absurd hc (by decide)
  have hinner : ∀ c ∈ left ++ text ++ right, c ≠ '\x7b' ∧ c ≠ '\x7d' := by
    simp only [List.mem_append]
    rintro c ((hc | hc) | hc)
    · exact hblank (hleft c hc)
    · exact htext c hc
    · exact hblank (hright c hc)
  obtain ⟨more, hmore⟩ := h.exists_body?_eq
  rw [← Condition.over?_append fields hleft hright]
  refine Problem.toOption_conditionOf ?_
  rw [hmore name hname hreserved, hblocks]
  exact Predicate.body?_blocks hname h.stateSig hinner hbefore after more

/-- The condition of the predicate for a step is that of its constraint. -/
theorem conditionOf_path (h : query.Legible vocabulary body) {constraints : List String}
    (hgoal : query.goal = .path constraints) {constraint : String} {step : Nat}
    (hasked : (constraint, step) ∈ asked constraints) (fields : Schema) :
    (Problem.conditionOf fields (query.render vocabulary).toList
      (pathName ++ toString step)).toOption = Condition.over? fields constraint := by
  have hinner {other : String} {place : Nat} (hother : (other, place) ∈ asked constraints) :
      Predicate.IsInner other.toList := by
    refine h.texts other ?_
    rw [hgoal]
    exact List.mem_of_getElem? (of_mem_asked hother)
  obtain ⟨first, last, hsplit⟩ := List.append_of_mem hasked
  have hnodup := nodup_asked constraints
  rw [hsplit, List.map_append, List.map_cons, List.nodup_append] at hnodup
  have hblocks : goalBlocks vocabulary.transitionField query.goal =
      first.map (fun (constraint, step) => (pathName ++ toString step,
        '\n' :: '\t' :: (Text.trim constraint.toList ++ ['\n']))) ++
      (pathName ++ toString step, ['\n', '\t'] ++ Text.trim constraint.toList ++ ['\n']) ::
        last.map (fun (constraint, step) => (pathName ++ toString step,
          '\n' :: '\t' :: (Text.trim constraint.toList ++ ['\n']))) := by
    rw [hgoal, goalBlocks, hsplit, List.map_append, List.map_cons]
    rfl
  have hbefore : ∀ p ∈ first.map (fun (constraint, step) => (pathName ++ toString step,
      '\n' :: '\t' :: (Text.trim constraint.toList ++ ['\n']))),
      Text.isName p.1 = true ∧ ¬Predicate.keyword <:+: p.2 ∧ p.1 ≠ pathName ++ toString step := by
    intro p hp
    obtain ⟨⟨other, place⟩, hmem, rfl⟩ := List.mem_map.1 hp
    have hother : (other, place) ∈ asked constraints := by
      rw [hsplit]
      exact List.mem_append_left _ hmem
    refine ⟨isName_pathName place, ?_, fun hname => ?_⟩
    · rw [Predicate.keyword, Text.infix_cons_iff_of_ne (by decide),
        Text.infix_cons_iff_of_ne (by decide),
        show ['p', 'r', 'e', 'd', ' '] = ['p', 'r', 'e', 'd'] ++ [' '] from rfl,
        Text.infix_concat_iff_of_ne (by decide)]
      exact (hinner hother).trim.not_keyword
    · exact hnodup.2.2 place (List.mem_map.2 ⟨_, hmem, rfl⟩) step List.mem_cons_self
        (pathName_inj hname)
  obtain ⟨before, after, htext, hleft, hright⟩ :=
    Text.exists_append_trim_append constraint.toList
  rw [h.toOption_conditionOf (isName_pathName step) ?_ hblocks hbefore
    (fun _ => Text.of_mem_of_all (by decide)) (fun _ => Text.of_mem_of_all (by decide))
    (hinner hasked).trim.not_brace fields, ← Condition.over?_append fields hleft hright, htext,
    String.ofList_toList]
  rw [String.toList_append]
  exact (by decide : reserved <+: pathName.toList).trans (List.prefix_append _ _)

/-- The condition of the predicate for breakpoints is that one of the constraints holds. -/
theorem conditionOf_break (h : query.Legible vocabulary body) {constraints : List String}
    (hgoal : query.goal = .breakpoint constraints) (fields : Schema) :
    (Problem.conditionOf fields (query.render vocabulary).toList breakName).toOption =
      Condition.over? fields (Goal.disjunction constraints) := by
  have hbraces : ∀ c ∈ (Goal.disjunction constraints).toList, c ≠ '\x7b' ∧ c ≠ '\x7d' :=
    Goal.not_brace_of_mem_disjunction fun constraint hconstraint =>
      (h.texts constraint (by rw [hgoal]; exact hconstraint)).not_brace
  have hblocks : goalBlocks vocabulary.transitionField query.goal =
      [] ++ (breakName, ['\n'] ++ (Goal.disjunction constraints).toList ++ ['\n']) :: [] := by
    rw [hgoal]
    rfl
  rw [h.toOption_conditionOf (by decide) (by decide) hblocks (by simp)
    (fun _ => Text.of_mem_of_all (by decide)) (fun _ => Text.of_mem_of_all (by decide)) hbraces fields,
    String.ofList_toList]

/-- The condition of the predicate for a transition is that the transition field holds its name. -/
theorem conditionOf_force (h : query.Legible vocabulary body) {name : String}
    (hgoal : query.goal = .transition name) (fields : Schema) :
    (Problem.conditionOf fields (query.render vocabulary).toList forceName).toOption =
      Condition.over? fields (Goal.entered vocabulary.transitionField name) := by
  have hbraces : ∀ c ∈ (Goal.entered vocabulary.transitionField name).toList,
      c ≠ '\x7b' ∧ c ≠ '\x7d' := by
    intro c hc
    simp only [Goal.entered, String.toList_append, List.mem_append] at hc
    rcases hc with ((hc | hc) | hc) | hc
    · exact Text.of_mem_of_all (by decide) hc
    · exact Text.ne_and_ne_of_isName h.transitionField (by decide) (by decide) c hc
    · exact Text.of_mem_of_all (by decide) hc
    · exact (h.texts name (by rw [hgoal]; exact List.mem_singleton_self name)).not_brace c hc
  have hblocks : goalBlocks vocabulary.transitionField query.goal =
      [] ++ (forceName, ['\n', '\t'] ++ (Goal.entered vocabulary.transitionField name).toList ++
        ['\n']) :: [] := by
    rw [hgoal]
    rfl
  rw [h.toOption_conditionOf (by decide) (by decide) hblocks (by simp)
    (fun _ => Text.of_mem_of_all (by decide)) (fun _ => Text.of_mem_of_all (by decide)) hbraces fields,
    String.ofList_toList]

/-- The conditions at positions are those of the goal. -/
theorem toOption_positional (h : query.Legible vocabulary body) (fields : Schema)
    (command : List Char) {mentions : List (List Char)}
    (hmentions : mentions.map (·.takeWhile Char.isDigit) = (goalSteps query.goal).map Text.decimal) :
    (mentions.mapM (Problem.positionalOf fields (query.render vocabulary).toList
      command)).toOption = query.goal.positional? fields := by
  have hnone (hsteps : goalSteps query.goal = []) : mentions = [] := by
    rw [hsteps] at hmentions
    simpa using hmentions
  match hgoal : query.goal with
  | .initial =>
    rw [hnone (by rw [hgoal]; rfl)]
    rfl
  | .breakpoint constraints =>
    rw [hnone (by rw [hgoal]; rfl)]
    rfl
  | .transition name =>
    rw [hnone (by rw [hgoal]; rfl)]
    rfl
  | .path constraints =>
    refine Problem.toOption_mapM_positionalOf (asked constraints) ?_ command ?_
    · rintro ⟨constraint, step⟩ hasked
      have hplace := (List.getElem?_eq_some_iff.1 (of_mem_asked hasked)).1
      have hsteps := h.steps
      rw [hgoal, Goal.texts] at hsteps
      exact ⟨by omega, h.conditionOf_path hgoal hasked fields⟩
    · rw [hmentions, hgoal, goalSteps, List.map_map]
      rfl

/-- The condition on some state is that of the goal. -/
theorem toOption_reachOf (h : query.Legible vocabulary body) (fields : Schema) :
    (Problem.reachOf fields (query.render vocabulary).toList
      (commandLine (commandText vocabulary query.goal) vocabulary.stateSig query.bound)).toOption =
      query.goal.reach? fields vocabulary.transitionField := by
  have hsig (name : String) (hname : reserved <+: name.toList) :
      ¬name.toList <:+: vocabulary.stateSig.toList :=
    fun hoccurs => h.not_reserved.2 (hname.isInfix.trans hoccurs)
  have hbreak := hasInfix_commandLine (.inl rfl) (hsig breakName (by decide))
    query.goal query.bound
  have hforce := hasInfix_commandLine (.inr rfl) (hsig forceName (by decide))
    query.goal query.bound
  rw [Problem.toOption_reachOf]
  match hgoal : query.goal with
  | .initial =>
    rw [hgoal] at hbreak hforce
    rw [if_neg (by rw [hbreak]; simp [wantedName]), if_neg (by rw [hforce]; simp [wantedName])]
    rfl
  | .path constraints =>
    rw [hgoal] at hbreak hforce
    rw [if_neg (by rw [hbreak]; simp [wantedName]), if_neg (by rw [hforce]; simp [wantedName])]
    rfl
  | .breakpoint constraints =>
    rw [hgoal] at hbreak
    rw [if_pos (hbreak.2 rfl), h.conditionOf_break hgoal, Goal.reach?]
  | .transition name =>
    rw [hgoal] at hbreak hforce
    rw [if_neg (by rw [hbreak]; simp [wantedName, breakName, forceName]), if_pos (hforce.2 rfl),
      h.conditionOf_force hgoal, Goal.reach?]

end Query.Legible

namespace Problem

open Query

variable {fields : Schema} {vocabulary : Vocabulary} {query : Query} {body : List Char}
  {problem : Problem}

/-- A query whose command asks for so many transitions is read exactly if its parts are. -/
theorem read_eq_ok_iff {text : String} {command : List Char} {bound : Nat}
    (hcommand : command? text = some command) (hbound : boundOf command = .ok bound) :
    read fields vocabulary text = .ok problem ↔
      ∃ init, conditionOf fields text.toList vocabulary.initPredicate = .ok init ∧
        problem.start = startOf fields vocabulary.transitionField init ∧
        problem.bound = bound ∧
        (mentions command).mapM (positionalOf fields text.toList command) =
          .ok problem.positional ∧
        reachOf fields text.toList command = .ok problem.reach := by
  rw [read_eq_ok_iff_exists_command]
  simp only [hcommand, hbound, Option.some.injEq, Except.ok.injEq, exists_eq_left']
  constructor
  · rintro ⟨hasked, init, hinit, hstart, hgoal⟩
    exact ⟨init, hinit, hstart, hasked.symm, hgoal⟩
  · rintro ⟨init, hinit, hstart, hasked, hgoal⟩
    exact ⟨hasked.symm, init, hinit, hstart, hgoal⟩

/-- A query for two transitions that asks something of the second one only. -/
def twoSteps : Query :=
  ⟨"sig State \x7b\x7d\n", "pred init[s: State] \x7b no s.lamp \x7d\n",
    .path [" ", "\ts.lamp = Red\n"], 2⟩

end Problem

end StateExplorer
