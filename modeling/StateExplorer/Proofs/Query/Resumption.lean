import StateExplorer.Proofs.Condition.Conjunctions
import StateExplorer.Proofs.Condition.Equations
import StateExplorer.Proofs.Model.Blocks
import StateExplorer.Proofs.Query.Command

/-!
# Where the chains of a query start

A query holds its resumption after the base of the model. If that resumption is the initial
predicate and the base has no other one, the problem that is read back starts where the condition
in the resumption says, whatever else the query asks for. A resumption from a state is read back as
that state if its values are words: chains then start exactly where the fields hold what they hold in it.
-/

namespace StateExplorer

/-- A query begins with its base, a blank line and its resumption. -/
theorem Query.render_toList (vocabulary : Vocabulary) (query : Query) :
    ∃ more : List Char, (query.render vocabulary).toList =
      Text.trimEnd query.base.toList ++
        '\n' :: '\n' :: (Text.trimEnd query.resumption.toList ++ more) := by
  refine ⟨("\n" ++ (goalPredicates vocabulary query.goal ++
    "fact \x7b " ++ vocabulary.initPredicate ++ "[first] \x7d\n" ++
    "fact \x7b all s: " ++ vocabulary.stateSig ++ " - last | " ++ vocabulary.transitionRelation ++
    "[s, s.next] \x7d\n" ++
    "run " ++ commandBlock (goalCommand vocabulary query.goal) ++ " for exactly " ++
    toString (query.bound + 1) ++ " " ++ vocabulary.stateSig ++ "\n")).toList, ?_⟩
  delta Query.render
  simp [trimmedEnd]

namespace Problem

/-- The condition of a predicate is what its body is read as. -/
theorem of_conditionOf_eq_ok {fields : Schema} {text body : List Char} {name : String}
    {condition : Condition} (hbody : Predicate.body? name text = .ok (some body))
    (h : conditionOf fields text name = .ok condition) :
    Condition.parse (String.ofList body) = .ok condition := by
  simp only [conditionOf, hbody] at h
  cases hparse : Condition.parse (String.ofList body) with
  | error e => simp [hparse, throw, throwThe, MonadExceptOf.throw] at h
  | ok found =>
    simp only [hparse] at h
    split at h
    · cases h
    · exact congrArg Except.ok (Except.ok.inj h)

/-- A problem starts where the condition of its initial predicate says. -/
theorem of_read_eq_ok {fields : Schema} {vocabulary : Vocabulary} {text : String}
    {problem : Problem} (h : read fields vocabulary text = .ok problem) :
    ∃ condition, conditionOf fields text.toList vocabulary.initPredicate = .ok condition ∧
      problem.start = startOf fields vocabulary.transitionField condition := by
  obtain ⟨-, -, -, condition, hcondition, hstart, -⟩ := read_eq_ok_iff_exists_command.1 h
  exact ⟨condition, hcondition, hstart⟩

/-- The condition of a resumption decides where the chains start. -/
theorem start_of_read {fields : Schema} {vocabulary : Vocabulary} (query : Query)
    {problem : Problem} (hname : Text.isName vocabulary.initPredicate = true)
    (hbase : Predicate.find? vocabulary.initPredicate query.base.toList = none)
    (hstands : Predicate.Stands vocabulary.initPredicate (Text.trimEnd query.resumption.toList))
    (h : read fields vocabulary (query.render vocabulary) = .ok problem) :
    ∃ condition, Condition.parse (String.ofList
        (Predicate.bodyOf (Text.trimEnd query.resumption.toList))) = .ok condition ∧
      problem.start = startOf fields vocabulary.transitionField condition := by
  obtain ⟨more, htext⟩ := query.render_toList vocabulary
  have hbody : Predicate.body? vocabulary.initPredicate (query.render vocabulary).toList =
      .ok (some (Predicate.bodyOf (Text.trimEnd query.resumption.toList))) := by
    rw [htext]
    exact hstands.body?_eq hname hbase more
  obtain ⟨condition, hcondition, hstart⟩ := of_read_eq_ok h
  exact ⟨condition, of_conditionOf_eq_ok hbody hcondition, hstart⟩

/-! ### Fields that are given -/

/-- The equations of a condition are over its fields. -/
theorem mem_fields_of_equations? {condition : Condition} {found : List (String × List String)}
    (h : equations? condition = some found) : ∀ e ∈ found, e.1 ∈ condition.fields := by
  intro e he
  have hpart : Condition.equals e.1 e.2 ∈ condition.conjuncts := by
    rw [Condition.conjuncts_of_equations? h]
    exact List.mem_map_of_mem he
  exact Condition.mem_fields_of_mem_conjuncts hpart (List.mem_singleton_self _)

/-- Fields that were left out are added without values; what was given stays. -/
theorem get?_completed (names : List String) (given : NameMap (List String)) (name : String) :
    (names.foldl (fun m name => if m.contains name then m else m.insert name []) given).get? name =
      (given.get? name).or (if name ∈ names then some [] else none) := by
  induction names generalizing given with
  | nil => simp
  | cons n rest ih =>
    rw [List.foldl_cons, ih]
    by_cases hname : name = n
    · subst hname
      cases hget : given.get? name with
      | none => simp [NameMap.contains, hget, NameMap.get?_insert]
      | some values => simp [NameMap.contains, hget]
    · by_cases hcontains : given.contains n = true
      · simp [hcontains, hname]
      · simp [hcontains, NameMap.get?_insert, hname]

/-- Fields are fixed by equations only. -/
theorem of_fixedFields?_eq_some {fields : Schema} {transitionField : String} {condition : Condition}
    {given : NameMap (List String)} (h : fixedFields? fields transitionField condition = some given) :
    ∃ found, equations? condition = some found ∧
      ∀ name, given.get? name = ((NameMap.ofList found).get? name).or
        (if name ∈ fields.names then some [] else none) := by
  obtain ⟨found, hfound, hfixed⟩ := Option.bind_eq_some_iff.1 h
  dsimp only at hfixed
  split at hfixed
  · obtain rfl := Option.some.inj hfixed
    exact ⟨found, hfound, get?_completed fields.names _⟩
  · cases hfixed

/-- Chains start with given fields only where the condition fixes them. -/
theorem fixedFields?_of_startOf {fields : Schema} {transitionField : String} {condition : Condition}
    {given : NameMap (List String)} (h : startOf fields transitionField condition = .fixed given) :
    fixedFields? fields transitionField condition = some given := by
  unfold startOf at h
  split at h
  · rename_i fixed hfixed
    rwa [← Start.fixed.inj h]
  · cases h

/-- Where chains start with given fields, these are the declared ones. -/
theorem isSome_get?_of_startOf {fields : Schema} {transitionField : String} {condition : Condition}
    {given : NameMap (List String)} (hdeclared : ∀ name ∈ condition.fields, name ∈ fields.names)
    (h : startOf fields transitionField condition = .fixed given) (name : String) :
    (given.get? name).isSome = true ↔ name ∈ fields.names := by
  obtain ⟨found, hfound, hgiven⟩ := of_fixedFields?_eq_some (fixedFields?_of_startOf h)
  rw [hgiven, Option.isSome_or, Bool.or_eq_true]
  constructor
  · rintro (hlisted | hname)
    · obtain ⟨e, he, rfl⟩ := List.mem_map.1 (NameMap.isSome_get?_ofList_iff.1 hlisted)
      exact hdeclared _ (mem_fields_of_equations? hfound e he)
    · by_contra hnot
      simp [hnot] at hname
  · exact fun hname => .inr (by simp [hname])

/-! ### Resuming from a state -/

/-- A conjunction of equations has these equations. -/
theorem equations?_allOf (entries : List (String × List String)) :
    equations? (Condition.allOf (entries.map fun e => .equals e.1 (valueSet e.2))) =
      some (entries.map fun e => (e.1, valueSet e.2)) := by
  have hparts (entries : List (String × List String)) :
      equations? (.all (entries.map fun e => .equals e.1 (valueSet e.2))) =
        some (entries.map fun e => (e.1, valueSet e.2)) := by
    induction entries with
    | nil => rfl
    | cons e rest ih =>
      simp only [equations?] at ih ⊢
      simp [ih]
  rcases entries with _ | ⟨e, _ | ⟨f, rest⟩⟩
  · rfl
  · rfl
  · exact hparts (e :: f :: rest)

/-- The equations of a state that fits fix its sets. -/
theorem startOf_equations {fields : Schema} (transitionField : String) {state : State}
    (hfits : state.Fits fields) :
    startOf fields transitionField (Condition.allOf
        (state.fields.entries.map fun e => .equals e.1 (valueSet e.2))) = .fixed state.sets := by
  have hgiven : NameMap.ofList (state.fields.entries.map fun e => (e.1, valueSet e.2)) =
      state.sets := by
    refine NameMap.ext_get? fun name => NameMap.get?_ofList ?_ name
    exact state.sets.nodup_names
  have hcontains : ∀ name ∈ fields.names, state.sets.contains name = true := by
    intro name hname
    have hfield := (hfits.fields name).2 hname
    rw [State.hasField, NameMap.contains] at hfield
    rw [NameMap.contains, State.get?_sets, State.values?, Option.isSome_map]
    exact hfield
  have hinserted (names : List String) (hnames : names ⊆ fields.names) :
      names.foldl (fun m name => if m.contains name then m else m.insert name []) state.sets =
        state.sets := by
    induction names with
    | nil => rfl
    | cons name rest ih =>
      rw [List.foldl_cons, if_pos (hcontains name (hnames List.mem_cons_self)),
        ih fun n hn => hnames (List.mem_cons_of_mem _ hn)]
  have hall : (fields.names.all fun name =>
      name == transitionField || state.sets.contains name) = true :=
    List.all_eq_true.2 fun name hname => by rw [hcontains name hname, Bool.or_true]
  have hfixed : fixedFields? fields transitionField (Condition.allOf
      (state.fields.entries.map fun e => .equals e.1 (valueSet e.2))) = some state.sets := by
    simp only [fixedFields?, equations?_allOf, Option.bind_eq_bind, Option.bind_some, hgiven, hall,
      if_true, hinserted _ (List.Subset.refl _)]
    rfl
  rw [startOf, hfixed]

end Problem

namespace State

/-- The characters of texts with a separator between them are theirs or the separator's. -/
theorem mem_intercalate {separator : String} {parts : List String} {c : Char}
    (h : c ∈ (separator.intercalate parts).toList) :
    c ∈ separator.toList ∨ ∃ part ∈ parts, c ∈ part.toList := by
  match parts with
  | [] => simp at h
  | [part] => exact .inr ⟨part, List.mem_cons_self, by simpa using h⟩
  | part :: next :: rest =>
    rw [String.intercalate_cons_cons, String.toList_append, String.toList_append] at h
    rcases List.mem_append.1 h with h | h
    · rcases List.mem_append.1 h with h | h
      · exact .inr ⟨part, List.mem_cons_self, h⟩
      · exact .inl h
    · rcases mem_intercalate h with h | ⟨other, hother, h⟩
      · exact .inl h
      · exact .inr ⟨other, List.mem_cons_of_mem _ hother, h⟩

/-- A term for words holds no braces. -/
theorem not_brace_of_mem_valueTerm {schema : Schema} {name : String} {values : List String}
    (h : ∀ v ∈ values, Condition.Word v) :
    ∀ c ∈ (valueTerm schema name values).toList, c ≠ '\x7b' ∧ c ≠ '\x7d' := by
  intro c hc
  match values with
  | [] =>
    rw [valueTerm] at hc
    cases hfield : schema.field? name with
    | none =>
      rw [hfield] at hc
      exact Text.of_mem_of_all (by decide) hc
    | some field =>
      rw [hfield] at hc
      rcases mem_intercalate hc with hc | ⟨part, hpart, hc⟩
      · exact Text.of_mem_of_all (by decide) hc
      · rw [List.eq_of_mem_replicate hpart] at hc
        exact Text.of_mem_of_all (by decide) hc
  | value :: rest =>
    rcases mem_intercalate hc with hc | ⟨part, hpart, hc⟩
    · exact Text.of_mem_of_all (by decide) hc
    · exact (h part hpart).not_brace c hc

/-- The equations of a state that fits hold no braces. -/
theorem not_brace_of_mem_equations {schema : Schema} {state : State}
    (hschema : ∀ name ∈ schema.names, Text.isName name = true) (hfits : state.Fits schema) :
    ∀ c ∈ (state.equations schema).toList, c ≠ '\x7b' ∧ c ≠ '\x7d' := by
  intro c hc
  rw [equations, String.toList_join] at hc
  obtain ⟨line, hline, hc⟩ := List.mem_flatMap.1 hc
  obtain ⟨⟨name, values⟩, hentry, rfl⟩ := List.mem_map.1 hline
  have hvalues : state.values? name = some values := NameMap.mem_entries_iff.1 hentry
  have hname : Text.isName name = true := hschema name (hfits.mem_names hvalues)
  simp only [String.toList_append, List.mem_append] at hc
  rcases hc with (((hc | hc) | hc) | hc) | hc
  · exact Text.of_mem_of_all (by decide) hc
  · exact Text.ne_and_ne_of_isName hname (by decide) (by decide) c hc
  · exact Text.of_mem_of_all (by decide) hc
  · exact not_brace_of_mem_valueTerm (hfits.words name values hvalues) c hc
  · exact Text.of_mem_of_all (by decide) hc

/-- The constraint of a state that fits is a predicate by itself, and its body are the equations. -/
theorem stands_constraint {schema : Schema} {state : State} {name signature : String}
    (hname : Text.isName name = true) (hsignature : Text.isName signature = true)
    (hschema : ∀ name ∈ schema.names, Text.isName name = true) (hfits : state.Fits schema) :
    Predicate.Stands name (Text.trimEnd (state.constraint schema name signature).toList) ∧
      Predicate.bodyOf (Text.trimEnd (state.constraint schema name signature).toList) =
        '\n' :: (state.equations schema).toList := by
  have hinner : ∀ c ∈ '\n' :: (state.equations schema).toList, c ≠ '\x7b' ∧ c ≠ '\x7d' := by
    intro c hc
    rcases List.mem_cons.1 hc with rfl | hc
    · decide
    · exact not_brace_of_mem_equations hschema hfits c hc
  obtain ⟨hstands, hbody⟩ := Predicate.stands_block hname
    (Text.ne_and_ne_of_isName hsignature (by decide) (by decide)) hinner
  have htext : (state.constraint schema name signature).toList =
      Predicate.block name signature ('\n' :: (state.equations schema).toList) ++ ['\n'] :=
    Predicate.statePredicate_toList name signature (state.equations schema)
  have hfeed : Text.trimEnd ['\n'] = [] := rfl
  rw [htext, Text.trimEnd_append, if_pos hfeed, hstands.trimEnd]
  exact ⟨hstands, hbody⟩

end State

namespace Problem

variable {fields : Schema} {vocabulary : Vocabulary} {base : String} {problem : Problem}

/-- Queries that resume from the same predicate start alike. -/
theorem start_eq_of_read {resumption : String} {other : Problem} {goal goal' : Goal}
    {bound bound' : Nat} (hname : Text.isName vocabulary.initPredicate = true)
    (hbase : Predicate.find? vocabulary.initPredicate base.toList = none)
    (hstands : Predicate.Stands vocabulary.initPredicate resumption.toList)
    (h : read fields vocabulary (Query.render vocabulary ⟨base, resumption, goal, bound⟩) =
      .ok problem)
    (h' : read fields vocabulary (Query.render vocabulary ⟨base, resumption, goal', bound'⟩) =
      .ok other) : problem.start = other.start := by
  rw [← hstands.trimEnd] at hstands
  obtain ⟨condition, hparse, hstart⟩ :=
    start_of_read ⟨base, resumption, goal, bound⟩ hname hbase hstands h
  obtain ⟨condition', hparse', hstart'⟩ :=
    start_of_read ⟨base, resumption, goal', bound'⟩ hname hbase hstands h'
  obtain rfl : condition = condition' := Except.ok.inj (hparse.symm.trans hparse')
  rw [hstart, hstart']

/-- A query that resumes from a state that fits starts where the fields hold its sets. -/
theorem start_of_resumed {state : State} {goal : Goal} {bound : Nat}
    (hname : Text.isName vocabulary.initPredicate = true)
    (hsignature : Text.isName vocabulary.stateSig = true)
    (hfields : ∀ name ∈ fields.names, Text.isName name = true)
    (hbase : Predicate.find? vocabulary.initPredicate base.toList = none)
    (hfits : state.Fits fields)
    (h : read fields vocabulary (Query.render vocabulary ⟨base,
      state.constraint fields vocabulary.initPredicate vocabulary.stateSig, goal, bound⟩) =
      .ok problem) : problem.start = .fixed state.sets := by
  obtain ⟨hstands, hbody⟩ := State.stands_constraint hname hsignature hfields hfits
  obtain ⟨condition, hparse, hstart⟩ := start_of_read ⟨base,
    state.constraint fields vocabulary.initPredicate vocabulary.stateSig, goal, bound⟩
    hname hbase hstands h
  dsimp only at hparse
  rw [hbody, Condition.parse_equations hfields hfits] at hparse
  rw [hstart, ← Except.ok.inj hparse, startOf_equations vocabulary.transitionField hfits]

end Problem

end StateExplorer
