import StateExplorer.Proofs.Query.Reading
import StateExplorer.Proofs.System.Deepening

/-!
# Queries that differ in their bound

A search asks for the same goal with one bound after another. The bound stands at the end of the
command, after the last brace of the query, so it has no part in any predicate: a query for some
state is read with the same start and the same condition whatever its bound is, or refused with
the same error. This holds even where the state signature is mistaken for the name of another
goal, as long as it is not mistaken for the predicate of a step.
-/

namespace StateExplorer

/-- A needle whose first character is not in a text does not begin in that text. -/
theorem Text.infix_append_iff_of_not_mem {first : Char} {needle before after : List Char}
    (h : first ∉ before) : first :: needle <:+: before ++ after ↔ first :: needle <:+: after := by
  induction before with
  | nil => rfl
  | cons c before ih =>
    rw [List.mem_cons, not_or] at h
    rw [List.cons_append, infix_cons_iff_of_ne h.1, ih h.2]

namespace Predicate

variable {name : String}

/-- A block that is open in a text stays open where no brace follows. -/
theorem splitBlock?_append_of_none {depth : Nat} {text more : List Char}
    (hmore : ∀ c ∈ more, c ≠ '\x7b' ∧ c ≠ '\x7d') (h : splitBlock? depth text = none) :
    splitBlock? depth (text ++ more) = none := by
  induction text generalizing depth with
  | nil =>
    have hstart := splitBlock?_start hmore depth []
    rwa [List.append_nil] at hstart
  | cons c rest ih =>
    simp only [List.cons_append, splitBlock?] at h ⊢
    split
    · rw [if_pos ‹_›, Option.map_eq_none_iff] at h
      rw [ih h, Option.map_none]
    · rw [if_neg ‹_›] at h
      split
      · rw [if_pos ‹_›] at h
        rcases depth with _ | _ | depth
        · rfl
        · cases h
        · exact Option.map_eq_none_iff.2 (ih (Option.map_eq_none_iff.1 h))
      · rw [if_neg ‹_›, Option.map_eq_none_iff] at h
        rw [ih h, Option.map_none]

/-- Whether a text that follows a brace neither opens nor closes a block and holds no heading. -/
structure Quiet (name : String) (more : List Char) : Prop where
  not_brace : ∀ c ∈ more, c ≠ '\x7b' ∧ c ≠ '\x7d'
  not_heading : ¬heading name <:+: more

/-- What follows the last brace of a text without a heading has no part in any body. -/
theorem body?_append_quiet (hname : Text.isName name = true) (before : List Char)
    {more : List Char} (hmore : Quiet name more) :
    body? name (before ++ '\x7d' :: more) = body? name (before ++ ['\x7d']) := by
  have hbrace : '\x7d' ∉ heading name := not_mem_heading hname (by decide) (by decide)
  cases hfind : find? name before with
  | none =>
    have hnone {rest : List Char} (hrest : ¬heading name <:+: rest) :
        find? name (before ++ '\x7d' :: rest) = none := by
      have hclosed : splitAt? (heading name) 0 ('\x7d' :: rest) = none := by
        refine find?_eq_none_of_not_infix ?_
        rw [heading, List.cons_append, Text.infix_cons_iff_of_ne (by decide)]
        exact hrest
      rw [find?, splitAt?_append_of_none hfind (Nat.zero_le _) hbrace, hclosed]
      rfl
    have hnil : ¬heading name <:+: [] := by simp [heading]
    simp only [body?, span?, hnone hmore.not_heading, hnone hnil]
  | some found =>
    obtain ⟨start, rest⟩ := found
    have hend (text : List Char) : isNameEnd ('\x7d' :: text) = true := by
      have hword : Text.isWordChar '\x7d' = false := by decide +kernel
      simp [isNameEnd, hword]
    have hlong (text : List Char) :
        find? name (before ++ '\x7d' :: text) = some (start, rest ++ '\x7d' :: text) :=
      splitAt?_append hfind (hend text)
    have hjoin : rest ++ '\x7d' :: more = (rest ++ ['\x7d']) ++ more := by simp
    simp only [body?, span?, hlong, hjoin]
    cases hblock : splitBlock? 0 (rest ++ ['\x7d']) with
    | none => rw [splitBlock?_append_of_none hmore.not_brace hblock]
    | some block =>
      rw [splitBlock?_append hblock more]
      rfl

end Predicate

namespace Query

variable {vocabulary : Vocabulary} {goal : Goal}

/-- What follows the last brace of a query. -/
def scopeEnd (sig : String) (bound : Nat) : List Char :=
  " for exactly".toList ++ ' ' :: (scopeText sig bound ++ ['\n'])

/-- Queries that differ in their bound differ after the last brace only. -/
theorem exists_render_eq (vocabulary : Vocabulary) (base resumption : String) (goal : Goal) :
    ∃ before : List Char, ∀ bound, (render vocabulary ⟨base, resumption, goal, bound⟩).toList =
      before ++ '\x7d' :: scopeEnd vocabulary.stateSig bound := by
  have hblock : (commandBlock (goalCommand vocabulary goal)).toList =
      '\x7b' :: (commandText vocabulary goal ++ ['\x7d']) := by
    rw [commandBlock, commandText]
    split <;> simp
  refine ⟨(trimmedEnd base ++ "\n\n" ++ trimmedEnd resumption ++ "\n" ++
    goalPredicates vocabulary goal ++
    "fact \x7b " ++ vocabulary.initPredicate ++ "[first] \x7d\n" ++
    "fact \x7b all s: " ++ vocabulary.stateSig ++ " - last | " ++ vocabulary.transitionRelation ++
    "[s, s.next] \x7d\nrun ").toList ++ '\x7b' :: commandText vocabulary goal, fun bound => ?_⟩
  delta render
  unfold scopeEnd scopeText
  simp [hblock, Text.decimal]

/-- No predicate begins after the last brace of a query. -/
theorem quiet_scopeEnd {sig name : String} (hsig : Text.isName sig = true) (bound : Nat) :
    Predicate.Quiet name (scopeEnd sig bound) := by
  refine ⟨fun c hc => ?_, fun hoccurs => ?_⟩
  · unfold scopeEnd scopeText at hc
    simp only [List.mem_append, List.mem_cons, List.not_mem_nil, or_false] at hc
    rcases hc with hc | rfl | (hc | rfl | hc) | rfl
    · exact Text.of_mem_of_all (by decide) hc
    · decide
    · refine ⟨?_, ?_⟩
      · rintro rfl
        exact Text.not_mem_decimal (by decide) _ hc
      · rintro rfl
        exact Text.not_mem_decimal (by decide) _ hc
    · decide
    · exact Text.ne_and_ne_of_isName hsig (by decide) (by decide) c hc
    · decide
  · have hkeyword : Predicate.keyword <:+: scopeEnd sig bound :=
      List.IsInfix.trans (List.prefix_append Predicate.keyword name.toList).isInfix hoccurs
    have htext : scopeEnd sig bound = (" for exactly".toList ++ ' ' ::
        (Text.decimal (bound + 1) ++ [' '])) ++ (sig.toList ++ ['\n']) := by
      unfold scopeEnd scopeText
      simp
    -- The keyword could begin in the signature only, and there is no blank after that.
    have hfirst : 'p' ∉ " for exactly".toList ++ ' ' :: (Text.decimal (bound + 1) ++ [' ']) := by
      have hdigits := Text.not_mem_decimal (c := 'p') (by decide) (bound + 1)
      simp [hdigits]
    rw [htext, Predicate.keyword, Text.infix_append_iff_of_not_mem hfirst] at hkeyword
    refine Text.not_infix_of_not_mem (c := ' ') (by decide) (fun hmem => ?_) hkeyword
    rcases List.mem_append.1 hmem with hmem | hmem
    · exact absurd (Text.isNameChar_of_isName hsig ' ' hmem) (by decide)
    · exact absurd hmem (by decide)

/-- The bound of a query has no part in the conditions of its predicates. -/
theorem conditionOf_render_bound {fields : Schema} {name : String} (hname : Text.isName name = true)
    (hsig : Text.isName vocabulary.stateSig = true) (base resumption : String) (goal : Goal)
    (bound other : Nat) :
    Problem.conditionOf fields (render vocabulary ⟨base, resumption, goal, bound⟩).toList name =
      Problem.conditionOf fields (render vocabulary ⟨base, resumption, goal, other⟩).toList name := by
  obtain ⟨before, hbefore⟩ := exists_render_eq vocabulary base resumption goal
  have hbody : Predicate.body? name (render vocabulary ⟨base, resumption, goal, bound⟩).toList =
      Predicate.body? name (render vocabulary ⟨base, resumption, goal, other⟩).toList := by
    rw [hbefore, hbefore, Predicate.body?_append_quiet hname before (quiet_scopeEnd hsig bound),
      Predicate.body?_append_quiet hname before (quiet_scopeEnd hsig other)]
  simp only [Problem.conditionOf, hbody]

/-! ### The predicate for some state -/

/-- In the command of a goal that asks for some state, the name of a predicate for some state is the
one of the goal, or a part of the state signature. -/
theorem infix_commandLine_someText_iff {needle name : String}
    (hneedle : needle = breakName ∨ needle = forceName) (sig : String) (bound : Nat) :
    needle.toList <:+: commandLine (someText sig name) sig bound ↔
      needle.toList <:+: sig.toList ∨ needle.toList <:+: name.toList := by
  have hmarks : '_' ∈ needle.toList ∧ ' ' ∉ needle.toList ∧ '[' ∉ needle.toList ∧
      '\x7b' ∉ needle.toList ∧ '\x7d' ∉ needle.toList := by
    rcases hneedle with rfl | rfl <;> decide
  obtain ⟨hmark, hblank, hopening, hbraces⟩ := hmarks
  by_cases hsig : needle.toList <:+: sig.toList
  · have hsuffix : sig.toList <:+ commandLine (someText sig name) sig bound := by
      refine ⟨"run \x7b".toList ++ someText sig name ++ '\x7d' :: ' ' :: ("for exactly".toList ++
        ' ' :: (Text.decimal (bound + 1) ++ [' '])), ?_⟩
      unfold commandLine scopeText
      simp
    exact iff_of_true (hsig.trans hsuffix.isInfix) (.inl hsig)
  · rw [infix_commandLine_iff hmark hblank hbraces hsig,
      infix_someText_iff hmark hblank hopening hsig, or_iff_right hsig]

/-- The predicate that the command of a goal is taken to want of some state is one of two, whatever
the bound is. -/
theorem exists_reachOf_eq {name : String} (hname : name = breakName ∨ name = forceName)
    (sig : String) : ∃ wanted, Text.isName wanted = true ∧ ∀ fields text bound,
      Problem.reachOf fields text (commandLine (someText sig name) sig bound) =
        some <$> Problem.conditionOf fields text wanted := by
  by_cases hbreak : breakName.toList <:+: sig.toList ∨ breakName.toList <:+: name.toList
  · refine ⟨breakName, by decide, fun fields text bound => ?_⟩
    rw [Problem.reachOf, if_pos]
    · cases Problem.conditionOf fields text breakName <;> rfl
    · exact Text.hasInfix_iff.2 ((infix_commandLine_someText_iff (.inl rfl) sig bound).2 hbreak)
  · have hforce : name = forceName := by
      rcases hname with rfl | rfl
      · exact absurd (.inr (List.infix_refl _)) hbreak
      · rfl
    refine ⟨forceName, by decide, fun fields text bound => ?_⟩
    rw [Problem.reachOf, if_neg, if_pos]
    · cases Problem.conditionOf fields text forceName <;> rfl
    · refine Text.hasInfix_iff.2 ((infix_commandLine_someText_iff (.inr rfl) sig bound).2 (.inr ?_))
      rw [hforce]
    · rw [Text.hasInfix_iff, infix_commandLine_someText_iff (.inl rfl)]
      exact hbreak

end Query

namespace Problem

open Query

variable {fields : Schema} {vocabulary : Vocabulary} {goal : Goal} {name : String}

/-- A query for some state is read with the same start and condition whatever its bound is, or is
refused with the same error, as long as the number of its states fits a word. -/
theorem exists_read_seeking (fields : Schema) (hinit : Text.isName vocabulary.initPredicate = true)
    (hsig : Text.isName vocabulary.stateSig = true)
    (hpath : ¬pathName.toList <:+: vocabulary.stateSig.toList)
    (hname : name = breakName ∨ name = forceName)
    (hgoal : goalCommand vocabulary goal = someState vocabulary.stateSig name)
    (base resumption : String) :
    ∃ parts : Except ReadError (Start × Condition), ∀ bound,
      (bound < Text.maxWord →
        read fields vocabulary (render vocabulary ⟨base, resumption, goal, bound⟩) =
          parts.map fun p => seeking p.1 p.2 bound) ∧
      (¬bound < Text.maxWord →
        ∃ e, read fields vocabulary (render vocabulary ⟨base, resumption, goal, bound⟩) =
          .error e) := by
  have htext := commandText_of_someState name hgoal
  obtain ⟨wanted, hwanted, hreach⟩ := exists_reachOf_eq hname vocabulary.stateSig
  have hmentions (bound : Nat) : mentions (commandLine (someText vocabulary.stateSig name)
      vocabulary.stateSig bound) = [] := by
    have hmark : ¬pathName.toList <:+: name.toList := by rcases hname with rfl | rfl <;> decide
    refine mentions_of_not_infix ?_
    rw [infix_commandLine_iff (by decide) (by decide) (by decide) hpath]
    exact not_pathName_someText hpath hmark
  have hscope (bound : Nat) := scope_commandLine vocabulary.stateSig bound
    (not_scope_commandText hsig goal)
  have hcommand (bound : Nat) := command?_render ⟨base, resumption, goal, bound⟩ hsig
    (not_break_of_mem_commandText hsig goal)
  simp only [htext] at hscope hcommand
  refine ⟨do
    let init ← conditionOf fields (render vocabulary ⟨base, resumption, goal, 0⟩).toList
      vocabulary.initPredicate
    let condition ← conditionOf fields (render vocabulary ⟨base, resumption, goal, 0⟩).toList wanted
    return (startOf fields vocabulary.transitionField init, condition), fun bound => ⟨?_, ?_⟩⟩
  · intro hbound
    simp only [read, hcommand, boundOf, hscope, if_pos hbound, hmentions, hreach, List.mapM_nil,
      conditionOf_render_bound hinit hsig base resumption goal bound 0,
      conditionOf_render_bound hwanted hsig base resumption goal bound 0]
    cases conditionOf fields (render vocabulary ⟨base, resumption, goal, 0⟩).toList
      vocabulary.initPredicate with
    | error e => rfl
    | ok init =>
      cases conditionOf fields (render vocabulary ⟨base, resumption, goal, 0⟩).toList wanted <;> rfl
  · intro hbound
    refine ⟨.badScope (String.ofList (commandLine (someText vocabulary.stateSig name)
      vocabulary.stateSig bound)), ?_⟩
    simp only [read, hcommand, boundOf, hscope, if_neg hbound]
    rfl

end Problem

end StateExplorer
