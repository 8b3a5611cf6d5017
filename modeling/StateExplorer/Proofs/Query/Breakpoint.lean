import StateExplorer.Proofs.Condition.Parsing
import StateExplorer.Proofs.Query.Reading
import StateExplorer.Proofs.System.Enumeration

/-!
# Breakpoints are alternatives

The constraints at which a search stops are written into one predicate, each in parentheses and on a
line of its own, and the predicate is read back as one condition. What stands in parentheses keeps
its meaning, whatever connectives it has of its own, so the condition holds where one of the
constraints does, and neither their order nor their repetition matters.
-/

namespace StateExplorer

namespace Condition

open Grammar

/-! ### Texts without line feeds -/

/-- A text without line feeds that is not blank states the condition of one formula. -/
theorem exists_formula_of_parse {text : List Char} (hfeed : '\n' ∉ text)
    (hblank : ¬∀ c ∈ text, Text.isBlank c = true) {condition : Condition}
    (h : parse (String.ofList text) = .ok condition) :
    ∃ tokens, Token.Spelled text tokens ∧ Formula tokens condition := by
  obtain ⟨tokens, parts, hspelled, hbody, rfl⟩ := states_of_parse h
  rw [String.toList_ofList] at hspelled
  have hnone := hspelled.newline_not_mem hfeed
  have hzero {count : Nat} (h : Token.newline ∉ feeds count) : count = 0 := by
    cases count with
    | zero => rfl
    | succ count => exact absurd List.mem_cons_self h
  cases hbody with
  | blank count =>
    obtain rfl := hzero hnone
    exact absurd hspelled.isBlank_of_nil hblank
  | @lines inner _ before after hlines =>
    simp only [List.mem_append, not_or] at hnone
    obtain rfl := hzero hnone.1
    obtain rfl := hzero hnone.2.2
    refine ⟨_, hspelled, ?_⟩
    rw [feeds, List.replicate_zero, List.nil_append, List.append_nil]
    cases hlines with
    | single hformula => exact hformula
    | line _ count _ => simp [feeds, List.replicate_succ] at hnone

/-- Whether a text can be registered as a constraint on one line: it opens or closes no block, and it
states a condition by itself. -/
structure IsConstraint (text : String) : Prop where
  not_feed : '\n' ∉ text.toList
  not_brace : ∀ c ∈ text.toList, c ≠ '\x7b' ∧ c ≠ '\x7d'
  not_blank : Query.isBlank text = false
  exists_parse : ∃ condition, parse text = .ok condition

/-- A constraint states its condition by one formula, also without the blanks around it. -/
theorem IsConstraint.exists_formula {text : String} (h : IsConstraint text) {condition : Condition}
    (hparse : parse text = .ok condition) :
    ∃ tokens, Token.Spelled (Text.trim text.toList) tokens ∧ Formula tokens condition := by
  obtain ⟨before, after, htext, hbefore, hafter⟩ := Text.exists_append_trim_append text.toList
  have hfeed : '\n' ∉ Text.trim text.toList := by
    intro hmem
    refine h.not_feed (htext ▸ ?_)
    simp [hmem]
  have hblank : ¬∀ c ∈ Text.trim text.toList, Text.isBlank c = true := by
    intro hall
    have hnot := h.not_blank
    rw [Query.isBlank, List.all_eq_false] at hnot
    obtain ⟨c, hc, hletter⟩ := hnot
    rw [← htext] at hc
    simp only [List.mem_append] at hc
    rcases hc with (hc | hc) | hc
    · exact hletter (hbefore c hc)
    · exact hletter (hall c hc)
    · exact hletter (hafter c hc)
  refine exists_formula_of_parse hfeed hblank ?_
  rw [← toOption_eq_some_iff, ← toOption_parse_append hbefore hafter, htext, String.ofList_toList,
    toOption_eq_some_iff, hparse]

/-! ### Alternatives in parentheses -/

/-- A text in parentheses is spelled by its tokens in parentheses. -/
theorem Token.Spelled.parentheses {text : List Char} {tokens : List Token} (h : Spelled text tokens) :
    Spelled ('\t' :: '(' :: (text ++ [')'])) (.opening :: (tokens ++ [.closing])) := by
  have hclosed : Spelled (text ++ [')']) (tokens ++ [.closing]) := h.append_mark (by decide) .nil
  exact .blank (by decide) (by decide) (.mark (by decide) hclosed)

/-- A formula in parentheses is an alternative of its own. -/
theorem Grammar.Formula.alternative {tokens : List Token} {condition : Condition}
    (h : Formula tokens condition) :
    Conjunction (.opening :: (tokens ++ [.closing])) [condition] := by
  obtain ⟨parts, hparts, rfl⟩ := h
  exact .single (.parentheses 0 0 hparts)

/-- Constraints in parentheses, one on each line, are the alternatives of a formula. -/
theorem exists_disjunction {constraints : List String} (hne : constraints ≠ [])
    (h : ∀ c ∈ constraints, IsConstraint c) :
    ∃ tokens parts, Token.Spelled (Goal.disjunction constraints).toList tokens ∧
      Disjunction tokens parts ∧ ∀ part, part ∈ parts ↔ ∃ c ∈ constraints, parse c = .ok part := by
  match constraints with
  | [constraint] =>
    have hconstraint := h constraint List.mem_cons_self
    obtain ⟨condition, hparse⟩ := hconstraint.exists_parse
    obtain ⟨tokens, hspelled, hformula⟩ := hconstraint.exists_formula hparse
    refine ⟨_, _, ?_, .single hformula.alternative, fun part => ?_⟩
    · simpa [Goal.disjunction, Query.trimmed] using hspelled.parentheses
    · simp [allOf, hparse, eq_comm]
  | constraint :: next :: rest =>
    have hconstraint := h constraint List.mem_cons_self
    obtain ⟨condition, hparse⟩ := hconstraint.exists_parse
    obtain ⟨tokens, hspelled, hformula⟩ := hconstraint.exists_formula hparse
    obtain ⟨others, parts, hothers, hdisjunction, hparts⟩ :=
      exists_disjunction (List.cons_ne_nil next rest) fun c hc => h c (List.mem_cons_of_mem _ hc)
    have hword : Token.Spelled (['o', 'r'] ++ []) [.word "or"] :=
      .word (by decide) (fun _ => Text.of_mem_of_all (by decide)) (by simp) .nil
    have hjoined : Token.Spelled (" or\n".toList ++ (Goal.disjunction (next :: rest)).toList)
        (.word "or" :: (feeds 1 ++ others)) :=
      .blank (by decide) (by decide) (hword.append_mark (by decide) hothers)
    have htext : (Goal.disjunction (constraint :: next :: rest)).toList =
        '\t' :: '(' :: (Text.trim constraint.toList ++ [')']) ++
          (" or\n".toList ++ (Goal.disjunction (next :: rest)).toList) := by
      simp [Goal.disjunction, Query.trimmed, String.intercalate_cons_cons]
    have hor : Disjunction (.opening :: (tokens ++ [.closing]) ++ .word "or" :: (feeds 1 ++ others))
        (allOf [condition] :: parts) := .or hformula.alternative (by decide) 1 hdisjunction
    refine ⟨_, _, ?_, hor, fun part => ?_⟩
    · rw [htext]
      exact hspelled.parentheses.append hjoined (by simp [Token.isLetter, Token.ofChar?, Text.isBlank])
    · rw [List.mem_cons, hparts,
        List.exists_mem_cons_iff (fun c => parse c = .ok part) constraint (next :: rest), hparse,
        Except.ok.injEq, eq_comm]
      rfl

/-- Alternatives name the fields that one of them names. -/
theorem mem_fields_anyOf {parts : List Condition} {field : String} :
    field ∈ (anyOf parts).fields ↔ ∃ part ∈ parts, field ∈ part.fields := by
  match parts with
  | [] => simp [anyOf, fields, fieldsOf]
  | [part] => simp [anyOf]
  | part :: next :: rest =>
    rw [anyOf, fields, fieldsOf_eq_flatMap, List.mem_flatMap]
    simp

/-- Alternatives hold where one of them does. -/
theorem holds_anyOf_iff {parts : List Condition} {fields : View} :
    (anyOf parts).holds fields = true ↔ ∃ part ∈ parts, part.holds fields = true := by
  match parts with
  | [] => simp [anyOf, holds, anyHolds]
  | [part] => simp [anyOf]
  | part :: next :: rest =>
    rw [anyOf, holds, anyHolds_eq_any, List.any_eq_true]
    simp

end Condition

/-- Whether the predicate that is written for some constraints is read back as a condition. -/
def Query.BreaksAt (sig : String) (constraints : List String) (condition : Condition) : Prop :=
  ∃ body, Predicate.body? breakName (breakpointPredicate sig constraints).toList = .ok (some body) ∧
    Condition.parse (String.ofList body) = .ok condition

/-- The predicate for constraints is read back as the alternatives that they state. -/
theorem Query.exists_breaksAt {sig : String} (hsig : ∀ c ∈ sig.toList, c ≠ '\x7b' ∧ c ≠ '\x7d')
    {constraints : List String} (hne : constraints ≠ [])
    (h : ∀ c ∈ constraints, Condition.IsConstraint c) :
    ∃ parts, BreaksAt sig constraints (Condition.anyOf parts) ∧
      ∀ part, part ∈ parts ↔ ∃ c ∈ constraints, Condition.parse c = .ok part := by
  obtain ⟨tokens, parts, hspelled, hdisjunction, hparts⟩ := Condition.exists_disjunction hne h
  have hinner : ∀ c ∈ '\n' :: ((Goal.disjunction constraints).toList ++ ['\n']),
      c ≠ '\x7b' ∧ c ≠ '\x7d' := by
    have hbraces := Goal.not_brace_of_mem_disjunction fun c hc => (h c hc).not_brace
    simp only [List.mem_cons, List.mem_append, List.not_mem_nil, or_false]
    rintro c (rfl | hc | rfl)
    · decide
    · exact hbraces c hc
    · decide
  have hname : Text.isName breakName = true := by decide
  obtain ⟨hstands, hbody⟩ := Predicate.stands_block hname hsig hinner
  have htext : (breakpointPredicate sig constraints).toList =
      Predicate.block breakName sig ('\n' :: ((Goal.disjunction constraints).toList ++ ['\n'])) ++
        ['\n'] := by
    rw [breakpointPredicate, Predicate.statePredicate_toList]
    simp [Goal.disjunction]
  have hread : Predicate.body? breakName (breakpointPredicate sig constraints).toList =
      .ok (some ('\n' :: ((Goal.disjunction constraints).toList ++ ['\n']))) := by
    rw [htext, hstands.body?_append, hbody]
  refine ⟨parts, ⟨_, hread, ?_⟩, hparts⟩
  refine Condition.parse_eq_ok_iff.2 ⟨_, [Condition.anyOf parts], ?_,
    .lines 1 1 (.single ⟨parts, hdisjunction, rfl⟩), rfl⟩
  rw [String.toList_ofList]
  exact .mark (by decide) (hspelled.append_mark (by decide) .nil)

/-- Conditions that hold in the same states stop a search at the same chains. -/
theorem Problem.chains_eq_of_holds_iff {a b : Condition}
    (h : ∀ fields, a.holds fields = true ↔ b.holds fields = true) (problem : Problem)
    (system : TransitionSystem) (transitionField : String) (cap : Nat) :
    chains { problem with reach := some a } system transitionField cap =
      chains { problem with reach := some b } system transitionField cap := by
  have hadmits (position : Nat) (legs : List Leg) :
      admitsAll { problem with reach := some a } position legs =
        admitsAll { problem with reach := some b } position legs := by
    rw [Bool.eq_iff_iff, admitsAll_iff, admitsAll_iff]
  have hreached (chain : List Leg) : reached { problem with reach := some a } chain =
      reached { problem with reach := some b } chain := by
    rw [Bool.eq_iff_iff]
    simp only [reached, List.any_eq_true, h]
  have hsolutions : solutions { problem with reach := some a } system transitionField =
      solutions { problem with reach := some b } system transitionField := by
    funext left before leg
    simp only [solutions, hadmits, hreached]
  rw [chains_eq_take, chains_eq_take, hsolutions]

namespace Query

/-- Constraints on one line each, that state conditions by themselves, are read back together as one
condition. It names the fields that they name and holds where one of them holds, and a search stops
at the same chains in whatever order, and however often, they are listed. -/
theorem breaksAt_alternatives {sig : String} (hsig : ∀ c ∈ sig.toList, c ≠ '\x7b' ∧ c ≠ '\x7d')
    {constraints : List String} (hne : constraints ≠ [])
    (h : ∀ c ∈ constraints, Condition.IsConstraint c) :
    ∃ condition, BreaksAt sig constraints condition ∧
      (∀ field, field ∈ condition.fields ↔
        ∃ c ∈ constraints, ∃ part, Condition.parse c = .ok part ∧ field ∈ part.fields) ∧
      (∀ fields, condition.holds fields = true ↔
        ∃ c ∈ constraints, ∃ part, Condition.parse c = .ok part ∧ part.holds fields = true) ∧
      ∀ others, (∀ c, c ∈ others ↔ c ∈ constraints) →
        ∃ other, BreaksAt sig others other ∧
          ∀ (problem : Problem) (system : TransitionSystem) (transitionField : String) (cap : Nat),
            Problem.chains { problem with reach := some other } system transitionField cap =
              Problem.chains { problem with reach := some condition } system transitionField cap := by
  obtain ⟨parts, hbreaks, hparts⟩ := exists_breaksAt hsig hne h
  have hsome {P : Condition → Prop} : (∃ part ∈ parts, P part) ↔
      ∃ c ∈ constraints, ∃ part, Condition.parse c = .ok part ∧ P part := by
    constructor
    · rintro ⟨part, hpart, hP⟩
      obtain ⟨c, hc, hparse⟩ := (hparts part).1 hpart
      exact ⟨c, hc, part, hparse, hP⟩
    · rintro ⟨c, hc, part, hparse, hP⟩
      exact ⟨part, (hparts part).2 ⟨c, hc, hparse⟩, hP⟩
  refine ⟨_, hbreaks, fun field => Condition.mem_fields_anyOf.trans hsome,
    fun fields => Condition.holds_anyOf_iff.trans hsome, fun others hothers => ?_⟩
  have hne' : others ≠ [] := by
    obtain ⟨c, hc⟩ := List.exists_mem_of_ne_nil constraints hne
    exact List.ne_nil_of_mem ((hothers c).2 hc)
  obtain ⟨more, hmore, hstated⟩ := exists_breaksAt hsig hne' fun c hc => h c ((hothers c).1 hc)
  have hsame (part : Condition) : part ∈ more ↔ part ∈ parts := by
    simp only [hstated, hparts, hothers]
  refine ⟨_, hmore, Problem.chains_eq_of_holds_iff fun fields => ?_⟩
  simp only [Condition.holds_anyOf_iff, hsame]

/-- Two constraints with connectives of their own: the lamp is dark red, or it is on while the door is
open; or else the door is shut. -/
def twoBreakpoints : List String :=
  ["s.lamp = dark red or\tsome s.lamp && open in s.door", " (no s.door) "]

/-- The two constraints are read back as one condition, also when they are listed again in another
order; it holds where the first one does. -/
theorem breaksAt_alternatives_twoBreakpoints :
    (∀ c ∈ twoBreakpoints, Condition.IsConstraint c) ∧
      ∃ condition, BreaksAt "State" twoBreakpoints condition ∧
        condition.holds (.ofList [("lamp", ["darkred", "darkred"])]) = true ∧
        ∃ other, BreaksAt "State" (twoBreakpoints.reverse ++ twoBreakpoints) other := by
  have hlamp : Condition.Token.scan "s.lamp = dark red or\tsome s.lamp && open in s.door" =
      [.word "s.lamp", .equals, .word "dark", .word "red", .word "or", .word "some",
        .word "s.lamp", .word "&&", .word "open", .word "in", .word "s.door"] := by
    decide +kernel
  have hdoor : Condition.Token.scan " (no s.door) " =
      [.opening, .word "no", .word "s.door", .closing] := by
    decide +kernel
  have hfirst : Condition.parse "s.lamp = dark red or\tsome s.lamp && open in s.door" =
      .ok (.any [.equals "lamp" ["darkred"], .all [.nonEmpty "lamp", .contains "door" "open"]]) := by
    rw [Condition.parse, hlamp]
    rfl
  have hsecond : Condition.parse " (no s.door) " = .ok (.isEmpty "door") := by
    rw [Condition.parse, hdoor]
    rfl
  have h : ∀ c ∈ twoBreakpoints, Condition.IsConstraint c := by
    intro c hc
    obtain rfl | rfl : c = "s.lamp = dark red or\tsome s.lamp && open in s.door" ∨
        c = " (no s.door) " := by
      simpa [twoBreakpoints] using hc
    · exact ⟨by decide +kernel, fun _ => Text.of_mem_of_all (by decide +kernel),
        by decide +kernel, _, hfirst⟩
    · exact ⟨by decide +kernel, fun _ => Text.of_mem_of_all (by decide +kernel),
        by decide +kernel, _, hsecond⟩
  have hsig : ∀ c ∈ "State".toList, c ≠ '\x7b' ∧ c ≠ '\x7d' :=
    fun _ => Text.of_mem_of_all (by decide +kernel)
  have hne : twoBreakpoints ≠ [] := List.cons_ne_nil _ _
  obtain ⟨condition, hbreaks, -, hholds, hothers⟩ := breaksAt_alternatives hsig hne h
  obtain ⟨other, hother, -⟩ := hothers (twoBreakpoints.reverse ++ twoBreakpoints) (by simp)
  refine ⟨h, condition, hbreaks, (hholds _).2 ?_, other, hother⟩
  exact ⟨_, List.mem_cons_self, _, hfirst, by decide +kernel⟩

end Query

end StateExplorer
