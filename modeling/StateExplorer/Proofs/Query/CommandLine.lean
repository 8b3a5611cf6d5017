import StateExplorer.Proofs.Query.Command
import StateExplorer.Proofs.Text.Decimal
import StateExplorer.Proofs.Text.Infix

/-!
# Reading the command of a query

Where the state signature is a name, the command is the whole last line of a query. The number of
states is read back from it, and so is which predicates it runs: the numbers of the steps in the
order of their conditions, and whether some state is wanted at a breakpoint or after a transition.
For that no name in the command may look like one of the names for predicates.
-/

namespace StateExplorer

namespace Query

/-- What the names of all predicates for goals start with. -/
def reserved : List Char := "trellis_".toList

/-- What stands between the braces of a command. -/
def commandText (vocabulary : Vocabulary) (goal : Goal) : List Char :=
  if (goalCommand vocabulary goal).isEmpty then []
  else ' ' :: ((goalCommand vocabulary goal).toList ++ [' '])

/-- The number of states that a command asks for, and their signature. -/
def scopeText (sig : String) (bound : Nat) : List Char :=
  Text.decimal (bound + 1) ++ ' ' :: sig.toList

/-- The line of a command. -/
def commandLine (text : List Char) (sig : String) (bound : Nat) : List Char :=
  "run \x7b".toList ++ text ++ '\x7d' :: ' ' :: ("for exactly".toList ++ ' ' :: scopeText sig bound)

/-- The call of the predicate for a step. -/
def stepCall (step : Nat) : String :=
  pathName ++ toString step ++ "[" ++ stateAt (step + 1) ++ "]"

/-- The calls of the predicates for some steps, each after a text that leads to it, the first one
after another text than the rest. -/
def calls (lead : List Char) : List Nat → List Char
  | [] => [' ']
  | step :: rest =>
    lead ++ pathName.toList ++ Text.decimal step ++
      '[' :: ((stateAt (step + 1)).toList ++ ']' :: calls " and ".toList rest)

/-- A query ends in the line of its command. -/
theorem render_commandLine (vocabulary : Vocabulary) (query : Query) :
    ∃ before : List Char, (query.render vocabulary).toList =
      before ++ '\n' ::
        (commandLine (commandText vocabulary query.goal) vocabulary.stateSig query.bound ++
          ['\n']) := by
  have hblock : (commandBlock (goalCommand vocabulary query.goal)).toList =
      '\x7b' :: (commandText vocabulary query.goal ++ ['\x7d']) := by
    rw [commandBlock, commandText]
    split <;> simp
  refine ⟨(trimmedEnd query.base ++ "\n\n" ++ trimmedEnd query.resumption ++ "\n" ++
    goalPredicates vocabulary query.goal ++
    "fact \x7b " ++ vocabulary.initPredicate ++ "[first] \x7d\n" ++
    "fact \x7b all s: " ++ vocabulary.stateSig ++ " - last | " ++ vocabulary.transitionRelation ++
    "[s, s.next] \x7d").toList, ?_⟩
  delta Query.render
  simp [commandLine, scopeText, hblock, Text.decimal]

/-- The calls of the predicates for steps are joined by a conjunction. -/
theorem append_intercalate_calls {steps : List Nat} (h : steps ≠ []) (lead : List Char) :
    lead ++ ((" and ".intercalate (steps.map stepCall)).toList ++ [' ']) = calls lead steps := by
  match steps with
  | [step] => simp [calls, stepCall, Text.decimal]
  | step :: next :: rest =>
    have hmore := append_intercalate_calls (List.cons_ne_nil next rest) " and ".toList
    rw [List.map_cons] at hmore
    rw [List.map_cons, List.map_cons, String.intercalate_cons_cons, calls, ← hmore, stepCall]
    simp [Text.decimal]

/-- A goal on the path calls the predicates of the steps that something is asked of. -/
theorem commandText_path (vocabulary : Vocabulary) (constraints : List String) :
    commandText vocabulary (.path constraints) =
      if asked constraints = [] then [] else calls [' '] ((asked constraints).map (·.2)) := by
  have hcommand : goalCommand vocabulary (.path constraints) =
      " and ".intercalate (((asked constraints).map (·.2)).map stepCall) := by
    rw [goalCommand, List.map_map]
    rfl
  split
  · rename_i hnil
    rw [commandText, hcommand, hnil]
    rfl
  · rename_i hne
    have hsteps : (asked constraints).map (·.2) ≠ [] := by simpa using hne
    have hcalls := append_intercalate_calls hsteps [' ']
    have hstart := append_intercalate_calls hsteps []
    rw [commandText, hcommand, if_neg, ← hcalls]
    · rfl
    · intro hempty
      obtain ⟨first, rest, hasked⟩ := List.exists_cons_of_ne_nil hsteps
      rw [String.isEmpty_iff.1 hempty, hasked, calls] at hstart
      exact absurd (congrArg List.head? hstart) (by simp [pathName])

/-! ### Searching a command -/

variable {needle : List Char}

/-- A state after the first is reached by steps. -/
theorem mem_stateAt {step : Nat} {c : Char} (h : c ∈ (stateAt step).toList) :
    c ∈ "first.next".toList := by
  rw [stateAt, String.toList_append, List.mem_append, String.toList_join, List.mem_flatMap] at h
  rcases h with h | ⟨part, hpart, h⟩
  · exact Text.of_mem_of_all (by decide) h
  · rw [List.eq_of_mem_replicate hpart] at h
    exact Text.of_mem_of_all (by decide) h

/-- What is neither in the calls of the predicates nor in the names of the states is not in the
calls for some steps. -/
theorem not_infix_calls {c d : Char} (hc : c ∈ needle) (hcall : c ∉ " and trellis_path_".toList)
    (hdigit : c.isDigit = false) (hd : d ∈ needle) (hstate : d ∉ "first.next".toList)
    (hopening : '[' ∉ needle) (hclosing : ']' ∉ needle) {lead : List Char}
    (hlead : lead ⊆ " and ".toList) (steps : List Nat) : ¬needle <:+: calls lead steps := by
  induction steps generalizing lead with
  | nil =>
    refine Text.not_infix_of_not_mem hc fun hmem => hcall ?_
    obtain rfl := List.mem_singleton.1 hmem
    decide
  | cons step rest ih =>
    rw [calls, Text.infix_append_cons_iff hopening, Text.infix_append_cons_iff hclosing]
    refine not_or.2 ⟨Text.not_infix_of_not_mem hc fun hmem => ?_, not_or.2
      ⟨Text.not_infix_of_not_mem hd fun hmem => hstate (mem_stateAt hmem), ih (List.Subset.refl _)⟩⟩
    rcases List.mem_append.1 hmem with hmem | hmem
    · rcases List.mem_append.1 hmem with hmem | hmem
      · exact hcall ((by decide : " and ".toList ⊆ " and trellis_path_".toList) (hlead hmem))
      · exact hcall ((by decide : pathName.toList ⊆ " and trellis_path_".toList) hmem)
    · exact Text.not_mem_decimal hdigit step hmem

/-- What a command says of some state, between its braces. -/
def someText (sig name : String) : List Char :=
  " some s:".toList ++ ' ' :: (sig.toList ++ ' ' :: ("- first |".toList ++ ' ' ::
    (name.toList ++ '[' :: "s] ".toList)))

/-- A goal that asks for some state says so in its command. -/
theorem commandText_of_someState {vocabulary : Vocabulary} {goal : Goal} (name : String)
    (h : goalCommand vocabulary goal = someState vocabulary.stateSig name) :
    commandText vocabulary goal = someText vocabulary.stateSig name := by
  have htext : ' ' :: ((someState vocabulary.stateSig name).toList ++ [' ']) =
      someText vocabulary.stateSig name := by
    unfold someState someText
    simp
  have hsecond : (someText vocabulary.stateSig name)[1]? = some 's' := by
    unfold someText
    simp
  rw [commandText, h, if_neg, htext]
  intro hempty
  rw [← htext, String.isEmpty_iff.1 hempty] at hsecond
  cases hsecond

/-- Of names that could be reserved only the wanted one is in what is said of some state. -/
theorem infix_someText_iff (hmark : '_' ∈ needle) (hblank : ' ' ∉ needle) (hopening : '[' ∉ needle)
    {sig : String} (hsig : ¬needle <:+: sig.toList) (name : String) :
    needle <:+: someText sig name ↔ needle <:+: name.toList := by
  unfold someText
  rw [Text.infix_append_cons_iff hblank, Text.infix_append_cons_iff hblank,
    Text.infix_append_cons_iff hblank, Text.infix_append_cons_iff hopening]
  have hword (text : List Char) (h : '_' ∉ text) : ¬needle <:+: text :=
    Text.not_infix_of_not_mem hmark h
  simp only [hword " some s:".toList (by decide), hsig, false_or,
    hword "- first |".toList (by decide), hword "s] ".toList (by decide),
    or_false]

/-- Of names that could be reserved only those between the braces are in the line of a command. -/
theorem infix_commandLine_iff (hmark : '_' ∈ needle) (hblank : ' ' ∉ needle)
    (hbraces : '\x7b' ∉ needle ∧ '\x7d' ∉ needle) {sig : String} (hsig : ¬needle <:+: sig.toList)
    (text : List Char) (bound : Nat) :
    needle <:+: commandLine text sig bound ↔ needle <:+: text := by
  have hword (text : List Char) (h : '_' ∉ text) : ¬needle <:+: text :=
    Text.not_infix_of_not_mem hmark h
  have hline : commandLine text sig bound = "run ".toList ++ '\x7b' :: (text ++ '\x7d' ::
      (" for exactly".toList ++ ' ' :: (Text.decimal (bound + 1) ++ ' ' :: sig.toList))) := by
    simp [commandLine, scopeText]
  rw [hline, Text.infix_append_cons_iff hbraces.1, Text.infix_append_cons_iff hbraces.2,
    Text.infix_append_cons_iff hblank, Text.infix_append_cons_iff hblank]
  have hcount : '_' ∉ Text.decimal (bound + 1) := Text.not_mem_decimal (by decide) _
  simp only [hword "run ".toList (by decide), hsig, false_or,
    hword " for exactly".toList (by decide), hword _ hcount, or_false]

/-- The words before the number of states are not in the calls for some steps. -/
theorem not_scope_calls (steps : List Nat) : ¬"for exactly".toList <:+: calls [' '] steps :=
  not_infix_calls (c := 'x') (d := ' ') (by decide) (by decide) (by decide) (by decide) (by decide)
    (by decide) (by decide) (by decide) steps

/-- The words before the number of states are not in what is said of some state. -/
theorem not_scope_someText {sig name : String} (hsig : Text.isName sig = true)
    (hname : 'x' ∉ name.toList) : ¬"for exactly".toList <:+: someText sig name := by
  have htext : someText sig name = " some s".toList ++ ':' :: (' ' :: (sig.toList ++ [' ']) ++
      '-' :: (" first ".toList ++ '|' :: (' ' :: (name.toList ++ "[s] ".toList)))) := by
    unfold someText
    simp
  have hword {text : List Char} (h : 'x' ∉ text) : ¬"for exactly".toList <:+: text :=
    Text.not_infix_of_not_mem (by decide) h
  have hblank : ' ' ∉ sig.toList := fun hmem =>
    absurd (Text.isNameChar_of_isName hsig ' ' hmem) (by decide)
  -- The signature is a single word between two blanks, and the words sought are two.
  have hsignature : ¬"for exactly".toList <:+: ' ' :: (sig.toList ++ [' ']) := by
    rw [show "for exactly".toList = 'f' :: ("or exactl".toList ++ ['y']) from by decide,
      Text.infix_cons_iff_of_ne (by decide), ← List.cons_append,
      Text.infix_concat_iff_of_ne (by decide)]
    exact Text.not_infix_of_not_mem (c := ' ') (by decide) hblank
  rw [htext, Text.infix_append_cons_iff (by decide), Text.infix_append_cons_iff (by decide),
    Text.infix_append_cons_iff (by decide)]
  refine not_or.2 ⟨hword (by decide), not_or.2 ⟨hsignature, not_or.2 ⟨hword (by decide), hword ?_⟩⟩⟩
  rw [List.mem_cons, List.mem_append, not_or, not_or]
  exact ⟨by decide, hname, by decide⟩

end Query

namespace Problem

open Query

/-! ### Reading a command -/

/-- Where the words before the number of states are not between the braces, that number is read
back, unless it does not fit a word. -/
theorem scope_commandLine {text : List Char} (sig : String) (bound : Nat)
    (htext : ¬"for exactly".toList <:+: text) :
    scope (commandLine text sig bound) =
      if bound < Text.maxWord then .ok (bound + 1)
      else .error (.badScope (String.ofList (commandLine text sig bound))) := by
  have hline : commandLine text sig bound = ("run ".toList ++ '\x7b' :: text) ++
      '\x7d' :: ([' '] ++ "for exactly".toList ++ (' ' :: scopeText sig bound)) := by
    simp [commandLine]
  have hbefore : ¬"for exactly".toList <:+: "run ".toList ++ '\x7b' :: text := by
    rw [Text.infix_append_cons_iff (by decide)]
    exact not_or.2 ⟨by decide, htext⟩
  have hcut : Text.cut? "for exactly".toList
      ([' '] ++ "for exactly".toList ++ (' ' :: scopeText sig bound)) =
      some ([' '], ' ' :: scopeText sig bound) :=
    Text.cut?_append (by decide)
  have hfound : Text.cut? "for exactly".toList (commandLine text sig bound) =
      some ("run ".toList ++ '\x7b' :: text ++ '\x7d' :: [' '], ' ' :: scopeText sig bound) := by
    rw [hline, Text.cut?_append_cons (by decide) hbefore, hcut]
    rfl
  have hword : Text.firstWord? (' ' :: scopeText sig bound) = some (Text.decimal (bound + 1)) :=
    Text.firstWord?_append (fun c hc => Text.isBlank_of_mem_decimal hc) (Text.decimal_ne_nil _)
      (.inr ⟨_, rfl⟩)
  rw [scope, hfound]
  simp only [hword, Option.bind_some, Text.readNat?_decimal, Nat.succ_le_iff]
  by_cases hbound : bound < Text.maxWord
  · simp only [if_pos hbound]
  · simp only [if_neg hbound]

/-- The bound of a command is read back if the number of its states fits a word. -/
theorem boundOf_commandLine {text : List Char} (sig : String) {bound : Nat}
    (htext : ¬"for exactly".toList <:+: text) (hbound : bound < Text.maxWord) :
    boundOf (commandLine text sig bound) = .ok bound := by
  rw [boundOf, scope_commandLine sig bound htext, if_pos hbound]
  rfl

/-- The command of a query is its last line. -/
theorem command?_render {vocabulary : Vocabulary} (query : Query)
    (hsig : Text.isName vocabulary.stateSig = true)
    (htext : ∀ c ∈ commandText vocabulary query.goal, c ≠ '\n' ∧ c ≠ '\r') :
    command? (query.render vocabulary) =
      some (commandLine (commandText vocabulary query.goal) vocabulary.stateSig query.bound) := by
  obtain ⟨before, hbefore⟩ := render_commandLine vocabulary query
  generalize hline : commandLine (commandText vocabulary query.goal) vocabulary.stateSig
    query.bound = line at hbefore
  have hsignature : ∀ c ∈ vocabulary.stateSig.toList, Text.isBlank c = false :=
    fun c hc => Text.isBlank_of_isNameChar (Text.isNameChar_of_isName hsig c hc)
  have hbreaks : ∀ c ∈ line, c ≠ '\n' ∧ c ≠ '\r' := by
    have hfeed {c : Char} (h : Text.isBlank c = false) : c ≠ '\n' ∧ c ≠ '\r' := by
      refine ⟨?_, ?_⟩
      · rintro rfl
        exact absurd h (by decide)
      · rintro rfl
        exact absurd h (by decide)
    intro c hc
    simp only [← hline, commandLine, scopeText, List.mem_append, List.mem_cons] at hc
    rcases hc with (hc | hc) | rfl | rfl | hc | rfl | hc | rfl | hc
    · exact Text.of_mem_of_all (by decide) hc
    · exact htext c hc
    · decide
    · decide
    · exact Text.of_mem_of_all (by decide) hc
    · decide
    · exact hfeed (Text.isBlank_of_mem_decimal hc)
    · decide
    · exact hfeed (hsignature c hc)
  have htrim : Text.trim line = line := by
    obtain ⟨start, last, hlast⟩ := List.eq_nil_or_concat vocabulary.stateSig.toList |>.resolve_left
      (Text.ne_nil_of_isName hsig)
    have hstart : Text.trimStart line = line := by
      rw [← hline]
      rfl
    rw [Text.trim, hstart]
    refine Text.trimEnd_of_getLast (c := last) ?_ (hsignature last (by rw [hlast]; simp))
    rw [← hline, commandLine, scopeText, hlast]
    simp [List.getLast?_append, List.getLast?_cons]
  have hlines : Text.lines (query.render vocabulary).toList =
      Text.lines (before ++ ['\n']) ++ [line] := by
    have hlast := Text.lines_start_append hbreaks (rfl : Text.lines ['\n'] = [[]])
    rw [hbefore, Text.lines_append, hlast, List.append_nil]
    rfl
  have hcommand := command?_eq_some hlines
    (by rw [htrim, ← hline]; rfl) (fun l hl => by cases hl)
  rw [hcommand, htrim]

/-! ### The steps that a command mentions -/

/-- Where no predicate for a step is mentioned before a character that is in none of their names,
the mentions are those after it. -/
theorem mentions_append_cons {c : Char} (hc : c ∉ pathName.toList) {before : List Char}
    (h : ¬pathName.toList <:+: before) (after : List Char) :
    mentions (before ++ c :: after) = mentions after := by
  have hstart {text : List Char} (htext : ¬pathName.toList <:+: text) :
      Text.dropStart? pathName.toList (text ++ c :: after) = none :=
    Text.dropStart?_eq_none_iff.2 fun hfirst =>
      htext ((Text.prefix_append_cons_iff hc text after).1 hfirst).isInfix
  induction before with
  | nil =>
    have hfirst := hstart h
    rw [List.nil_append] at hfirst ⊢
    rw [mentions, hfirst]
  | cons d before ih =>
    have hfirst := hstart h
    rw [List.cons_append] at hfirst ⊢
    rw [mentions, hfirst]
    exact ih fun hbefore => h (List.infix_cons hbefore)

/-- Where no predicate for a step is mentioned there are no mentions. -/
theorem mentions_of_not_infix {text : List Char} (h : ¬pathName.toList <:+: text) :
    mentions text = [] := by
  induction text with
  | nil => rfl
  | cons c rest ih =>
    have hfirst : Text.dropStart? pathName.toList (c :: rest) = none :=
      Text.dropStart?_eq_none_iff.2 fun hfirst => h hfirst.isInfix
    rw [mentions, hfirst]
    exact ih fun hrest => h (List.infix_cons hrest)

/-- A predicate for a step is mentioned once in its call. -/
theorem mentions_call (step : Nat) (more : List Char) :
    mentions (pathName.toList ++ Text.decimal step ++ '[' :: more) =
      (Text.decimal step ++ '[' :: more) :: mentions more := by
  have hname : pathName.toList = 't' :: "rellis_path_".toList := by decide
  have hdrop : Text.dropStart? pathName.toList
      ('t' :: ("rellis_path_".toList ++ Text.decimal step ++ '[' :: more)) =
      some (Text.decimal step ++ '[' :: more) := by
    rw [Text.dropStart?_eq_some_iff, hname]
    simp
  -- The name has the letter twice, and what is left of it in the call has it once.
  have hrest : ¬pathName.toList <:+: "rellis_path_".toList ++ Text.decimal step := by
    refine Text.not_infix_of_count_lt 't' ?_
    rw [List.count_append, List.count_eq_zero.2 (Text.not_mem_decimal (by decide) step)]
    decide
  have htext : pathName.toList ++ Text.decimal step ++ '[' :: more =
      't' :: ("rellis_path_".toList ++ Text.decimal step ++ '[' :: more) := by
    rw [hname]
    simp
  rw [htext, mentions, hdrop]
  exact congrArg _ (mentions_append_cons (by decide) hrest more)

/-- The steps that are called are read back from their mentions, in order. -/
theorem mentions_calls (steps : List Nat) {lead : List Char} (hlead : ¬pathName.toList <:+: lead)
    {more : List Char} (hmore : mentions more = []) :
    (mentions (calls (lead ++ [' ']) steps ++ '\x7d' :: more)).map (·.takeWhile Char.isDigit) =
      steps.map Text.decimal := by
  induction steps generalizing lead with
  | nil =>
    have hend : mentions (calls (lead ++ [' ']) [] ++ '\x7d' :: more) = mentions more :=
      mentions_append_cons (by decide) (by decide : ¬pathName.toList <:+: [' ']) more
    rw [hend, hmore]
    rfl
  | cons step rest ih =>
    have htext : calls (lead ++ [' ']) (step :: rest) ++ '\x7d' :: more =
        lead ++ ' ' :: (pathName.toList ++ Text.decimal step ++ '[' ::
          ((stateAt (step + 1)).toList ++ ']' ::
            (calls (" and".toList ++ [' ']) rest ++ '\x7d' :: more))) := by
      simp [calls]
    have hstate : ¬pathName.toList <:+: (stateAt (step + 1)).toList :=
      Text.not_infix_of_not_mem (c := '_') (by decide) fun hmem =>
        absurd (mem_stateAt hmem) (by decide)
    have hdigits : (Text.decimal step ++ '[' :: ((stateAt (step + 1)).toList ++ ']' ::
        (calls (" and".toList ++ [' ']) rest ++ '\x7d' :: more))).takeWhile Char.isDigit =
        Text.decimal step := by
      rw [List.takeWhile_append_of_pos fun c hc => Text.isDigit_of_mem_decimal hc]
      simp
    rw [htext, mentions_append_cons (by decide) hlead, mentions_call,
      mentions_append_cons (by decide) hstate, List.map_cons, hdigits, ih (by decide),
      List.map_cons]

end Problem

/-! ### The command of a goal -/

namespace Query

variable {vocabulary : Vocabulary}

/-- The steps that a goal asks something of. -/
def goalSteps : Goal → List Nat
  | .path constraints => (asked constraints).map (·.2)
  | _ => []

/-- A command is a single line. -/
theorem not_break_of_mem_commandText (hsig : Text.isName vocabulary.stateSig = true) (goal : Goal) :
    ∀ c ∈ commandText vocabulary goal, c ≠ '\n' ∧ c ≠ '\r' := by
  have hcalls (steps : List Nat) : ∀ c ∈ calls [' '] steps, c ≠ '\n' ∧ c ≠ '\r' := by
    intro c hc
    rw [← List.singleton_infix_iff] at hc
    refine ⟨?_, ?_⟩
    · rintro rfl
      exact not_infix_calls (c := '\n') (d := '\n') (by decide) (by decide) (by decide)
        (by decide) (by decide) (by decide) (by decide) (by decide) steps hc
    · rintro rfl
      exact not_infix_calls (c := '\r') (d := '\r') (by decide) (by decide) (by decide)
        (by decide) (by decide) (by decide) (by decide) (by decide) steps hc
  have hsome {name : String} (hname : ∀ c ∈ name.toList, c ≠ '\n' ∧ c ≠ '\r') :
      ∀ c ∈ someText vocabulary.stateSig name, c ≠ '\n' ∧ c ≠ '\r' := by
    intro c hc
    unfold someText at hc
    simp only [List.mem_append, List.mem_cons] at hc
    rcases hc with hc | rfl | hc | rfl | hc | rfl | hc | rfl | hc
    · exact Text.of_mem_of_all (by decide) hc
    · decide
    · exact Text.ne_and_ne_of_isName hsig (by decide) (by decide) c hc
    · decide
    · exact Text.of_mem_of_all (by decide) hc
    · decide
    · exact hname c hc
    · decide
    · exact Text.of_mem_of_all (by decide) hc
  cases goal with
  | initial => simp [commandText, goalCommand]
  | path constraints =>
    rw [commandText_path]
    split
    · simp
    · exact hcalls _
  | breakpoint constraints =>
    rw [commandText_of_someState breakName rfl]
    exact hsome (fun _ => Text.of_mem_of_all (by decide))
  | transition name =>
    rw [commandText_of_someState forceName rfl]
    exact hsome (fun _ => Text.of_mem_of_all (by decide))

/-- The words before the number of states are not in a command. -/
theorem not_scope_commandText (hsig : Text.isName vocabulary.stateSig = true) (goal : Goal) :
    ¬"for exactly".toList <:+: commandText vocabulary goal := by
  cases goal with
  | initial => simp [commandText, goalCommand]
  | path constraints =>
    rw [commandText_path]
    split
    · simp
    · exact not_scope_calls _
  | breakpoint constraints =>
    rw [commandText_of_someState breakName rfl]
    exact not_scope_someText hsig (by decide)
  | transition name =>
    rw [commandText_of_someState forceName rfl]
    exact not_scope_someText hsig (by decide)

/-- The name of no predicate for steps is in the command of a goal that asks for some state. -/
theorem not_pathName_someText (hsig : ¬pathName.toList <:+: vocabulary.stateSig.toList)
    {name : String} (hname : ¬pathName.toList <:+: name.toList) :
    ¬pathName.toList <:+: someText vocabulary.stateSig name := by
  rwa [infix_someText_iff (by decide) (by decide) (by decide) hsig]

/-- The steps of a goal are read back from its command. -/
theorem mentions_commandLine (hsig : ¬pathName.toList <:+: vocabulary.stateSig.toList)
    (goal : Goal) (bound : Nat) :
    (Problem.mentions (commandLine (commandText vocabulary goal) vocabulary.stateSig bound)).map
      (·.takeWhile Char.isDigit) = (goalSteps goal).map Text.decimal := by
  have hnone (text : List Char) (htext : ¬pathName.toList <:+: text) :
      Problem.mentions (commandLine text vocabulary.stateSig bound) = [] := by
    refine Problem.mentions_of_not_infix ?_
    rwa [infix_commandLine_iff (by decide) (by decide) (by decide) hsig]
  cases goal with
  | initial =>
    rw [show commandText vocabulary .initial = [] from rfl, hnone [] (by decide)]
    rfl
  | path constraints =>
    rw [commandText_path, goalSteps]
    split
    · rename_i hnil
      rw [hnone [] (by decide), hnil]
      rfl
    · -- After the calls only the scope is left, in which nothing is mentioned.
      have hscope : Problem.mentions (' ' :: ("for exactly".toList ++ ' ' ::
          scopeText vocabulary.stateSig bound)) = [] := by
        have hline := hnone [] (by decide)
        have hstart : commandLine [] vocabulary.stateSig bound = "run \x7b".toList ++ '\x7d' ::
            (' ' :: ("for exactly".toList ++ ' ' :: scopeText vocabulary.stateSig bound)) := by
          simp [commandLine]
        rwa [hstart, Problem.mentions_append_cons (by decide) (by decide)] at hline
      have hline (steps : List Nat) : commandLine (calls [' '] steps) vocabulary.stateSig bound =
          "run ".toList ++ '\x7b' :: (calls ([] ++ [' ']) steps ++ '\x7d' ::
            (' ' :: ("for exactly".toList ++ ' ' :: scopeText vocabulary.stateSig bound))) := by
        simp [commandLine]
      rw [hline, Problem.mentions_append_cons (by decide) (by decide),
        Problem.mentions_calls _ (by decide) hscope]
  | breakpoint constraints =>
    rw [commandText_of_someState breakName rfl,
      hnone _ (not_pathName_someText hsig (by decide))]
    rfl
  | transition name =>
    rw [commandText_of_someState forceName rfl,
      hnone _ (not_pathName_someText hsig (by decide))]
    rfl

/-- The name of the predicate that some state after the first must satisfy. -/
def wantedName : Goal → Option String
  | .breakpoint _ => some breakName
  | .transition _ => some forceName
  | _ => none

/-- A command holds the name of a predicate for some state exactly if its goal wants that state. -/
theorem hasInfix_commandLine {name : String} (hname : name = breakName ∨ name = forceName)
    (hsig : ¬name.toList <:+: vocabulary.stateSig.toList) (goal : Goal) (bound : Nat) :
    Text.hasInfix name.toList
        (commandLine (commandText vocabulary goal) vocabulary.stateSig bound) = true ↔
      wantedName goal = some name := by
  have hmarks : '_' ∈ name.toList ∧ ' ' ∉ name.toList ∧ '[' ∉ name.toList ∧ ']' ∉ name.toList ∧
      '\x7b' ∉ name.toList ∧ '\x7d' ∉ name.toList := by
    rcases hname with rfl | rfl <;> decide
  obtain ⟨hmark, hblank, hopening, hclosing, hbraces⟩ := hmarks
  have hnil : ¬name.toList <:+: [] := Text.not_infix_of_not_mem hmark (by simp)
  have hcalls (steps : List Nat) : ¬name.toList <:+: calls [' '] steps := by
    rcases hname with rfl | rfl
    · exact not_infix_calls (c := 'k') (by decide) (by decide) (by decide) hmark (by decide)
        hopening hclosing (by decide) steps
    · exact not_infix_calls (c := 'f') (by decide) (by decide) (by decide) hmark (by decide)
        hopening hclosing (by decide) steps
  have hsome {other : String} (hother : other = breakName ∨ other = forceName) :
      name.toList <:+: someText vocabulary.stateSig other ↔ some other = some name := by
    rw [infix_someText_iff hmark hblank hopening hsig]
    rcases hname with rfl | rfl <;> rcases hother with rfl | rfl <;> decide
  rw [Text.hasInfix_iff, infix_commandLine_iff hmark hblank hbraces hsig]
  cases goal with
  | initial =>
    rw [show commandText vocabulary .initial = [] from rfl]
    simp [wantedName, hnil]
  | path constraints =>
    rw [commandText_path]
    split
    · simp [wantedName, hnil]
    · simp [wantedName, hcalls]
  | breakpoint constraints =>
    rw [commandText_of_someState _ rfl]
    exact hsome (.inl rfl)
  | transition other =>
    rw [commandText_of_someState _ rfl]
    exact hsome (.inr rfl)

end Query

end StateExplorer
