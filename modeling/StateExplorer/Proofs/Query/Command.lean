import StateExplorer.Proofs.Results
import StateExplorer.Proofs.Text.Decimal
import StateExplorer.Proofs.Text.Lines
import StateExplorer.System.Problem

/-!
# The command of a query

The last line of a query runs its goal, and the state signature ends that line. A signature of more
than one line may hold a line that begins like a command, which is then taken for the command of
the query. Where it does not, the command is read back with the number of states it asks for.
-/

namespace StateExplorer

/-- What a command begins with. -/
def Problem.commandWord : List Char := ['r', 'u', 'n']

/-- Whether no line after the first one begins like a command where the state signature ends a
text. -/
def Vocabulary.endsCommand (vocabulary : Vocabulary) : Bool :=
  (Text.lines (vocabulary.stateSig.toList ++ ['\n'])).tail.all fun line =>
    (Text.dropStart? Problem.commandWord (Text.trim line)).isNone

/-- A name holds no command. -/
theorem Vocabulary.endsCommand_of_isName {vocabulary : Vocabulary}
    (h : Text.isName vocabulary.stateSig = true) : vocabulary.endsCommand = true := by
  have hbreaks : ∀ c ∈ vocabulary.stateSig.toList, c ≠ '\n' ∧ c ≠ '\r' :=
    Text.ne_and_ne_of_isName h (by decide) (by decide)
  have hfeed : Text.lines ['\n'] = [[]] := rfl
  rw [endsCommand, Text.lines_start_append hbreaks hfeed]
  rfl

namespace Problem

/-- The command is the last line that begins like one. -/
theorem command?_eq_some {text : String} {before later : List (List Char)} {line : List Char}
    (h : Text.lines text.toList = before ++ line :: later)
    (hline : (Text.dropStart? commandWord (Text.trim line)).isSome = true)
    (hlater : ∀ l ∈ later, (Text.dropStart? commandWord (Text.trim l)).isNone = true) :
    command? text = some (Text.trim line) := by
  have hnone : ((later.map Text.trim).reverse.find? fun line =>
      (Text.dropStart? commandWord line).isSome) = none := by
    rw [List.find?_eq_none]
    intro trimmed htrimmed
    obtain ⟨l, hl, rfl⟩ := List.mem_map.1 (List.mem_reverse.1 htrimmed)
    simpa using hlater l hl
  unfold command?
  rw [h, List.map_append, List.map_cons, List.reverse_append, List.reverse_cons,
    List.append_assoc, List.find?_append]
  change (((later.map Text.trim).reverse.find? fun line =>
    (Text.dropStart? commandWord line).isSome)).or _ = _
  rw [hnone, Option.none_or, List.singleton_append, List.find?_cons_of_pos]
  exact hline

/-- The command for so many transitions without conditions, up to the state signature. -/
def freeCommand (bound : Nat) : List Char :=
  commandWord ++ (" \x7b\x7d ".toList ++ "for exactly".toList ++ ' ' :: Text.decimal (bound + 1))

/-- Trimming leaves the command and, if anything else, a blank after it. -/
theorem trim_freeCommand (bound : Nat) (rest : List Char) :
    ∃ tail, Text.trim (freeCommand bound ++ ' ' :: rest) = freeCommand bound ++ tail ∧
      (tail = [] ∨ ∃ more, tail = ' ' :: more) := by
  have hstart : Text.trimStart (freeCommand bound ++ ' ' :: rest) =
      freeCommand bound ++ ' ' :: rest := by
    simp [freeCommand, commandWord, Text.trimStart, Text.isBlank]
  have hend : Text.trimEnd (freeCommand bound) = freeCommand bound := by
    refine Text.trimEnd_of_getLast (c := (Text.decimal (bound + 1)).getLast
      (Text.decimal_ne_nil _)) ?_ (Text.isBlank_of_mem_decimal (List.getLast_mem _))
    simp [freeCommand, List.getLast?_cons, List.getLast?_append,
      List.getLast?_eq_some_getLast (Text.decimal_ne_nil (bound + 1))]
  rw [Text.trim, hstart, Text.trimEnd_append, hend]
  split
  · exact ⟨[], (List.append_nil _).symm, .inl rfl⟩
  · rename_i hne
    obtain ⟨dropped, hdropped, -⟩ := Text.exists_trimEnd_append (' ' :: rest)
    cases htrim : Text.trimEnd (' ' :: rest) with
    | nil => exact absurd htrim hne
    | cons c more =>
      rw [htrim] at hdropped
      obtain rfl := (List.cons.inj hdropped).1
      exact ⟨_, rfl, .inr ⟨more, rfl⟩⟩

/-- The command asks for one state more than it has transitions, whatever follows it in its line. -/
theorem boundOf_freeCommand {bound : Nat} (hbound : bound < Text.maxWord) (rest : List Char) :
    boundOf (Text.trim (freeCommand bound ++ ' ' :: rest)) = .ok bound := by
  obtain ⟨tail, htrim, htail⟩ := trim_freeCommand bound rest
  have hcommand : freeCommand bound ++ tail = commandWord ++ " \x7b\x7d ".toList ++
      "for exactly".toList ++ ' ' :: (Text.decimal (bound + 1) ++ tail) := by
    simp [freeCommand]
  have hcut : Text.cut? "for exactly".toList (freeCommand bound ++ tail) =
      some (commandWord ++ " \x7b\x7d ".toList, ' ' :: (Text.decimal (bound + 1) ++ tail)) := by
    rw [hcommand]
    exact Text.cut?_append (by decide)
  have hword : Text.firstWord? (' ' :: (Text.decimal (bound + 1) ++ tail)) =
      some (Text.decimal (bound + 1)) :=
    Text.firstWord?_append (fun c hc => Text.isBlank_of_mem_decimal hc) (Text.decimal_ne_nil _)
      htail
  have hscope : scope (freeCommand bound ++ tail) = .ok (bound + 1) := by
    rw [scope, hcut]
    simp only [hword, Option.bind_some, Text.readNat?_decimal,
      if_pos (Nat.succ_le_of_lt hbound)]
  rw [htrim, boundOf, hscope]
  rfl

/-- A query without conditions ends in its command and the signature. -/
theorem render_free_toList (vocabulary : Vocabulary) {query : Query}
    (hgoal : Query.goalCommand vocabulary query.goal = "") :
    ∃ before : List Char, (query.render vocabulary).toList =
      before ++ '\n' :: (freeCommand query.bound ++ ' ' :: (vocabulary.stateSig.toList ++ ['\n'])) := by
  have hcommand : Query.commandBlock (Query.goalCommand vocabulary query.goal) = "\x7b\x7d" := by
    rw [hgoal]
    simp [Query.commandBlock]
  refine ⟨(Query.trimmedEnd query.base ++ "\n\n" ++ Query.trimmedEnd query.resumption ++ "\n" ++
    Query.goalPredicates vocabulary query.goal ++
    "fact \x7b " ++ vocabulary.initPredicate ++ "[first] \x7d\n" ++
    "fact \x7b all s: " ++ vocabulary.stateSig ++ " - last | " ++ vocabulary.transitionRelation ++
    "[s, s.next] \x7d").toList, ?_⟩
  delta Query.render
  simp only [hcommand]
  simp [freeCommand, commandWord, Text.decimal]

/-! ### Reading a query -/

variable {fields : Schema} {vocabulary : Vocabulary} {text : String} {problem : Problem}

/-- A query is read exactly if its command, its initial predicate and every predicate that the
command mentions are. -/
theorem read_eq_ok_iff_exists_command :
    read fields vocabulary text = .ok problem ↔
      ∃ command, command? text = some command ∧ boundOf command = .ok problem.bound ∧
        ∃ init, conditionOf fields text.toList vocabulary.initPredicate = .ok init ∧
          problem.start = startOf fields vocabulary.transitionField init ∧
          (mentions command).mapM (positionalOf fields text.toList command) =
            .ok problem.positional ∧
          reachOf fields text.toList command = .ok problem.reach := by
  obtain ⟨start, bound, positional, reach⟩ := problem
  cases hcommand : command? text with
  | none => simp [read, hcommand, throw, throwThe, MonadExceptOf.throw]
  | some command =>
    simp only [read, hcommand, bind_eq_ok_iff, Option.some.injEq, exists_eq_left']
    constructor
    · rintro ⟨_, hbound, init, hinit, _, hpositional, _, hreach, hproblem⟩
      obtain ⟨rfl, rfl, rfl, rfl⟩ := Problem.mk.inj (Except.ok.inj hproblem)
      exact ⟨hbound, init, hinit, rfl, hpositional, hreach⟩
    · rintro ⟨hbound, init, hinit, rfl, hpositional, hreach⟩
      exact ⟨_, hbound, init, hinit, _, hpositional, _, hreach, rfl⟩

/-- A query without conditions is read back with its bound, if it is read at all. -/
theorem bound_of_read_free {solved : Vocabulary} {query : Query}
    (hsig : vocabulary.endsCommand = true)
    (hgoal : Query.goalCommand vocabulary query.goal = "") (hbound : query.bound < Text.maxWord)
    (h : read fields solved (query.render vocabulary) = .ok problem) :
    problem.bound = query.bound := by
  obtain ⟨before, hbefore⟩ := render_free_toList vocabulary hgoal
  obtain ⟨line, later, hlines⟩ := List.exists_cons_of_ne_nil
    (Text.lines_ne_nil (by simp : vocabulary.stateSig.toList ++ ['\n'] ≠ []))
  have hstart : ∀ c ∈ freeCommand query.bound ++ [' '], c ≠ '\n' ∧ c ≠ '\r' := by
    intro c hc
    simp only [freeCommand, List.mem_append, List.mem_cons] at hc
    rcases hc with (hc | (hc | hc) | rfl | hc) | hc
    · exact Text.of_mem_of_all (by decide) hc
    · exact Text.of_mem_of_all (by decide) hc
    · exact Text.of_mem_of_all (by decide) hc
    · decide
    · refine ⟨?_, ?_⟩
      · rintro rfl
        exact Text.not_mem_decimal (by decide) _ hc
      · rintro rfl
        exact Text.not_mem_decimal (by decide) _ hc
    · obtain rfl : c = ' ' := by simpa using hc
      decide
  have hcommand : Text.lines (freeCommand query.bound ++ ' ' ::
      (vocabulary.stateSig.toList ++ ['\n'])) = (freeCommand query.bound ++ ' ' :: line) :: later := by
    simpa using Text.lines_start_append hstart hlines
  have hsplit : Text.lines (query.render vocabulary).toList =
      Text.lines (before ++ ['\n']) ++ (freeCommand query.bound ++ ' ' :: line) :: later := by
    rw [hbefore, Text.lines_append, hcommand]
  have hread : command? (query.render vocabulary) =
      some (Text.trim (freeCommand query.bound ++ ' ' :: line)) := by
    refine command?_eq_some hsplit ?_ ?_
    · obtain ⟨tail, htrim, -⟩ := trim_freeCommand query.bound line
      rw [htrim, freeCommand, List.append_assoc, Text.dropStart?_eq_some_iff.2 rfl]
      rfl
    · unfold Vocabulary.endsCommand at hsig
      rw [hlines] at hsig
      simpa using hsig
  obtain ⟨command, hfound, hscope, -⟩ := read_eq_ok_iff_exists_command.1 h
  obtain rfl := Option.some.inj (hread.symm.trans hfound)
  rw [boundOf_freeCommand hbound] at hscope
  exact (Except.ok.inj hscope).symm

/-- A problem asks for no more states than fit a word. -/
theorem bound_lt_of_read (h : read fields vocabulary text = .ok problem) :
    problem.bound < Text.maxWord := by
  obtain ⟨command, -, hbound, -⟩ := read_eq_ok_iff_exists_command.1 h
  simp only [boundOf, scope, bind, Except.bind] at hbound
  split at hbound
  · cases hbound
  · rename_i count hcount
    split at hcount
    · cases hcount
    · split at hcount
      · cases hcount
      · rename_i n hn
        obtain rfl := Except.ok.inj hcount
        obtain ⟨word, -, hword⟩ := Option.bind_eq_some_iff.1 hn
        have hle := Text.le_of_readNat?_eq_some hword
        split at hbound
        · cases hbound
        · obtain rfl := Except.ok.inj hbound
          exact Nat.lt_of_succ_le hle

end Problem

end StateExplorer
