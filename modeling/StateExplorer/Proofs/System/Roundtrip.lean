import StateExplorer.Proofs.Query.Free
import StateExplorer.Proofs.Solution.Roundtrip
import StateExplorer.Proofs.Session.Steadiness
import StateExplorer.Proofs.System.Chains

/-!
# States are resumed from

A state of the system, as it is seen when it is entered, is written as a constraint, composed into
a query, read, searched for, answered and decoded. If its values relate names and no field is
declared twice, it comes back as it was, whatever its transition field holds and however many
fields are empty: every solution of the query is the chain of this one state.
-/

namespace StateExplorer

/-! ### Values -/

namespace Condition

/-- Whether a value relates names: each of its columns is a name, not all of them stand for nothing,
and the value joins no conditions. -/
structure Relates (value : String) : Prop where
  names : ∀ column ∈ Text.columns value.toList, Text.isName (String.ofList column) = true
  not_none : isNone value = false
  not_joining : value ≠ "and" ∧ value ≠ "or"

instance (value : String) : Decidable (Relates value) :=
  decidable_of_iff
    ((∀ column ∈ Text.columns value.toList, Text.isName (String.ofList column) = true) ∧
      isNone value = false ∧ value ≠ "and" ∧ value ≠ "or")
    ⟨fun ⟨hnames, hnone, hjoining⟩ => ⟨hnames, hnone, hjoining⟩,
      fun ⟨hnames, hnone, hjoining⟩ => ⟨hnames, hnone, hjoining⟩⟩

/-- A plain word relates the one name that it is. -/
theorem relates_of_isPlain {value : String} (h : Text.isPlain value = true) : Relates value := by
  have hname := Text.isName_of_isPlain h
  have hreserved := Text.not_mem_reservedWords h
  have hdash : '-' ∉ value.toList := fun hmem =>
    Text.ne_of_isNameChar (Text.isNameChar_of_isName hname '-' hmem) (by decide) rfl
  refine ⟨fun column hcolumn => ?_, (word_of_isPlain h).not_none, ?_, ?_⟩
  · rw [Text.columns_eq_singleton hdash, List.mem_singleton] at hcolumn
    rw [hcolumn, String.ofList_toList]
    exact hname
  · rintro rfl
    exact hreserved (by decide)
  · rintro rfl
    exact hreserved (by decide)

namespace Relates

variable {value : String}

/-- The columns of the value have the characters of names. -/
theorem isNameChar (h : Relates value) :
    ∀ column ∈ Text.columns value.toList, ∀ c ∈ column, Text.isNameChar c = true := by
  intro column hcolumn c hc
  exact Text.isNameChar_of_isName (h.names column hcolumn) c (by rwa [String.toList_ofList])

/-- The value consists of characters of names and of arrows. -/
theorem of_mem (h : Relates value) {c : Char} (hc : c ∈ value.toList) :
    Text.isNameChar c = true ∨ c = '-' ∨ c = '>' := by
  have hjoined (columns : List (List Char)) (hchars : ∀ column ∈ columns, ∀ c ∈ column,
      Text.isNameChar c = true) (hc : c ∈ ['-', '>'].intercalate columns) :
      Text.isNameChar c = true ∨ c = '-' ∨ c = '>' := by
    induction columns with
    | nil => cases hc
    | cons column rest ih =>
      obtain ⟨hfirst, hrest⟩ := List.forall_mem_cons.1 hchars
      cases rest with
      | nil =>
        rw [List.intercalate_singleton] at hc
        exact .inl (hfirst c hc)
      | cons next rest =>
        rw [List.intercalate_cons_cons, List.mem_append, List.mem_append] at hc
        rcases hc with (hc | hc) | hc
        · exact .inl (hfirst c hc)
        · exact .inr (by simpa using hc)
        · exact ih hrest hc
  rw [← Text.intercalate_columns value.toList] at hc
  exact hjoined _ h.isNameChar hc

/-- The value comes back from a tuple as it was written. -/
theorem readBack_eq (h : Relates value) : Tuple.readBack value = value :=
  Tuple.readBack_of_isNameChar h.isNameChar

/-- The value comes back from an equation as it was written. -/
theorem word (h : Relates value) : Word value := by
  refine ⟨fun c hc => ?_, fun hnil => ?_, fun hmem => ?_, h.not_none, fun c hc => ?_⟩
  · rcases h.of_mem hc with hname | rfl | rfl
    · exact Token.isLetter_of_isNameChar hname
    · decide
    · decide
  · have hempty := h.names [] (by rw [hnil]; exact List.mem_singleton_self [])
    exact absurd hempty (by decide)
  · have hchars : ∀ c ∈ value.toList, c ≠ '|' ∧ c ≠ '&' := by
      intro c hc
      rcases h.of_mem hc with hname | rfl | rfl
      · exact ⟨Text.ne_of_isNameChar hname (by decide), Text.ne_of_isNameChar hname (by decide)⟩
      · decide
      · decide
    simp only [orWords, andWords, List.cons_append, List.nil_append, List.mem_cons,
      List.not_mem_nil, or_false] at hmem
    rcases hmem with rfl | rfl | rfl | rfl
    · exact h.not_joining.2 rfl
    · exact (hchars '|' (by decide)).1 rfl
    · exact h.not_joining.1 rfl
    · exact (hchars '&' (by decide)).2 rfl
  · rcases h.of_mem hc with hname | rfl | rfl
    · exact ⟨Text.ne_of_isNameChar hname (by decide), Text.ne_of_isNameChar hname (by decide)⟩
    · decide
    · decide

end Relates

end Condition

/-! ### Views -/

/-- Whether the fields of a system are names and the values of its states relate names. -/
structure TransitionSystem.Relational (system : TransitionSystem) : Prop where
  fields : ∀ name ∈ system.fields.names, Text.isName name = true
  values : ∀ state ∈ system.states, ∀ entry ∈ state.values.entries, ∀ v ∈ entry.2,
    Condition.Relates v

instance (system : TransitionSystem) : Decidable system.Relational :=
  decidable_of_iff
    ((∀ name ∈ system.fields.names, Text.isName name = true) ∧
      ∀ state ∈ system.states, ∀ entry ∈ state.values.entries, ∀ v ∈ entry.2, Condition.Relates v)
    ⟨fun ⟨hfields, hvalues⟩ => ⟨hfields, hvalues⟩, fun ⟨hfields, hvalues⟩ => ⟨hfields, hvalues⟩⟩

namespace TransitionSystem

variable {system : TransitionSystem} {transitionField : String} {state : SystemState}
  {label : Option String}

/-- The sets of the state of a view are the view, since a view holds sets already. -/
theorem sets_ofFields_view :
    (State.ofFields (system.view transitionField state label)).sets =
      system.view transitionField state label := by
  refine NameMap.ext_get? fun name => ?_
  rw [State.get?_sets, State.values?, State.ofFields, NameMap.get?_map, Option.map_map]
  by_cases hname : name ∈ system.fields.names
  · obtain ⟨values, hvalues, -⟩ :
        ∃ values, (system.view transitionField state label).get? name = some (valueSet values) ∧
          ∀ v ∈ values, True :=
      exists_get?_view (fun _ _ _ _ => trivial) (fun _ _ => trivial) hname
    have hsorted : valueSet (sortValues (valueSet values)) = valueSet values :=
      valueSet_congr fun v => by rw [(sortValues_perm _).mem_iff, mem_valueSet]
    rw [hvalues]
    exact congrArg some hsorted
  · rw [get?_view_of_not_mem hname]
    rfl

/-- The values of a relational system relate names wherever they are seen. -/
theorem Relational.of_get?_view (h : system.Relational) (hstate : state ∈ system.states)
    (hlabel : ∀ l ∈ label, Text.isPlain l = true) {name : String} {values : List String}
    (hvalues : (system.view transitionField state label).get? name = some values) :
    ∀ v ∈ values, Condition.Relates v := by
  have hname : name ∈ system.fields.names :=
    isSome_get?_view.1 (Option.isSome_iff_exists.2 ⟨values, hvalues⟩)
  obtain ⟨own, hown, hrelates⟩ :
      ∃ own, (system.view transitionField state label).get? name = some (valueSet own) ∧
        ∀ v ∈ own, Condition.Relates v :=
    exists_get?_view (h.values state hstate) (fun l hl => Condition.relates_of_isPlain (hlabel l hl))
      hname
  obtain rfl : values = valueSet own := Option.some.inj (hvalues.symm.trans hown)
  exact fun v hv => hrelates v (mem_valueSet.1 hv)

/-- Tuples carry the views of a relational system. -/
theorem Relational.carries (h : system.Relational) (hstate : state ∈ system.states)
    (hlabel : ∀ l ∈ label, Text.isPlain l = true) :
    system.fields.Carries (system.view transitionField state label) :=
  ⟨fun _ => isSome_get?_view,
    fun _ _ hvalues v hv => (h.of_get?_view hstate hlabel hvalues v hv).readBack_eq⟩

/-- The state of a view of a relational system fits the fields of the system. -/
theorem Relational.fits (h : system.Relational) (hstate : state ∈ system.states)
    (hlabel : ∀ l ∈ label, Text.isPlain l = true) :
    (State.ofFields (system.view transitionField state label)).Fits system.fields := by
  have hget (name : String) :
      (State.ofFields (system.view transitionField state label)).values? name =
        ((system.view transitionField state label).get? name).map sortValues :=
    NameMap.get?_map _ _ name
  refine ⟨fun name => ?_, fun name values hvalues v hv => ?_⟩
  · have hfield := hget name
    rw [State.values?] at hfield
    rw [State.hasField, NameMap.contains, hfield, Option.isSome_map]
    exact isSome_get?_view
  · rw [hget, Option.map_eq_some_iff] at hvalues
    obtain ⟨own, hown, rfl⟩ := hvalues
    exact (h.of_get?_view hstate hlabel hown v ((sortValues_perm own).mem_iff.1 hv)).word

/-- Plain words relate names. -/
theorem Plain.relational (h : system.Plain) : system.Relational :=
  ⟨fun name hname => Text.isName_of_isPlain (h.fields name hname), fun state hstate entry hentry v hv =>
    Condition.relates_of_isPlain (h.values state hstate entry hentry v hv)⟩

end TransitionSystem

/-! ### Chains -/

namespace Problem

/-- The chains of a problem without conditions are all runs from its starts, as far as there is
room. -/
theorem chains_free (start : Start) (bound : Nat) (system : TransitionSystem)
    (transitionField : String) (cap : Nat) :
    (free start bound).chains system transitionField cap =
      ((system.starts transitionField start).flatMap fun leg =>
        (system.runs transitionField bound leg.state).map fun legs =>
          (leg :: legs).map (·.view)).take cap := by
  have hadmits (position : Nat) (legs : List Leg) :
      (free start bound).admitsAll position legs = true :=
    (admitsAll_iff _ position legs).2 fun p hp => by cases hp
  have hsolutions (leg : Leg) : (free start bound).solutions system transitionField bound [] leg =
      (system.runs transitionField bound leg.state).map fun legs => (leg :: legs).map (·.view) := by
    have hreached (chain : List Leg) : (free start bound).reached chain = true := rfl
    simp [solutions, hadmits, hreached]
  rw [chains_eq_take]
  exact congrArg (List.take cap) (congrArg (List.flatMap · _) (funext hsolutions))

/-- Where fields are given, and no transition is asked for, there is nothing but the chain of these
fields. -/
theorem eq_of_mem_chains_fixed {given : View} {system : TransitionSystem} {transitionField : String}
    {cap : Nat} {views : List View}
    (h : views ∈ (free (.fixed given) 0).chains system transitionField cap) : views = [given] := by
  rw [chains_free] at h
  obtain ⟨leg, hleg, hviews⟩ := List.mem_flatMap.1 (List.mem_of_mem_take h)
  obtain ⟨state, -, rfl⟩ := List.mem_map.1 hleg
  simpa [TransitionSystem.runs] using hviews

/-- There is such a chain if some state of the system holds the fields, apart from the transition
field. -/
theorem chains_fixed_ne_nil {given : View} {system : TransitionSystem} {transitionField : String}
    {cap : Nat} (hcap : 0 < cap) {state : SystemState} (hstate : state ∈ system.states)
    (hcontent : TransitionSystem.content transitionField
        (system.view transitionField state none) =
      TransitionSystem.content transitionField given) :
    (free (.fixed given) 0).chains system transitionField cap ≠ [] := by
  have hstart : ⟨state, given⟩ ∈ system.starts transitionField (.fixed given) :=
    List.mem_map.2 ⟨state, List.mem_filter.2 ⟨hstate, beq_iff_eq.2 hcontent⟩, rfl⟩
  have hmem : [given] ∈ (system.starts transitionField (.fixed given)).flatMap fun leg =>
      (system.runs transitionField 0 leg.state).map fun legs => (leg :: legs).map (·.view) :=
    List.mem_flatMap.2 ⟨_, hstart, List.mem_singleton_self _⟩
  rw [chains_free, Ne, List.take_eq_nil_iff, not_or]
  exact ⟨Nat.ne_of_gt hcap, List.ne_nil_of_mem hmem⟩

end Problem

/-! ### Answers -/

namespace ExplicitSolver

/-- A query that is read is answered. -/
theorem run_of_read {solver : ExplicitSolver} {text : String} {problem : Problem}
    (h : solver.read text = .ok problem) :
    Solver.run solver text = (.ok (solver.answer problem), solver) := by
  rw [run_eq, h]
  rfl

/-- A solution to a problem whose chains tuples carry is decoded as the chain at its place. -/
theorem chain_eq {solver : ExplicitSolver} (hname : Text.isName solver.vocabulary.stateSig = true)
    (hnodup : solver.system.fields.names.Nodup) {problem : Problem} {index : Nat}
    {views : List View} (hviews : (solver.chains problem)[index]? = some views)
    (hcarries : ∀ view ∈ views, solver.system.fields.Carries view)
    (hlength : views.length ≤ Text.maxWord) :
    (⟨solver.answer problem, index⟩ : Solution).chain solver.vocabulary.stateSig =
      .ok (solver.system.fields, views.map State.ofFields) :=
  (tells_of_getElem? (s := ⟨solver.answer problem, index⟩) rfl hviews).chain_eq
    (Tuple.not_arrow_of_isName hname) rfl hlength hnodup hcarries

/-- A query that resumes from a state of the system is answered, and every solution is the chain of
this state. -/
theorem run_resumed (solver : ExplicitSolver) (hcap : 0 < solver.cap)
    (hvocabulary : solver.vocabulary.Unmistakable) (hsystem : solver.system.Relational)
    (hnodup : solver.system.fields.names.Nodup) {state : SystemState}
    (hstate : state ∈ solver.system.states) {label : Option String}
    (hlabel : ∀ l ∈ label, Text.isPlain l = true) {base : String}
    (hbase : Predicate.find? solver.vocabulary.initPredicate base.toList = none) :
    let seen := State.ofFields (solver.system.view solver.vocabulary.transitionField state label)
    ∃ document, (Solver.run solver (Query.render solver.vocabulary ⟨base,
        seen.constraint solver.system.fields solver.vocabulary.initPredicate
          solver.vocabulary.stateSig, .initial, 0⟩)).1 = .ok document ∧
      document.first.satisfiable = true ∧
      ∀ i < document.instances.length, (⟨document, i⟩ : Solution).chain
        solver.vocabulary.stateSig = .ok (solver.system.fields, [seen]) := by
  intro seen
  have hfits : seen.Fits solver.system.fields := hsystem.fits hstate hlabel
  have hread := Problem.read_resumed .initial 0 hvocabulary hsystem.fields hbase hfits rfl
    (by decide)
  rw [TransitionSystem.sets_ofFields_view] at hread
  refine ⟨_, congrArg Prod.fst (run_of_read hread), ?_, fun i hi => ?_⟩
  · have hfound : (Problem.free (.fixed (solver.system.view solver.vocabulary.transitionField
        state label)) 0).chains solver.system solver.vocabulary.transitionField solver.cap ≠ [] :=
      Problem.chains_fixed_ne_nil hcap hstate (TransitionSystem.content_view state label).symm
    simpa [Document.first, Solution.satisfiable, answer, chains, List.length_pos_iff] using hfound
  · have hchain : i < (solver.chains (Problem.free (.fixed (solver.system.view
        solver.vocabulary.transitionField state label)) 0)).length := by
      simpa [answer] using hi
    have hviews := List.getElem?_eq_getElem hchain
    rw [Problem.eq_of_mem_chains_fixed (List.getElem_mem hchain)] at hviews
    have hword : 1 ≤ Text.maxWord := by decide
    refine chain_eq hvocabulary.stateSig hnodup hviews ?_ hword
    simpa using hsystem.carries hstate hlabel

/-- A solver over ports that are wired to others, where nothing tells the ports apart but what they
are wired to. -/
def wiring : ExplicitSolver where
  system :=
    { fields := [⟨"transTaken", 1⟩, ⟨"wires", 2⟩, ⟨"spare", 3⟩]
      states := [⟨"loose", .empty⟩, ⟨"wired", .ofList [("wires", ["B->none", "A->B"])]⟩]
      initial := ["loose"]
      transitions := [⟨"loose", "wired", some "plug"⟩] }
  vocabulary := .default
  cap := usualCap
  wellFormed := by decide

/-- The wired ports are resumed from as they are after the wires were plugged. -/
theorem run_resumed_wired :
    let wired : SystemState := ⟨"wired", .ofList [("wires", ["B->none", "A->B"])]⟩
    let seen := State.ofFields (wiring.system.view "transTaken" wired (some "plug"))
    0 < wiring.cap ∧ wiring.vocabulary.Unmistakable ∧ wiring.system.Relational ∧
      wiring.system.fields.names.Nodup ∧ wired ∈ wiring.system.states ∧
      Text.isPlain "plug" = true ∧ Predicate.find? "init" "sig Port \x7b\x7d".toList = none ∧
      ∃ document, (Solver.run wiring (Query.render wiring.vocabulary ⟨"sig Port \x7b\x7d",
          seen.constraint wiring.system.fields "init" "State", .initial, 0⟩)).1 = .ok document ∧
        document.first.satisfiable = true ∧
        ∀ i < document.instances.length, (⟨document, i⟩ : Solution).chain "State" =
          .ok (wiring.system.fields, [seen]) := by
  have hvocabulary : wiring.vocabulary.Unmistakable :=
    ⟨by decide +kernel, by decide +kernel, by decide +kernel⟩
  have hsystem : wiring.system.Relational := by decide +kernel
  have hwired : (⟨"wired", .ofList [("wires", ["B->none", "A->B"])]⟩ : SystemState) ∈
      wiring.system.states := by
    decide +kernel
  have hlabel : ∀ l ∈ some "plug", Text.isPlain l = true := by decide +kernel
  have hbase : Predicate.find? wiring.vocabulary.initPredicate "sig Port \x7b\x7d".toList = none := by
    decide +kernel
  exact ⟨by decide, hvocabulary, hsystem, by decide, hwired, hlabel _ rfl, hbase,
    run_resumed wiring (by decide) hvocabulary hsystem (by decide) hwired hlabel hbase⟩

/-- A solver over a single state, with a given name for the signature of states. -/
def oneState (stateSig : String) : ExplicitSolver where
  system := ⟨[⟨"f", 1⟩], [⟨"a", .ofList [("f", ["A"])]⟩], ["a"], []⟩
  vocabulary := { Vocabulary.default with stateSig }
  cap := usualCap
  wellFormed := by decide

/-- Whether the state is not resumed from under a name for the signature of states, though nothing
is wrong with the name or the system. -/
def Unresumed (name : String) : Prop :=
  let solver := oneState name
  let seen := State.ofFields (solver.system.view "transTaken" ⟨"a", .ofList [("f", ["A"])]⟩ none)
  Text.isName name = true ∧ 0 < solver.cap ∧ solver.system.Relational ∧
    solver.system.fields.names.Nodup ∧ ⟨"a", .ofList [("f", ["A"])]⟩ ∈ solver.system.states ∧
    ¬∃ document, (Solver.run solver (Query.render solver.vocabulary ⟨"",
      seen.constraint solver.system.fields "init" name, .initial, 0⟩)).1 = .ok document

/-- Where the state signature is called like the predicates of a goal, no state is resumed from:
the command then seems to mention such a predicate, and there is none. -/
theorem unresumed_of_mem_goalNames : ∀ name ∈ Query.goalNames, Unresumed name := by
  have hvalid : ∀ name ∈ Query.goalNames, Text.isName name = true ∧ 0 < (oneState name).cap ∧
      (oneState name).system.Relational ∧ (oneState name).system.fields.names.Nodup ∧
      ⟨"a", .ofList [("f", ["A"])]⟩ ∈ (oneState name).system.states := by
    decide +kernel
  have hrefused : ∀ name ∈ Query.goalNames, (Solver.run (oneState name) (Query.render
      (oneState name).vocabulary ⟨"", (State.ofFields ((oneState name).system.view "transTaken"
        ⟨"a", .ofList [("f", ["A"])]⟩ none)).constraint (oneState name).system.fields "init" name,
          .initial, 0⟩)).1.isOk = false := by
    decide +kernel
  intro name hname
  obtain ⟨hsig, hcap, hsystem, hnodup, hstate⟩ := hvalid name hname
  refine ⟨hsig, hcap, hsystem, hnodup, hstate, ?_⟩
  rintro ⟨document, hdocument⟩
  have hnot := hrefused name hname
  rw [hdocument] at hnot
  cases hnot

/-- No state is resumed from under any of the names of goals. -/
theorem not_resumed_goalName :
    Unresumed Query.pathName ∧ Unresumed Query.breakName ∧ Unresumed Query.forceName := by
  refine ⟨unresumed_of_mem_goalNames _ ?_, unresumed_of_mem_goalNames _ ?_,
    unresumed_of_mem_goalNames _ ?_⟩
  all_goals decide

end ExplicitSolver

end StateExplorer
