import Mathlib.Data.List.Flatten
import StateExplorer.Proofs.Solution.Records
import StateExplorer.Proofs.System.Initializer
import StateExplorer.Proofs.System.Roundtrip

/-!
# Solutions that repeat

A solution tells what its tuples record, and not through which states and transitions it was found.
So the solutions to a problem are all different if the tuples tell apart where chains start, and the
moves from each state that is reached. Otherwise some problem with the same start has a solution
twice.
-/

namespace StateExplorer

/-! ### Going through the solutions -/

/-- The solution so many steps after this one, if there are so many. -/
def Solution.after (s : Solution) : Nat → Option Solution
  | 0 => some s
  | n + 1 => (s.after n).bind Solution.next?

/-- Step by step from the first solution, the solutions of a document come in order. -/
theorem Solution.of_after_first {document : Document} {n : Nat} {s : Solution}
    (h : document.first.after n = some s) :
    s = ⟨document, n⟩ ∧ (0 < n → n < document.instances.length) := by
  induction n generalizing s with
  | zero => exact ⟨(Option.some.inj h).symm, fun hpos => absurd hpos (Nat.lt_irrefl 0)⟩
  | succ n ih =>
    obtain ⟨before, hbefore, hnext⟩ := Option.bind_eq_some_iff.1 h
    obtain ⟨rfl, -⟩ := ih hbefore
    simp only [next?] at hnext
    split at hnext
    · rename_i hlt
      exact ⟨(Option.some.inj hnext).symm, fun _ => hlt⟩
    · cases hnext

/-- Whether the instances of a document have different tuples, and a solution that comes later shows
other tuples of some declared field than each one before. -/
structure Document.Varied (document : Document) : Prop where
  tuples : (document.instances.map (·.tuples)).Nodup
  after : ∀ m n earlier later, m < n → document.first.after m = some earlier →
    document.first.after n = some later →
      ∃ field, document.fields.declares field = true ∧ earlier.tuples field ≠ later.tuples field

namespace ExplicitSolver

variable {solver : ExplicitSolver} {problem : Problem} {start : Start}

/-- What is recorded of a view. -/
def recorded (solver : ExplicitSolver) (view : View) : Record :=
  solver.system.fields.record (.ofFields view)

/-- Instances of chains of the same length have the same tuples exactly if the same is recorded of
them. -/
theorem tuples_instanceOf_eq_iff {chain other : List View} (hlength : chain.length = other.length) :
    (solver.instanceOf chain).tuples = (solver.instanceOf other).tuples ↔
      chain.map solver.recorded = other.map solver.recorded := by
  change (Instance.ofChain solver.vocabulary.stateSig solver.system.fields
      (chain.map State.ofFields)).tuples = (Instance.ofChain solver.vocabulary.stateSig
      solver.system.fields (other.map State.ofFields)).tuples ↔ _
  rw [Instance.tuples_ofChain_eq_iff (by simpa using hlength), List.map_map, List.map_map]
  rfl

/-- The instances of an answer have different tuples exactly if different things are recorded of the
chains. -/
theorem nodup_tuples_answer_iff (solver : ExplicitSolver) (problem : Problem) :
    ((solver.answer problem).instances.map (·.tuples)).Nodup ↔
      ((solver.chains problem).map (List.map solver.recorded)).Nodup := by
  have hlength {chain : List View} (hchain : chain ∈ solver.chains problem) :=
    Problem.length_of_mem_chains hchain
  simp only [answer, List.map_map, List.Nodup, List.pairwise_map]
  refine List.Pairwise.iff_of_mem fun {chain other} hchain hother => not_congr ?_
  exact tuples_instanceOf_eq_iff ((hlength hchain).trans (hlength hother).symm)

/-- An instance of an answer has tuples for the declared fields. -/
theorem get?_tuples_of_mem_answer {i : Instance} (h : i ∈ (solver.answer problem).instances)
    (name : String) : i.tuples.get? name =
      if name ∈ solver.system.fields.names then some (i.tuplesFor name) else none := by
  obtain ⟨chain, -, rfl⟩ := List.mem_map.1 h
  have hget := Instance.get?_tuples_ofChain solver.vocabulary.stateSig solver.system.fields
    (chain.map State.ofFields) name
  change (solver.instanceOf chain).tuples.get? name = _ at hget
  rw [Instance.tuplesFor, hget]
  split <;> rfl

/-- Instances of an answer with different tuples have different tuples of a declared field. -/
theorem exists_field_of_tuples_ne {i j : Instance} (hi : i ∈ (solver.answer problem).instances)
    (hj : j ∈ (solver.answer problem).instances) (h : i.tuples ≠ j.tuples) :
    ∃ name ∈ solver.system.fields.names, i.tuplesFor name ≠ j.tuplesFor name := by
  by_contra hsame
  simp only [ne_eq, not_exists, not_and, not_not] at hsame
  apply h
  apply NameMap.ext_get?
  intro name
  rw [get?_tuples_of_mem_answer hi, get?_tuples_of_mem_answer hj]
  by_cases hname : name ∈ solver.system.fields.names
  · rw [if_pos hname, if_pos hname, hsame name hname]
  · rw [if_neg hname, if_neg hname]

/-- An answer is varied exactly if different things are recorded of the chains. -/
theorem varied_answer_iff (solver : ExplicitSolver) (problem : Problem) :
    (solver.answer problem).Varied ↔
      ((solver.chains problem).map (List.map solver.recorded)).Nodup := by
  rw [← nodup_tuples_answer_iff]
  refine ⟨Document.Varied.tuples, ?_⟩
  intro hnodup
  refine ⟨hnodup, ?_⟩
  intro m n earlier later hlt hearlier hlater
  obtain ⟨rfl, -⟩ := Solution.of_after_first hearlier
  obtain ⟨rfl, hlength⟩ := Solution.of_after_first hlater
  have hn : n < (solver.answer problem).instances.length := hlength (by omega)
  have hm : m < (solver.answer problem).instances.length := hlt.trans hn
  have hne := List.pairwise_iff_getElem.1 (List.pairwise_map.1 hnodup) m n hm hn hlt
  obtain ⟨name, hname, htuples⟩ :=
    exists_field_of_tuples_ne (List.getElem_mem hm) (List.getElem_mem hn) hne
  refine ⟨name, Schema.declares_iff.2 hname, ?_⟩
  intro hsame
  rw [Solution.tuples_eq_ok (List.getElem?_eq_getElem hm) hname,
    Solution.tuples_eq_ok (List.getElem?_eq_getElem hn) hname] at hsame
  exact htuples (Except.ok.inj hsame)

end ExplicitSolver

/-! ### What is recorded of runs -/

section Spread

variable {α β : Type} {heads : List α} {first : α → β} {rests : α → List (List β)}

/-- Lists are different if their heads tell apart what they were made from, and so do the lists that
were made from one thing. -/
theorem nodup_flatMap_cons (hheads : (heads.map first).Nodup)
    (hrests : ∀ a ∈ heads, (rests a).Nodup) :
    (heads.flatMap fun a => (rests a).map (first a :: ·)).Nodup := by
  rw [List.nodup_flatMap]
  constructor
  · intro a ha
    exact (hrests a ha).map (List.cons_injective)
  · refine (List.pairwise_map.1 hheads).imp ?_
    intro a b hne list ha hb
    obtain ⟨rest, -, rfl⟩ := List.mem_map.1 ha
    obtain ⟨rest', -, hrest⟩ := List.mem_map.1 hb
    exact hne (List.cons.inj hrest).1.symm

/-- Lists that were made from one thing are different if all are. -/
theorem nodup_of_nodup_flatMap_cons
    (h : (heads.flatMap fun a => (rests a).map (first a :: ·)).Nodup) {a : α} (ha : a ∈ heads) :
    (rests a).Nodup :=
  ((List.nodup_flatMap.1 h).1 a ha).of_map _

end Spread

namespace TransitionSystem

variable {system : TransitionSystem} {transitionField : String} {β : Type} {ρ : Leg → β}

/-- Whether moves lead from a state to another, one after another. -/
def Leads (system : TransitionSystem) (transitionField : String) :
    SystemState → SystemState → Prop :=
  Relation.ReflTransGen fun source target =>
    ∃ leg ∈ system.moves transitionField source, leg.state = target

/-- Runs go on from the states that the moves lead to. -/
theorem map_runs_succ (system : TransitionSystem) (transitionField : String) (ρ : Leg → β) (n : Nat)
    (source : SystemState) :
    (system.runs transitionField (n + 1) source).map (List.map ρ) =
      (system.moves transitionField source).flatMap fun next =>
        ((system.runs transitionField n next.state).map (List.map ρ)).map (ρ next :: ·) := by
  simp [runs, List.map_flatMap, Function.comp_def]

/-- Where runs make no transition, they are told apart by where they start. -/
theorem nodup_of_nodup_zero {heads : List Leg} (h : (heads.flatMap fun leg =>
      ((system.runs transitionField 0 leg.state).map (List.map ρ)).map (ρ leg :: ·)).Nodup) :
    (heads.map ρ).Nodup := by
  have hsingle : (heads.flatMap fun leg =>
      ((system.runs transitionField 0 leg.state).map (List.map ρ)).map (ρ leg :: ·)) =
        (heads.map ρ).map ([·]) := by
    rw [List.map_map, List.map_eq_flatMap]
    rfl
  rw [hsingle] at h
  exact h.of_map _

/-- All runs from a state are told apart exactly if the moves are from each state that it leads to. -/
theorem nodup_runs_iff {source : SystemState} :
    (∀ n, ((system.runs transitionField n source).map (List.map ρ)).Nodup) ↔
      ∀ state, system.Leads transitionField source state →
        ((system.moves transitionField state).map ρ).Nodup := by
  constructor
  · intro h state hleads
    induction hleads using Relation.ReflTransGen.head_induction_on with
    | refl =>
      have hone := h 1
      rw [map_runs_succ] at hone
      exact nodup_of_nodup_zero hone
    | head hstep _ ih =>
      obtain ⟨leg, hleg, rfl⟩ := hstep
      apply ih
      intro n
      have hnext := h (n + 1)
      rw [map_runs_succ] at hnext
      exact nodup_of_nodup_flatMap_cons hnext hleg
  · intro h n
    induction n generalizing source with
    | zero => exact List.nodup_singleton _
    | succ n ih =>
      rw [map_runs_succ]
      apply nodup_flatMap_cons (h source .refl)
      intro next hnext
      apply ih
      intro state hleads
      exact h state (.head ⟨next, hnext, rfl⟩ hleads)

end TransitionSystem

namespace ExplicitSolver

variable {solver : ExplicitSolver} {start : Start}

/-- Whether the tuples tell apart where chains start, and the moves from each state that is reached
from there. -/
structure TellsApart (solver : ExplicitSolver) (start : Start) : Prop where
  starts : ((solver.system.starts solver.vocabulary.transitionField start).map
    fun leg => solver.recorded leg.view).Nodup
  moves : ∀ leg ∈ solver.system.starts solver.vocabulary.transitionField start, ∀ state,
    solver.system.Leads solver.vocabulary.transitionField leg.state state →
      ((solver.system.moves solver.vocabulary.transitionField state).map
        fun leg => solver.recorded leg.view).Nodup

/-- What is recorded of all runs from a start by so many transitions. -/
def records (solver : ExplicitSolver) (start : Start) (bound : Nat) :
    List (List Record) :=
  (solver.system.starts solver.vocabulary.transitionField start).flatMap fun leg =>
    ((solver.system.runs solver.vocabulary.transitionField bound leg.state).map
      (List.map fun leg => solver.recorded leg.view)).map (solver.recorded leg.view :: ·)

/-- All runs from a start are told apart exactly if the starts and the moves are. -/
theorem tellsApart_iff_nodup_records :
    solver.TellsApart start ↔ ∀ bound, (solver.records start bound).Nodup := by
  constructor
  · intro h bound
    apply nodup_flatMap_cons h.starts
    intro leg hleg
    exact TransitionSystem.nodup_runs_iff.2 (h.moves leg hleg) bound
  · intro h
    refine ⟨TransitionSystem.nodup_of_nodup_zero (h 0), ?_⟩
    intro leg hleg
    exact TransitionSystem.nodup_runs_iff.1 fun n => nodup_of_nodup_flatMap_cons (h n) hleg

/-- What is recorded of the chains found is recorded of runs from the start, in the same order. -/
theorem records_chains_sublist (solver : ExplicitSolver) (problem : Problem) :
    ((solver.chains problem).map (List.map solver.recorded)).Sublist
      (solver.records problem.start problem.bound) := by
  rw [chains, Problem.chains_eq_take, List.map_take, List.map_flatMap]
  refine (List.take_sublist _ _).trans (List.Sublist.flatMap_right _ fun leg _ => ?_)
  have hsame : (List.map solver.recorded ∘ fun legs : List Leg =>
      (([] : List Leg).reverse ++ leg :: legs).map (·.view)) =
        (solver.recorded leg.view :: ·) ∘ List.map fun leg => solver.recorded leg.view := by
    funext legs
    simp
  rw [Problem.solutions, List.map_map, List.map_map, hsame]
  exact List.filter_sublist.map _

/-- Without conditions, and where there is room, all runs are found. -/
theorem records_chains_free (solver : ExplicitSolver) (start : Start) (bound : Nat)
    (hroom : (solver.records start bound).length ≤ solver.cap) :
    (solver.chains (Problem.free start bound)).map (List.map solver.recorded) =
      solver.records start bound := by
  have hall : ((solver.system.starts solver.vocabulary.transitionField start).flatMap fun leg =>
      (solver.system.runs solver.vocabulary.transitionField bound leg.state).map fun legs =>
        (leg :: legs).map (·.view)).map (List.map solver.recorded) = solver.records start bound := by
    simp [records, List.map_flatMap, Function.comp_def]
  rw [chains, Problem.chains_free, List.map_take, hall, List.take_of_length_le hroom]

/-- It is enough that the tuples tell apart where chains start, and the moves from each state of the
system. -/
theorem tellsApart_of_states
    (hstarts : ((solver.system.starts solver.vocabulary.transitionField start).map
      fun leg => solver.recorded leg.view).Nodup)
    (hmoves : ∀ state ∈ solver.system.states,
      ((solver.system.moves solver.vocabulary.transitionField state).map
        fun leg => solver.recorded leg.view).Nodup) : solver.TellsApart start := by
  refine ⟨hstarts, ?_⟩
  intro leg hleg state hleads
  apply hmoves
  induction hleads with
  | refl => exact (TransitionSystem.shows_of_mem_starts hleg).mem
  | tail _ hstep _ =>
    obtain ⟨next, hnext, rfl⟩ := hstep
    obtain ⟨t, -, -, htarget, -⟩ := TransitionSystem.mem_moves_iff.1 hnext
    exact TransitionSystem.mem_states_of_state? htarget

/-- The tuples tell the starts and the moves apart exactly if the solutions to each problem with this
start are all different, whatever else is asked and however many are looked for. -/
theorem tellsApart_iff_varied (solver : ExplicitSolver) (start : Start) :
    solver.TellsApart start ↔ ∀ cap problem, problem.start = start →
      ∃ document, (Solver.solve (solver.withCap cap) problem).1 = .ok document ∧
        document.Varied := by
  rw [tellsApart_iff_nodup_records]
  constructor
  · intro h cap problem hstart
    subst hstart
    refine ⟨(solver.withCap cap).answer problem, rfl, ?_⟩
    rw [varied_answer_iff]
    exact (h problem.bound).sublist (records_chains_sublist (solver.withCap cap) problem)
  · intro h bound
    obtain ⟨document, hsolve, hvaried⟩ :=
      h (solver.records start bound).length (Problem.free start bound) rfl
    obtain rfl := Except.ok.inj hsolve
    rw [varied_answer_iff] at hvaried
    have hroom : (solver.records start bound).length ≤
        (solver.withCap (solver.records start bound).length).cap := Nat.le_max_left _ _
    rwa [records_chains_free _ start bound hroom] at hvaried

/-- The tuples of a traffic light tell the lights apart. -/
theorem tellsApart_traffic : trafficSolver.TellsApart backToRed.start :=
  tellsApart_of_states (by decide +kernel) (by decide +kernel)

/-- So the chains that lead back to red are all different, though there is but one light that they
start from. -/
theorem tellsApart_iff_varied_traffic :
    trafficSolver.TellsApart backToRed.start ∧
      ∃ document, (Solver.solve (trafficSolver.withCap 8) backToRed).1 = .ok document ∧
        document.Varied :=
  ⟨tellsApart_traffic, (tellsApart_iff_varied trafficSolver _).1 tellsApart_traffic 8 backToRed rfl⟩

/-- A state with two transitions to itself, whose labels no field records. -/
def twoLoops : ExplicitSolver where
  system := ⟨[⟨"f", 1⟩], [⟨"a", .ofList [("f", ["A"])]⟩], ["a"],
    [⟨"a", "a", some "x"⟩, ⟨"a", "a", some "y"⟩]⟩
  vocabulary := .default
  cap := usualCap
  wellFormed := by decide

/-- A query for all chains of two states. -/
def twoStatesText : String :=
  "pred init[s: State] \x7b\n\x7d\nrun for exactly 2 State\n"

set_option maxRecDepth 4000 in
/-- Each of the two transitions gives a chain of its own, and they are shown alike. -/
theorem not_varied_twoLoops : ∃ problem document,
    (Solver.compile twoLoops twoStatesText).1 = .ok problem ∧
      (Solver.solve twoLoops problem).1 = .ok document ∧ ¬document.Varied ∧
      document.first.after 1 = some ⟨document, 1⟩ ∧
      (document.first.tuples "f").toOption = some ["State$0->A$0", "State$1->A$0"] ∧
      (⟨document, 1⟩ : Solution).tuples "f" = document.first.tuples "f" := by
  have hsolved : (twoLoops.read twoStatesText).toOption.map twoLoops.chains =
      some [[.ofList [("f", ["A"])], .ofList [("f", ["A"])]],
        [.ofList [("f", ["A"])], .ofList [("f", ["A"])]]] := by
    decide +kernel
  obtain ⟨problem, hread, hchains⟩ := Option.map_eq_some_iff.1 hsolved
  have hcompile := compile_eq_ok_iff.2 (toOption_eq_some_iff.1 hread)
  refine ⟨problem, twoLoops.answer problem, hcompile, rfl, ?_, ?_, ?_, ?_⟩
  · rw [varied_answer_iff, hchains]
    simp
  all_goals rw [answer, hchains]
  · rfl
  · decide +kernel
  · rfl

end ExplicitSolver

end StateExplorer
