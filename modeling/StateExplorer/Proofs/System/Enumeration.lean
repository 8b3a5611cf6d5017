import StateExplorer.Solver.Explicit

/-!
# The search is a capped enumeration

The chains that solve a problem are listed here without any cleverness: from each start, every
sequence of exactly so many declared transitions in lexicographic order, kept if its transitions
follow each other and its states meet all conditions of the problem. The search, which gives up
early at a missed condition and counts down one allowance over all starts, finds the first chains
of that list.
-/

namespace StateExplorer

/-- Every list of so many items, in lexicographic order. -/
def sequences {α : Type} (items : List α) : Nat → List (List α)
  | 0 => [[]]
  | n + 1 => items.flatMap fun item => (sequences items n).map (item :: ·)

namespace TransitionSystem

/-- Whether the first transition leaves the named state and each other one leaves the state that
the one before it enters. -/
def follow (name : String) : List Transition → Bool
  | [] => true
  | t :: rest => t.source == name && follow t.target rest

/-- The state that a transition enters, with what it then holds. -/
def entered? (system : TransitionSystem) (transitionField : String) (t : Transition) :
    Option Leg :=
  (system.state? t.target).map fun target => ⟨target, system.view transitionField target t.label⟩

end TransitionSystem

namespace Problem

/-- Whether what a chain holds is as the problem asks: each condition on a position between one
and the bound holds there, and some state after the first is as wanted. -/
def accepts (problem : Problem) (views : List View) : Bool :=
  (problem.positional.all fun (i, condition) =>
    !(decide (1 ≤ i) && decide (i ≤ problem.bound)) || views[i]?.any condition.holds) &&
  problem.reach.all fun condition => views.tail.any condition.holds

/-- Every chain that solves the problem, in order. -/
def enumeration (problem : Problem) (system : TransitionSystem) (transitionField : String) :
    List (List View) :=
  (system.starts transitionField problem.start).flatMap fun leg =>
    (((sequences system.transitions problem.bound).filter
        (TransitionSystem.follow leg.state.name)).map fun ts =>
      leg.view :: (ts.filterMap (system.entered? transitionField)).map (·.view)).filter
        problem.accepts

end Problem

/-! ### The allowance -/

namespace Found

/-- What was found, with further chains as far as they are wanted. -/
def add (found : Found) (more : List (List View)) : Found :=
  ⟨found.room - more.length, (more.take found.room).reverse ++ found.chains⟩

/-- Nothing further leaves what was found. -/
@[simp] theorem add_nil (found : Found) : found.add [] = found := by
  simp [add]

/-- Adding in two turns is adding everything at once. -/
theorem add_add (found : Found) (a b : List (List View)) :
    (found.add a).add b = found.add (a ++ b) := by
  simp [add, List.take_append, Nat.sub_sub]

/-- Nothing is added where nothing more is wanted. -/
theorem add_of_full {found : Found} (h : found.room = 0) (more : List (List View)) :
    found.add more = found := by
  cases found
  simp_all [add]

/-- One wanted chain takes one place. -/
theorem add_singleton {found : Found} (h : found.room ≠ 0) (chain : List View) :
    found.add [chain] = ⟨found.room - 1, chain :: found.chains⟩ := by
  obtain ⟨room, chains⟩ := found
  cases room with
  | zero => simp at h
  | succ room => simp [add]

/-- A fold that adds chains at each item adds the chains of all items. -/
theorem foldl_add {α : Type} {step : Found → α → Found} {more : α → List (List View)}
    (items : List α) (hstep : ∀ found, ∀ item ∈ items, step found item = found.add (more item))
    (found : Found) : items.foldl step found = found.add (items.flatMap more) := by
  induction items generalizing found with
  | nil => simp
  | cons item rest ih =>
    rw [List.foldl_cons, hstep found item List.mem_cons_self,
      ih (fun found i hi => hstep found i (List.mem_cons_of_mem _ hi)), add_add, List.flatMap_cons]

end Found

/-! ### Chains of legs -/

namespace TransitionSystem

/-- Every way to go on from a state by so many transitions. -/
def runs (system : TransitionSystem) (transitionField : String) :
    Nat → SystemState → List (List Leg)
  | 0, _ => [[]]
  | n + 1, source => (system.moves transitionField source).flatMap fun next =>
      (runs system transitionField n next.state).map (next :: ·)

/-- A run has as many legs as it has transitions. -/
theorem length_of_mem_runs {system : TransitionSystem} {transitionField : String} {n : Nat}
    {source : SystemState} {legs : List Leg}
    (h : legs ∈ system.runs transitionField n source) : legs.length = n := by
  induction n generalizing source legs with
  | zero => simp [runs] at h; simp [h]
  | succ n ih =>
    simp only [runs, List.mem_flatMap, List.mem_map] at h
    obtain ⟨next, -, rest, hrest, rfl⟩ := h
    simp [ih hrest]

/-- A named state has that name. -/
theorem name_of_state? {system : TransitionSystem} {name : String} {state : SystemState}
    (h : system.state? name = some state) : state.name = name := by
  simpa using List.find?_some h

/-- In a well-formed system every transition enters a state. -/
theorem state?_target_isSome {system : TransitionSystem} (h : system.faults = []) {t : Transition}
    (ht : t ∈ system.transitions) : (system.state? t.target).isSome := by
  have hmentioned : t.target ∈ system.mentioned :=
    List.mem_append_right _ (List.mem_flatMap.2 ⟨t, ht, by simp⟩)
  have hknown := (List.append_eq_nil_iff.1 h).2
  simp only [List.map_eq_nil_iff, List.filter_eq_nil_iff] at hknown
  have := hknown _ hmentioned
  simpa [state?, List.find?_isSome] using this

/-- The moves from a state are what its transitions enter. -/
theorem moves_eq_filterMap (system : TransitionSystem) (transitionField : String)
    (source : SystemState) :
    system.moves transitionField source =
      (system.transitions.filter (·.source == source.name)).filterMap
        (system.entered? transitionField) := rfl

/-- The runs of a well-formed system are the sequences of transitions that follow each other. -/
theorem runs_eq_sequences {system : TransitionSystem} (h : system.faults = [])
    (transitionField : String) (n : Nat) (source : SystemState) :
    system.runs transitionField n source =
      ((sequences system.transitions n).filter (follow source.name)).map
        (·.filterMap (system.entered? transitionField)) := by
  induction n generalizing source with
  | zero => rfl
  | succ n ih =>
    rw [runs, sequences, moves_eq_filterMap, List.filterMap_filter, List.filter_flatMap,
      List.map_flatMap]
    -- Both sides now go through the declared transitions one by one.
    have hgo (ts : List Transition) (hts : ∀ t ∈ ts, t ∈ system.transitions) :
        (ts.filterMap fun t => if t.source == source.name then system.entered? transitionField t
            else none).flatMap (fun next =>
              (system.runs transitionField n next.state).map (next :: ·)) =
          ts.flatMap fun t =>
            (((sequences system.transitions n).map (t :: ·)).filter (follow source.name)).map
              (·.filterMap (system.entered? transitionField)) := by
      induction ts with
      | nil => rfl
      | cons t rest ihts =>
        have hrest := ihts fun t ht => hts t (List.mem_cons_of_mem _ ht)
        rw [List.flatMap_cons, ← hrest, List.filterMap_cons, List.filter_map]
        by_cases hsource : t.source = source.name
        · obtain ⟨target, htarget⟩ :=
            Option.isSome_iff_exists.1 (state?_target_isSome h (hts t List.mem_cons_self))
          have hfollow : (follow source.name ∘ (t :: ·)) = follow target.name := by
            funext ts
            simp [follow, hsource, name_of_state? htarget]
          have hentered : system.entered? transitionField t =
              some ⟨target, system.view transitionField target t.label⟩ := by
            simp [entered?, htarget]
          simp [hsource, hfollow, hentered, ih, List.flatMap_cons, Function.comp_def]
        · have hnot : (follow source.name ∘ (t :: ·)) = fun _ => false := by
            funext ts
            simp [follow, hsource]
          simp [hsource, hnot]
    exact hgo _ fun _ ht => ht

end TransitionSystem

/-! ### Pruning -/

namespace Problem

/-- Whether each leg meets the conditions on its position, the first one being at `position`. -/
def admitsAll (problem : Problem) : Nat → List Leg → Bool
  | _, [] => true
  | position, leg :: rest =>
    problem.admits position leg.view && problem.admitsAll (position + 1) rest

/-- Every chain that goes on from a leg by so many transitions and solves the problem; `before` are
the legs of the chain before it, last one first. -/
def solutions (problem : Problem) (system : TransitionSystem) (transitionField : String)
    (left : Nat) (before : List Leg) (leg : Leg) : List (List View) :=
  ((system.runs transitionField left leg.state).filter fun legs =>
      problem.admitsAll (before.length + 1) legs &&
        problem.reached (legs.reverse ++ leg :: before)).map fun legs =>
    (before.reverse ++ leg :: legs).map (·.view)

/-- A chain is solved further only over legs that meet the conditions on their position. -/
theorem solutions_succ (problem : Problem) (system : TransitionSystem) (transitionField : String)
    (left : Nat) (before : List Leg) (leg : Leg) :
    problem.solutions system transitionField (left + 1) before leg =
      ((system.moves transitionField leg.state).filter fun next =>
        problem.admits (before.length + 1) next.view).flatMap
          (problem.solutions system transitionField left (leg :: before)) := by
  simp only [solutions, TransitionSystem.runs, List.filter_flatMap, List.map_flatMap,
    List.filter_map, List.map_map]
  induction system.moves transitionField leg.state with
  | nil => rfl
  | cons next rest ih =>
    rw [List.flatMap_cons, ih]
    by_cases hnext : problem.admits (before.length + 1) next.view
    · simp [hnext, admitsAll, solutions, Function.comp_def]
    · simp [hnext, admitsAll, Function.comp_def]

/-- The search adds the solutions that are still wanted. -/
theorem explore_eq_add (problem : Problem) (system : TransitionSystem) (transitionField : String)
    (left : Nat) (before : List Leg) (leg : Leg) (found : Found) :
    problem.explore system transitionField left before leg found =
      found.add (problem.solutions system transitionField left before leg) := by
  induction left generalizing before leg found with
  | zero =>
    rw [explore]
    by_cases hroom : found.room = 0
    · rw [if_pos hroom, Found.add_of_full hroom]
    · rw [if_neg hroom]
      by_cases hreached : problem.reached (leg :: before)
      · simp [hreached, solutions, TransitionSystem.runs, admitsAll, Found.add_singleton hroom]
      · simp [hreached, solutions, TransitionSystem.runs, admitsAll]
  | succ left ih =>
    rw [explore]
    by_cases hroom : found.room = 0
    · rw [if_pos hroom, Found.add_of_full hroom]
    · rw [if_neg hroom, solutions_succ]
      exact Found.foldl_add _ (fun found next _ => ih (leg :: before) next found) found

/-- The chains found are the first of the solutions from all starts. -/
theorem chains_eq_take (problem : Problem) (system : TransitionSystem) (transitionField : String)
    (cap : Nat) :
    problem.chains system transitionField cap =
      ((system.starts transitionField problem.start).flatMap
        (problem.solutions system transitionField problem.bound [])).take cap := by
  rw [chains, Found.foldl_add _ fun found leg _ =>
    problem.explore_eq_add system transitionField problem.bound [] leg found]
  simp [Found.add]

/-- Legs meet the conditions on their positions exactly if every condition holds of the leg that
stands at its position. -/
theorem admitsAll_iff (problem : Problem) (position : Nat) (legs : List Leg) :
    problem.admitsAll position legs = true ↔
      ∀ p ∈ problem.positional, ∀ j leg, legs[j]? = some leg → p.1 = position + j →
        p.2.holds leg.view = true := by
  induction legs generalizing position with
  | nil => simp [admitsAll]
  | cons leg rest ih =>
    have hhead : problem.admits position leg.view = true ↔
        ∀ p ∈ problem.positional, p.1 = position → p.2.holds leg.view = true := by
      simp only [admits, List.all_eq_true, Bool.or_eq_true, bne_iff_ne, ne_eq]
      exact forall₂_congr fun p _ => Decidable.imp_iff_not_or.symm
    rw [admitsAll, Bool.and_eq_true, hhead, ih]
    constructor
    · rintro ⟨hfirst, hrest⟩ p hp j leg' hj hposition
      cases j with
      | zero =>
        obtain rfl : leg = leg' := by simpa using hj
        exact hfirst p hp (by simpa using hposition)
      | succ j => exact hrest p hp j leg' (by simpa using hj) (by omega)
    · intro h
      refine ⟨fun p hp hposition => h p hp 0 leg rfl (by omega), ?_⟩
      exact fun p hp j leg' hj hposition => h p hp (j + 1) leg' (by simpa using hj) (by omega)

/-- What the search asks of a full chain is what the problem accepts. -/
theorem accepts_eq {problem : Problem} {legs : List Leg} (hlength : legs.length = problem.bound)
    (leg : Leg) :
    problem.accepts (leg.view :: legs.map (·.view)) =
      (problem.admitsAll 1 legs && problem.reached (legs.reverse ++ [leg])) := by
  have hreach : (problem.reach.all fun condition =>
      (legs.map (·.view)).any condition.holds) = problem.reached (legs.reverse ++ [leg]) := by
    rw [reached]
    cases problem.reach with
    | none => rfl
    | some condition => simp [List.any_reverse, List.any_map, Function.comp_def]
  rw [accepts, List.tail_cons, hreach]
  congr 1
  rw [Bool.eq_iff_iff, admitsAll_iff, List.all_eq_true]
  refine forall₂_congr fun p _ => ?_
  obtain ⟨i, condition⟩ := p
  cases i with
  | zero => exact ⟨fun _ j _ _ hposition => by omega, fun _ => by simp⟩
  | succ i =>
    by_cases hi : i < legs.length
    · have hget : (leg.view :: legs.map (·.view))[i + 1]? = some legs[i].view := by simp [hi]
      simp only [hget, Option.any_some, Bool.or_eq_true, Bool.not_eq_true', Bool.and_eq_false_iff]
      constructor
      · intro h j found hj hposition
        obtain rfl : j = i := by omega
        obtain rfl : legs[j] = found := by simpa [hi] using hj
        rcases h with h | h
        · simp [← hlength] at h; omega
        · exact h
      · exact fun h => .inr (h i legs[i] (by simp [hi]) (by omega))
    · have hout : decide (i + 1 ≤ problem.bound) = false := by simp; omega
      simp only [hout, Bool.and_false, Bool.not_false, Bool.true_or, true_iff]
      intro j found hj hposition
      have := (List.getElem?_eq_some_iff.1 hj).1
      omega

/-- From each start, the solutions are the accepted sequences of transitions. -/
theorem solutions_eq_filter {system : TransitionSystem} (h : system.faults = [])
    (transitionField : String) (problem : Problem) (leg : Leg) :
    problem.solutions system transitionField problem.bound [] leg =
      (((sequences system.transitions problem.bound).filter
          (TransitionSystem.follow leg.state.name)).map fun ts =>
        leg.view :: (ts.filterMap (system.entered? transitionField)).map (·.view)).filter
          problem.accepts := by
  have haccepts : (system.runs transitionField problem.bound leg.state).filter (fun legs =>
      problem.admitsAll 1 legs && problem.reached (legs.reverse ++ [leg])) =
        (system.runs transitionField problem.bound leg.state).filter fun legs =>
          problem.accepts (leg.view :: legs.map (·.view)) :=
    List.filter_congr fun legs hlegs =>
      (accepts_eq (TransitionSystem.length_of_mem_runs hlegs) leg).symm
  rw [solutions, List.length_nil, Nat.zero_add, haccepts,
    TransitionSystem.runs_eq_sequences h]
  simp [List.filter_map, Function.comp_def]

/-- The chains found in a well-formed system are the first of its enumeration. -/
theorem chains_eq_take_enumeration {system : TransitionSystem} (h : system.faults = [])
    (transitionField : String) (problem : Problem) (cap : Nat) :
    problem.chains system transitionField cap =
      (problem.enumeration system transitionField).take cap := by
  rw [chains_eq_take, enumeration]
  congr 2
  funext leg
  exact solutions_eq_filter h transitionField problem leg

end Problem

/-- A solver answers a problem with the first chains of its enumeration, as many as its cap allows
and in that order, so the answer is satisfiable exactly if there is such a chain. -/
theorem solve_enumerates (solver : ExplicitSolver) (problem : Problem) (hcap : 1 ≤ solver.cap) :
    ∃ document, (Solver.solve solver problem).1 = .ok document ∧
      solver.chains problem =
        (problem.enumeration solver.system solver.vocabulary.transitionField).take solver.cap ∧
      document.instances = (solver.chains problem).map solver.instanceOf ∧
      (document.first.satisfiable = true ↔
        problem.enumeration solver.system solver.vocabulary.transitionField ≠ []) := by
  have hchains : solver.chains problem =
      (problem.enumeration solver.system solver.vocabulary.transitionField).take solver.cap :=
    problem.chains_eq_take_enumeration solver.wellFormed _ _
  refine ⟨solver.answer problem, rfl, hchains, rfl, ?_⟩
  have hcount : (solver.answer problem).first.satisfiable = true ↔
      0 < (solver.chains problem).length := by
    simp [Solution.satisfiable, Document.first, ExplicitSolver.answer]
  rw [hcount, hchains, List.length_take, ← List.length_pos_iff]
  omega

/-- A traffic light: red, green, perhaps amber, and red again. -/
def trafficLight : TransitionSystem where
  fields := [⟨"light", 1⟩, ⟨"transTaken", 1⟩]
  states := [⟨"red", .ofList [("light", ["Red"])]⟩, ⟨"green", .ofList [("light", ["Green"])]⟩,
    ⟨"amber", .ofList [("light", ["Amber"])]⟩]
  initial := ["red"]
  transitions := [⟨"red", "green", some "go"⟩, ⟨"green", "amber", some "slow"⟩,
    ⟨"green", "red", some "halt"⟩, ⟨"amber", "red", some "stop"⟩]

/-- A solver over the traffic light that stops at the second chain. -/
def trafficSolver : ExplicitSolver :=
  ⟨trafficLight, .default, 2, by decide⟩

/-- Three transitions from any initial state, the second of which leads to a red light. -/
def backToRed : Problem :=
  ⟨.matching (.all []), 3, [(2, .equals "light" ["Red"])], none⟩

/-- The traffic light turns red at the second of three transitions in one way only. -/
theorem solve_enumerates_backToRed :
    1 ≤ trafficSolver.cap ∧
      (backToRed.enumeration trafficLight "transTaken").length = 1 ∧
      ∃ document, (Solver.solve trafficSolver backToRed).1 = .ok document ∧
        trafficSolver.chains backToRed =
          (backToRed.enumeration trafficLight "transTaken").take trafficSolver.cap ∧
        document.instances = (trafficSolver.chains backToRed).map trafficSolver.instanceOf ∧
        (document.first.satisfiable = true ↔
          backToRed.enumeration trafficLight "transTaken" ≠ []) :=
  ⟨by decide, by decide +kernel, solve_enumerates trafficSolver backToRed (by decide)⟩

end StateExplorer
