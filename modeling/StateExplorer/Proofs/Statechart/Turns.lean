import StateExplorer.Proofs.Statechart.Visiting

/-!
# The walk turn by turn

The walk goes on for as long as a state is pending, and no bound on the number of its turns is part
of it. On every chart it ends, also where lists of children lead back to states above them, name one
state several times, or name one that has no list: a turn either drops a pending state or takes the
children of a state up for the only time, so pending states and waiting children become fewer with
each. It ends with the states that the root reaches, each of them once, and each but the root comes
after a state that lists it.
-/

namespace StateExplorer.Statechart

open Relation (ReflTransGen)

variable {chart : Statechart} {state : String} {pending visited : List String}
  {before after : List String × List String}

/-- One turn of the walk, from the pending and the visited states to those after it: the next pending
state is dropped if it was visited, and otherwise visited now, and its children are pending next. -/
inductive Turn (chart : Statechart) : List String × List String → List String × List String → Prop
  | seen {state : String} {pending visited : List String} (h : state ∈ visited) :
    Turn chart (state :: pending, visited) (pending, visited)
  | new {state : String} {pending visited : List String} (h : state ∉ visited) :
    Turn chart (state :: pending, visited) (chart.childrenOf state ++ pending, state :: visited)

/-! ### The turns end -/

/-- How many turns there can still be: one for each pending state and each child that is waiting. -/
def turnsLeft (chart : Statechart) (now : List String × List String) : Nat :=
  now.1.length + chart.waiting now.2

/-- With each turn there is one less. -/
theorem Turn.turnsLeft_eq (h : chart.Turn before after) :
    chart.turnsLeft before = chart.turnsLeft after + 1 := by
  cases h with
  | seen h =>
    simp only [turnsLeft, List.length_cons]
    omega
  | @new state pending visited h =>
    have hwaiting : chart.waiting (state :: visited) + (chart.childrenOf state).length =
        chart.waiting visited := waiting_cons h
    simp only [turnsLeft, List.length_cons, List.length_append]
    omega

/-- No walk goes on for ever, wherever it starts. -/
theorem wellFounded_turn (chart : Statechart) :
    WellFounded fun after before => chart.Turn before after :=
  Subrelation.wf (fun h => Nat.le_of_eq h.turnsLeft_eq.symm) (measure chart.turnsLeft).wf

/-! ### Where the turns end -/

/-- There is only one way to take a turn. -/
theorem rightUnique_turn (chart : Statechart) : Relator.RightUnique chart.Turn := by
  intro before after other hafter hother
  cases hafter with
  | seen h =>
    cases hother with
    | seen _ => rfl
    | new hnew => exact absurd h hnew
  | new h =>
    cases hother with
    | seen hseen => exact absurd hseen h
    | new _ => rfl

/-- The walk from the root ends with the states in its order. -/
theorem turns_iff {visited : List String} :
    ReflTransGen chart.Turn ([chart.root], []) ([], visited) ↔ visited.reverse = chart.states := by
  obtain ⟨final, hfinal, hstates⟩ := exists_states
    (P := fun pending visited => ReflTransGen chart.Turn ([chart.root], []) (pending, visited))
    (fun _ _ _ h hstate => h.tail (.seen hstate)) (fun _ _ _ h hstate => h.tail (.new hstate)) .refl
  have hend {visited other : List String} (h : ReflTransGen chart.Turn ([], visited) ([], other)) :
      visited = other := by
    rcases ReflTransGen.cases_head h with heq | ⟨_, hturn, _⟩
    · exact (Prod.mk.inj heq).2
    · cases hturn
  rw [hstates, List.reverse_inj]
  constructor
  · intro h
    rcases ReflTransGen.total_of_right_unique (rightUnique_turn chart) h hfinal with hto | hfrom
    · exact hend hto
    · exact (hend hfrom).symm
  · rintro rfl
    exact hfinal

/-! ### The order of the states -/

/-- Whether a state may come after those that were visited: it is the root and comes first, or one of
them lists it. -/
def Due (chart : Statechart) (visited : List String) (state : String) : Prop :=
  (visited = [] ∧ state = chart.root) ∨ ∃ parent ∈ visited, chart.Child parent state

/-- What holds during a walk: every pending state that is new may come next, and every visited state
might come when it came. -/
structure InOrder (chart : Statechart) (pending visited : List String) : Prop where
  pending_due : ∀ state ∈ pending, state ∉ visited → chart.Due visited state
  visited_due : ∀ state earlier, state :: earlier <:+ visited → chart.Due earlier state

/-- Dropping a pending state keeps the order. -/
theorem InOrder.seen (h : chart.InOrder (state :: pending) visited) :
    chart.InOrder pending visited :=
  ⟨fun other hother => h.pending_due other (List.mem_cons_of_mem _ hother), h.visited_due⟩

/-- A state that is visited in its turn keeps the order, and lets its children come. -/
theorem InOrder.new (h : chart.InOrder (state :: pending) visited) (hstate : state ∉ visited) :
    chart.InOrder (chart.childrenOf state ++ pending) (state :: visited) := by
  have hdue : chart.Due visited state := h.pending_due state List.mem_cons_self hstate
  refine ⟨fun other hother hnew => .inr ?_, fun other earlier hsuffix => ?_⟩
  · rcases List.mem_append.1 hother with hkid | hpending
    · exact ⟨state, List.mem_cons_self, hkid⟩
    · have hother : chart.Due visited other := h.pending_due other (List.mem_cons_of_mem _ hpending)
        fun hmem => hnew (List.mem_cons_of_mem _ hmem)
      rcases hother with ⟨rfl, rfl⟩ | ⟨parent, hparent, hkid⟩
      · -- Before anything is visited only the root is due, so the root is what was visited now.
        rcases hdue with ⟨-, rfl⟩ | ⟨_, hnone, _⟩
        · exact absurd List.mem_cons_self hnew
        · cases hnone
      · exact ⟨parent, List.mem_cons_of_mem _ hparent, hkid⟩
  · rcases List.suffix_cons_iff.1 hsuffix with heq | hsuffix
    · obtain ⟨rfl, rfl⟩ := List.cons.inj heq
      exact hdue
    · exact h.visited_due other earlier hsuffix

/-- Every state is due where it comes in the walk. -/
theorem due_of_states_eq {earlier later : List String}
    (h : chart.states = earlier ++ state :: later) : chart.Due earlier state := by
  have hstart : chart.InOrder [chart.root] [] :=
    ⟨fun state hstate _ => .inl ⟨rfl, List.mem_singleton.1 hstate⟩, by simp⟩
  obtain ⟨final, hfinal, hstates⟩ := exists_states (P := chart.InOrder)
    (fun _ _ _ h _ => h.seen) (fun _ _ _ h hstate => h.new hstate) hstart
  have hsuffix : state :: earlier.reverse <:+ final := by
    refine ⟨later.reverse, ?_⟩
    rw [← List.reverse_inj, ← hstates, h]
    simp
  simpa [Due] using hfinal.visited_due state _ hsuffix

/-- The walk ends on every chart: no turns go on for ever, and those from the root end with the states
in their order, of which the root is the first, none comes twice, they are exactly those that the
root reaches, and each but the root comes after some state that lists it as a child. -/
theorem turns_end_at_states (chart : Statechart) :
    (WellFounded fun after before => chart.Turn before after) ∧
    (∀ visited, ReflTransGen chart.Turn ([chart.root], []) ([], visited) ↔
      visited.reverse = chart.states) ∧
    chart.states.head? = some chart.root ∧ chart.states.Nodup ∧
    (∀ state, state ∈ chart.states ↔ chart.Reaches state) ∧
    ∀ earlier state later, chart.states = earlier ++ state :: later → state ≠ chart.root →
      ∃ parent ∈ earlier, chart.Child parent state := by
  obtain ⟨hnodup, hmem⟩ := states_spec chart
  refine ⟨wellFounded_turn chart, fun visited => turns_iff, ?_, hnodup, hmem, ?_⟩
  · cases hstates : chart.states with
    | nil => exact absurd ((hmem chart.root).2 .refl) (hstates ▸ List.not_mem_nil)
    | cons first later =>
      have hfirst : chart.Due [] first := due_of_states_eq hstates
      rcases hfirst with ⟨-, rfl⟩ | ⟨_, hnone, _⟩
      · rfl
      · cases hnone
  · intro earlier state later hstates hroot
    exact (due_of_states_eq hstates).resolve_left fun hfirst => hroot hfirst.2

/-- A chart whose lists lead back to the root, name states twice and share them, name one that has no
list, and have one list that the root does not lead to. -/
def tangle : Statechart where
  root := "A"
  children := .ofList [("A", ["B", "B", "C", "A"]), ("B", ["C", "A"]), ("C", ["D", "B"]),
    ("E", ["A", "F"])]
  concurrent := []
  transitions := []

/-- The walk through the tangle ends at four states, and the third comes after one that lists it. -/
theorem turns_end_at_states_tangle :
    ReflTransGen tangle.Turn (["A"], []) ([], ["D", "C", "B", "A"]) ∧ ¬tangle.Reaches "E" ∧
      ∃ parent ∈ ["A", "B"], tangle.Child parent "C" := by
  have hstates : tangle.states = ["A", "B", "C", "D"] := by decide +kernel
  obtain ⟨-, hturns, -, -, hmem, horder⟩ := turns_end_at_states tangle
  refine ⟨(hturns _).2 hstates.symm, fun hreaches => ?_, ?_⟩
  · have hlisted := (hmem "E").2 hreaches
    rw [hstates] at hlisted
    revert hlisted
    decide
  · exact horder ["A", "B"] "C" ["D"] hstates (by decide)

end StateExplorer.Statechart
