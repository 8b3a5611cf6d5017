import StateExplorer.Proofs.Store.Recording

/-!
# Writes to a store

A store is written to in three ways: it is started afresh with a chain, a chain is added to it, or a
route is recorded. The index of a store that was only written to lists, under each fingerprint, the
numbers of the states that have it, so it follows from the states alone. A write that is refused
leaves the store as it was, but for one: starting afresh with no state drops all states first and is
refused then.
-/

namespace StateExplorer

namespace ContentIndex

/-- Nothing is noted in an index without entries. -/
@[simp] theorem numbers_nil (print : Fingerprint) : numbers [] print = [] := rfl

/-- The first entry of a fingerprint counts. -/
theorem numbers_cons (p : Fingerprint) (ids : List Nat) (rest : ContentIndex)
    (print : Fingerprint) :
    numbers ((p, ids) :: rest) print = if print = p then ids else rest.numbers print := by
  by_cases hp : print = p
  · simp [numbers, hp]
  · simp [numbers, List.lookup_cons, beq_false_of_ne hp, hp]

/-- A number is noted under its fingerprint, after those that were noted there before. -/
theorem numbers_note (index : ContentIndex) (print : Fingerprint) (id : Nat)
    (other : Fingerprint) :
    (index.note print id).numbers other =
      if other = print then index.numbers print ++ [id] else index.numbers other := by
  induction index with
  | nil => simp [note, numbers_cons]
  | cons entry rest ih =>
    obtain ⟨p, ids⟩ := entry
    by_cases hp : p = print
    · subst hp
      by_cases hother : other = p <;> simp [note, numbers_cons, hother]
    · have hprint : ¬print = p := Ne.symm hp
      by_cases hother : other = p
      · subst hother
        simp [note, numbers_cons, hp]
      · simp [note, numbers_cons, hp, hother, hprint, ih]

end ContentIndex

namespace Store

variable {store : Store} {parent : Option Nat} {state : State} {chain : List State}

/-! ### What the index should list -/

/-- The numbers of the states with a fingerprint, in the order of the numbers. -/
def numbersOf (store : Store) (print : Fingerprint) : List Nat :=
  ((store.states.zipIdx 1).filter fun entry => entry.1.fingerprint = print).map Prod.snd

/-- A number is listed under the fingerprint of its state. -/
theorem mem_numbersOf_iff {print : Fingerprint} {id : Nat} :
    id ∈ store.numbersOf print ↔
      ∃ node, store.node? id = some node ∧ node.state.fingerprint = print := by
  simp only [numbersOf, List.mem_map, List.mem_filter, decide_eq_true_eq, Prod.exists,
    exists_eq_right, List.mk_mem_zipIdx_iff_le_and_getElem?_sub]
  constructor
  · intro h
    obtain ⟨state, ⟨hid, hstate⟩, rfl⟩ := h
    obtain ⟨node, hnode, rfl⟩ := exists_node?_of_states hid hstate
    exact ⟨node, hnode, rfl⟩
  · intro h
    obtain ⟨node, hnode, rfl⟩ := h
    exact ⟨node.state, ⟨(has_of_node? hnode).1, states_getElem?_of_node? hnode⟩, rfl⟩

/-- The numbers under a fingerprint ascend strictly. -/
theorem numbersOf_strict (store : Store) (print : Fingerprint) :
    (store.numbersOf print).Pairwise (· < ·) := by
  have hall : ((store.states.zipIdx 1).map Prod.snd).Pairwise (· < ·) := by
    rw [List.zipIdx_map_snd]
    exact List.pairwise_lt_range'
  exact hall.sublist (List.filter_sublist.map _)

/-- A new state comes last under its fingerprint. -/
theorem numbersOf_push (store : Store) (parent : Option Nat) (state : State)
    (print : Fingerprint) :
    (store.push parent state).numbersOf print =
      if state.fingerprint = print then store.numbersOf print ++ [store.size + 1]
      else store.numbersOf print := by
  simp only [numbersOf, states_push, List.zipIdx_append, List.filter_append, List.map_append,
    length_states]
  by_cases hprint : state.fingerprint = print <;> simp [hprint, Nat.add_comm]

/-- Whether the index of a store lists what it should, and nothing under fingerprints that no state
has. -/
structure Indexed (store : Store) : Prop where
  numbers : ∀ print, store.index.numbers print = store.numbersOf print
  noted : ∀ entry ∈ store.index, entry.2 ≠ []

/-- Nothing is stored and nothing is listed in an empty store. -/
theorem indexed_empty (transitionField : Option String) : (empty transitionField).Indexed where
  numbers _ := rfl
  noted := List.forall_mem_nil _

/-- A new state is listed. -/
theorem Indexed.push (h : store.Indexed) (parent : Option Nat) (state : State) :
    (store.push parent state).Indexed where
  numbers print := by
    rw [numbersOf_push, ← h.numbers print]
    change (store.index.note state.fingerprint (store.size + 1)).numbers print = _
    rw [ContentIndex.numbers_note]
    by_cases hprint : print = state.fingerprint
    · subst hprint
      simp
    · simp [hprint, Ne.symm hprint]
  noted := by
    change ∀ entry ∈ store.index.note state.fingerprint (store.size + 1), entry.2 ≠ []
    have hnoted := h.noted
    generalize store.index = index at hnoted
    induction index with
    | nil => simp [ContentIndex.note]
    | cons entry rest ih =>
      rw [List.forall_mem_cons] at hnoted
      simp only [ContentIndex.note]
      split
      · simp only [List.forall_mem_cons]
        exact ⟨by simp, hnoted.2⟩
      · simp only [List.forall_mem_cons]
        exact ⟨hnoted.1, ih hnoted.2⟩

/-- The states of a chain are listed. -/
theorem Indexed.grow (h : store.Indexed) (parent : Option Nat) (chain : List State) :
    (store.grow parent chain).Indexed := by
  induction chain generalizing store parent with
  | nil => exact h
  | cons state rest ih => exact ih (h.push parent state) _

/-- A route changes nothing that is listed. -/
theorem Indexed.recordRoute (h : store.Indexed) (id : Nat) (route : List Nat) :
    (store.recordRoute id route).2.Indexed := by
  have hindex : (store.recordRoute id route).2.index = store.index := by
    unfold Store.recordRoute
    split
    · rfl
    · split <;> rfl
  have hstates := (alike_recordRoute store id route).states
  constructor
  · intro print
    rw [hindex, h.numbers print, numbersOf, numbersOf, hstates]
  · rw [hindex]
    exact h.noted

/-- A store without states that lists what it should is empty. -/
theorem Indexed.eq_empty (h : store.Indexed) (hsize : store.size = 0) :
    store = empty store.transitionField := by
  have hnodes : store.nodes = [] := List.length_eq_zero_iff.1 hsize
  have hindex : store.index = [] := by
    cases hentries : store.index with
    | nil => rfl
    | cons entry rest =>
      obtain ⟨print, ids⟩ := entry
      have hnumbers := h.numbers print
      rw [hentries, ContentIndex.numbers_cons, if_pos rfl] at hnumbers
      have hnone : ids = [] := by simp [hnumbers, numbersOf, states, hnodes]
      exact absurd hnone (h.noted (print, ids) (hentries ▸ List.mem_cons_self))
  obtain ⟨nodes, index, transitionField⟩ := store
  simp only [empty, mk.injEq]
  exact ⟨hnodes, hindex, trivial⟩

/-! ### Writes -/

/-- A write: to start afresh with a chain, to add a chain below a state or as a new root, or to
record a route. -/
inductive Write
  | start (chain : List State)
  | add (parent : Option Nat) (chain : List State)
  | record (id : Nat) (route : List Nat)
deriving DecidableEq

/-- What a write answers: the numbers of the new states, or whether the route is new. -/
inductive Answer
  | numbers (ids : List Nat)
  | recorded (fresh : Bool)
deriving DecidableEq

/-- Carries out a write. -/
def write (store : Store) : Write → Except StoreError Answer × Store
  | .start chain => ((store.startWith chain).1.map .numbers, (store.startWith chain).2)
  | .add parent chain => ((store.addChain parent chain).1.map .numbers, (store.addChain parent chain).2)
  | .record id route => ((store.recordRoute id route).1.map .recorded, (store.recordRoute id route).2)

/-- The store after some writes, of which some may have been refused. -/
def writeAll (store : Store) (writes : List Write) : Store :=
  writes.foldl (fun store w => (store.write w).2) store

/-- What a write comes to. -/
inductive Wrote (store : Store) : Write → Except StoreError Answer × Store → Prop
  | started {chain : List State} (hchain : chain ≠ []) :
      Wrote store (.start chain) (.ok (.numbers (List.range' 1 chain.length)),
        (empty store.transitionField).grow none chain)
  | cleared : Wrote store (.start []) (.error .emptyChain, empty store.transitionField)
  | added {parent : Option Nat} {chain : List State} (hchain : chain ≠ [])
      (hparent : ∀ p ∈ parent, store.Has p) :
      Wrote store (.add parent chain)
        (.ok (.numbers (List.range' (store.size + 1) chain.length)), store.grow parent chain)
  | nothing {parent : Option Nat} : Wrote store (.add parent []) (.error .emptyChain, store)
  | orphaned {p : Nat} {chain : List State} (hchain : chain ≠ []) (hp : ¬store.Has p) :
      Wrote store (.add (some p) chain) (.error (.unknownNode p), store)
  | recorded {id : Nat} {route : List Nat} {fresh : Bool} (hid : store.Has id)
      (hfresh : (store.recordRoute id route).1 = .ok fresh) :
      Wrote store (.record id route) (.ok (.recorded fresh), (store.recordRoute id route).2)
  | unknown {id : Nat} {route : List Nat} (hid : ¬store.Has id) :
      Wrote store (.record id route) (.error (.unknownNode id), store)

/-- Every write comes to one of these. -/
theorem wrote_write (store : Store) (w : Write) : store.Wrote w (store.write w) := by
  cases w with
  | start chain =>
    by_cases hchain : chain = []
    · subst hchain
      exact .cleared
    · have hadd : (empty store.transitionField).addChain none chain =
          (.ok (List.range' 1 chain.length), (empty store.transitionField).grow none chain) :=
        addChain_eq_ok nofun hchain
      rw [write, startWith, hadd]
      exact .started hchain
  | add parent chain =>
    by_cases hchain : chain = []
    · subst hchain
      exact .nothing
    · by_cases hparent : ∀ p ∈ parent, store.Has p
      · rw [write, addChain_eq_ok hparent hchain]
        exact .added hchain hparent
      · simp only [not_forall] at hparent
        obtain ⟨p, hp, hnot⟩ := hparent
        obtain rfl : parent = some p := hp
        have hadd : store.addChain (some p) chain = (.error (.unknownNode p), store) := by
          simp [addChain, hchain, node_eq_error hnot]
        rw [write, hadd]
        exact .orphaned hchain hnot
  | record id route =>
    by_cases hid : store.Has id
    · obtain ⟨fresh, hfresh⟩ := recordRoute_eq_ok hid route
      rw [write, hfresh]
      exact .recorded hid hfresh
    · have hrecord : store.recordRoute id route = (.error (.unknownNode id), store) := by
        simp [recordRoute, node_eq_error hid]
      rw [write, hrecord]
      exact .unknown hid

/-- A write leaves the index right and the field that labels come from. -/
theorem Indexed.wrote (h : store.Indexed) {w : Write} {outcome : Except StoreError Answer × Store}
    (hwrote : store.Wrote w outcome) :
    outcome.2.Indexed ∧ outcome.2.transitionField = store.transitionField := by
  cases hwrote with
  | started hchain => exact ⟨(indexed_empty _).grow none _, transitionField_grow _ _ _⟩
  | cleared => exact ⟨indexed_empty _, rfl⟩
  | added hchain hparent => exact ⟨h.grow _ _, transitionField_grow _ _ _⟩
  | nothing => exact ⟨h, rfl⟩
  | orphaned hchain hp => exact ⟨h, rfl⟩
  | recorded hid hfresh =>
    exact ⟨h.recordRoute _ _, (alike_recordRoute store _ _).transitionField⟩
  | unknown hid => exact ⟨h, rfl⟩

/-- Writes leave the index right and the field that labels come from. -/
theorem Indexed.writeAll (h : store.Indexed) (writes : List Write) :
    (store.writeAll writes).Indexed ∧
      (store.writeAll writes).transitionField = store.transitionField := by
  induction writes generalizing store with
  | nil => exact ⟨h, rfl⟩
  | cons w rest ih =>
    obtain ⟨hindexed, hfield⟩ := h.wrote (wrote_write store w)
    obtain ⟨hrest, hrestField⟩ := ih hindexed
    exact ⟨hrest, hrestField.trans hfield⟩

/-- A write that is refused, after any writes to an empty store, leaves the store as it was unless it
is to start afresh with no state while there are some. What is left then has no states. -/
theorem write_refused_unchanged (transitionField : Option String) (writes : List Write) (w : Write)
    {e : StoreError} (h : (((empty transitionField).writeAll writes).write w).1 = .error e) :
    ((((empty transitionField).writeAll writes).write w).2 = (empty transitionField).writeAll writes ↔
      (w = .start [] → ((empty transitionField).writeAll writes).size = 0)) ∧
    (w = .start [] → e = .emptyChain ∧
      (((empty transitionField).writeAll writes).write w).2 = empty transitionField) := by
  obtain ⟨hindexed, hfield⟩ := (indexed_empty transitionField).writeAll writes
  have hwrote := wrote_write ((empty transitionField).writeAll writes) w
  generalize (empty transitionField).writeAll writes = store at *
  generalize store.write w = outcome at *
  cases hwrote with
  | started hchain => cases h
  | added hchain hparent => cases h
  | recorded hid hfresh => cases h
  | cleared =>
    have hempty : empty store.transitionField = empty transitionField := by rw [hfield]; rfl
    refine ⟨⟨?_, ?_⟩, fun _ => ⟨(Except.error.inj h).symm, hempty⟩⟩
    · intro hsame _
      rw [← hsame]
      rfl
    · intro hsize
      exact (hindexed.eq_empty (hsize rfl)).symm
  | nothing => simp
  | orphaned hchain hp => simp
  | unknown hid => simp

/-- A lamp that shows a colour. -/
def lamp (colour : String) : State :=
  .ofFields (.ofList [("lamp", [colour])])

/-- A red and a green lamp are stored, and the green one has a route. -/
def lampWrites : List Write :=
  [.start [lamp "Red", lamp "Green"], .record 2 [1, 2], .record 2 [2]]

/-- A third lamp below a number that is not in use is refused, and nothing changes. -/
theorem write_refused_unchanged_lamp :
    (((empty none).writeAll lampWrites).write (.add (some 3) [lamp "Red"])).1 =
        .error (.unknownNode 3) ∧
      (((empty none).writeAll lampWrites).write (.add (some 3) [lamp "Red"])).2 =
        (empty none).writeAll lampWrites := by
  have hrefused : (((empty none).writeAll lampWrites).write (.add (some 3) [lamp "Red"])).1 =
      .error (.unknownNode 3) := rfl
  exact ⟨hrefused, (write_refused_unchanged none lampWrites _ hrefused).1.2 nofun⟩

/-- To start afresh with no state is refused as well, but the two lamps are gone. -/
theorem not_unchanged_cleared :
    (((empty none).writeAll lampWrites).write (.start [])).1 = .error .emptyChain ∧
      ((empty none).writeAll lampWrites).size = 2 ∧
      (((empty none).writeAll lampWrites).write (.start [])).2 = empty none ∧
      (((empty none).writeAll lampWrites).write (.start [])).2 ≠
        (empty none).writeAll lampWrites := by
  have hsize : ((empty none).writeAll lampWrites).size = 2 := rfl
  refine ⟨rfl, hsize, rfl, ?_⟩
  intro hsame
  have hzero : ((empty none).writeAll lampWrites).size = 0 := by
    rw [← hsame]
    rfl
  rw [hsize] at hzero
  cases hzero

end Store

end StateExplorer
