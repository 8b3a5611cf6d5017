import StateExplorer.Proofs.Session.Forest
import StateExplorer.Proofs.Solution.Roundtrip
import StateExplorer.Proofs.System.Chains

/-!
# Browsing alternatives

Alternatives are browsed like a bounded list: the solutions on show are the first instances of one
document, and the provisional tail of the walk is what the last of them tells. From there one can
move on as long as there is another instance, and back as long as there is one before. Nothing can
fail on the way, since an instance that a solver over a transition system wrote is always decoded,
and the place where its chain is attached is the same for all instances.
-/

namespace StateExplorer

/-- The states of a chain that are shown in place of a tail: those after the first one, or the first
one itself where it is the only one. -/
def shownOf : List State → List State
  | [only] => [only]
  | chain => chain.tail

/-- How many states of a chain are shown depends on its length alone. -/
theorem length_shownOf (chain : List State) :
    (shownOf chain).length = if chain.length = 1 then 1 else chain.length - 1 := by
  match chain with
  | [] => rfl
  | [_] => rfl
  | _ :: _ :: _ => simp [shownOf]

/-! ### The tail of a walk -/

namespace Walk

/-- The provisional stops. -/
def tail (walk : Walk) : List Stop :=
  walk.stops.drop (walk.stops.length - walk.provisional)

/-- The committed stops and the provisional ones are all stops. -/
theorem rollback_append_tail (walk : Walk) : walk.rollback.stops ++ walk.tail = walk.stops := by
  rw [stops_rollback, tail, List.take_append_drop]

/-- After an extension the new stops are provisional, and the others are committed. -/
theorem rollback_extend (walk : Walk) {shown : List Stop} (h : shown ≠ []) :
    (walk.extend shown).rollback.stops = walk.rollback.stops ∧ (walk.extend shown).tail = shown := by
  have hlength : (walk.rollback.stops ++ shown).length - shown.length =
      walk.rollback.stops.length := by
    rw [List.length_append, Nat.add_sub_cancel]
  rw [extend_eq walk h, stops_rollback, tail]
  simp only [hlength, List.take_left, List.drop_left, and_self]

end Walk

/-- Stops that are numbered in the order in which their states are stored show these states. -/
theorem Store.map_state_of_shows {store : Store} {shown : List Stop} (before : List State)
    {chain : List State}
    (hstates : store.states = before ++ chain)
    (hids : shown.map (·.id) = List.range' (before.length + 1) chain.length)
    (hshows : ∀ stop ∈ shown, store.Shows stop) : shown.map (·.state) = chain := by
  have hlength : shown.length = chain.length := by simpa using congrArg List.length hids
  refine List.ext_getElem (by simpa using hlength) fun k hk hchain => ?_
  rw [List.length_map] at hk
  have hid : shown[k].id = before.length + 1 + k := by
    have hget := congrArg (·[k]?) hids
    simpa [hk, hchain] using hget
  have hstate := (hshows _ (List.getElem_mem hk)).2
  rw [hstates, hid, show before.length + 1 + k - 1 = before.length + k by omega,
    List.getElem?_append_right (by omega), Nat.add_sub_cancel_left,
    List.getElem?_eq_getElem hchain] at hstate
  rw [List.getElem_map]
  exact (Option.some.inj hstate).symm

namespace Exploration

variable {solver : ExplicitSolver} {profile : Profile} {x y : Exploration}

/-- A chain that is attached is shown under fresh numbers in place of the tail. -/
theorem Attaches.tail_eq {parent : Option Nat} {chain : List State} {kept : Walk}
    {alternatives : Alternatives} (h : x.Attaches parent chain kept alternatives y) :
    y.walk.rollback.stops = kept.rollback.stops ∧
      y.walk.tail.map (·.id) = List.range' (x.store.size + 1) chain.length ∧
      y.walk.tail.map (·.state) = chain ∧ y.alternatives = alternatives ∧
      y.ownVocabulary = x.ownVocabulary := by
  obtain ⟨-, hchain, hstops⟩ := h
  rename_i shown
  obtain ⟨hids, hshows⟩ := Store.of_stops_eq_ok hstops
  have hne : shown ≠ [] := by
    rintro rfl
    exact hchain (List.length_eq_zero_iff.1 (by simpa using congrArg List.length hids.symm))
  obtain ⟨hkept, htail⟩ := kept.rollback_extend hne
  refine ⟨hkept, ?_, ?_, rfl, rfl⟩
  · exact (congrArg (List.map (·.id)) htail).trans hids
  · refine (congrArg (List.map (·.state)) htail).trans ?_
    refine Store.map_state_of_shows _ (Store.states_grow x.store parent chain) ?_ hshows
    rw [Store.length_states]
    exact hids

end Exploration

/-! ### Moving among the instances of a document -/

/-- Whether one can move on, or back, from the first so many instances of a document. -/
def canTurn (count depth : Nat) (reverse : Bool) : Bool :=
  if reverse then 2 ≤ depth else depth < count

/-- How many instances are on show after moving on, or back. -/
def turn (depth : Nat) (reverse : Bool) : Nat :=
  if reverse then depth - 1 else depth + 1

/-- How many instances are on show after several tries to move on or back, where a try that cannot
succeed is left out. -/
def turns (count depth : Nat) (reverses : List Bool) : Nat :=
  reverses.foldl (fun depth reverse => if canTurn count depth reverse then turn depth reverse else depth)
    depth

namespace Alternatives

/-- The first instances of a document, in the order in which they are shown. -/
def firsts (document : Document) (depth : Nat) : Alternatives :=
  ⟨(List.range depth).reverse.map (⟨document, ·⟩)⟩

/-- So many instances are on show. -/
@[simp] theorem depth_firsts (document : Document) (depth : Nat) :
    (firsts document depth).depth = depth := by
  simp [firsts, Alternatives.depth]

/-- The last instance is on top. -/
theorem firsts_succ (document : Document) (depth : Nat) :
    firsts document (depth + 1) = (firsts document depth).push ⟨document, depth⟩ := by
  simp [firsts, push, List.range_succ]

/-- The instance that is chosen is the last one of those that are shown then. -/
theorem chosen_firsts (document : Document) {depth : Nat} (h : 0 < depth) (reverse : Bool) :
    Explore.chosen (firsts document depth) reverse =
      if canTurn document.instances.length depth reverse then
        .ok ⟨document, turn depth reverse - 1⟩
      else .error (if reverse then .previous else .next) := by
  obtain ⟨depth, rfl⟩ : ∃ d, depth = d + 1 := ⟨depth - 1, by omega⟩
  cases reverse with
  | false =>
    rw [firsts_succ]
    by_cases hnext : depth + 1 < document.instances.length
    · simp [Explore.chosen, push, top?, Solution.next?, canTurn, turn, hnext]
    · simp [Explore.chosen, push, top?, Solution.next?, canTurn, hnext]
  | true =>
    cases depth with
    | zero => rfl
    | succ depth =>
      rw [firsts_succ, firsts_succ]
      simp [Explore.chosen, push, previous?, canTurn, turn]

/-- Once it is shown, the alternatives are the first instances up to it. -/
theorem turned_firsts {document : Document} {depth : Nat} {reverse : Bool}
    (h : canTurn document.instances.length depth reverse = true) :
    Explore.turned ⟨document, turn depth reverse - 1⟩ reverse (firsts document depth) =
      .ok (firsts document (turn depth reverse)) := by
  cases reverse with
  | false =>
    simp [Explore.turned, turn, firsts_succ]
  | true =>
    obtain ⟨depth, rfl⟩ : ∃ d, depth = d + 2 := ⟨depth - 2, by simp [canTurn] at h; omega⟩
    rw [firsts_succ, firsts_succ]
    simp [Explore.turned, turn, push, pop?, firsts_succ]

end Alternatives

/-- The chain of a solution is decoded under the vocabulary in effect, and nothing changes. -/
theorem Explore.run_chainOf {σ : Type} {x : Exploration} {profile : Profile} {solution : Solution}
    {schema : Schema} {chain : List State}
    (h : solution.chain (x.vocabulary profile.settings).stateSig = .ok (schema, chain)) (s : σ) :
    (chainOf profile solution).run x s = (.ok chain, x, s) := by
  rw [chainOf, Op.run_get_bind]
  simp only [h, Op.run_ofExcept]
  rfl

/-- A chosen solution is shown, if its chain has a state, and a stored one to be attached under where
it has more than one. -/
theorem Explore.exists_run_alternate {σ : Type} {x : Exploration} {profile : Profile}
    {reverse : Bool} {solution : Solution} {alternatives : Alternatives} {schema : Schema}
    {chain : List State} (hready : x.walk.stops ≠ [])
    (hchosen : chosen x.alternatives reverse = .ok solution)
    (hturned : turned solution reverse x.alternatives = .ok alternatives)
    (hchain : solution.chain (x.vocabulary profile.settings).stateSig = .ok (schema, chain))
    (hne : chain ≠ [])
    (hanchor : 1 < chain.length → ∃ anchor, anchor? x.walk = some anchor ∧ x.store.Has anchor.id)
    (s : σ) : ∃ y, (alternate reverse profile).run x s = (.ok (), y, s) := by
  have hstops : x.walk.stops.isEmpty = false := by simpa using hready
  rw [alternate, Op.run_bind, requireReady, Op.run_get_bind, Op.run_require, hstops]
  simp only [Bool.not_false, if_true, Op.run_get_bind]
  rw [Op.run_bind, hchosen, Op.run_ofExcept]
  simp only [Except.mapError]
  rw [Op.run_bind, run_chainOf hchain]
  match chain with
  | [only] =>
    have hroot : ∀ p ∈ (none : Option Nat), x.store.Has p := by simp
    obtain ⟨shown, -, hattach⟩ := run_attach Walk.rollback _ hroot hne hturned s
    exact ⟨_, hattach⟩
  | first :: second :: rest =>
    obtain ⟨anchor, hanchor, hhas⟩ := hanchor (by simp)
    have hparent : ∀ p ∈ some anchor.id, x.store.Has p := by simpa using hhas
    obtain ⟨shown, -, hattach⟩ := run_attach Walk.rollback _ hparent
      (List.cons_ne_nil second rest) hturned s
    simp only [Op.run_get_bind]
    rw [Op.run_bind, hanchor, Op.run_ofOption]
    exact ⟨_, hattach⟩

/-- The instances of an answer are decoded as chains of one length, if no arrow is in the state
signature. -/
theorem ExplicitSolver.exists_chain (solver : ExplicitSolver)
    (hsig : ¬Tuple.arrow <:+: solver.vocabulary.stateSig.toList) {problem : Problem}
    (hbound : problem.bound < Text.maxWord) {index : Nat}
    (hindex : index < (solver.answer problem).instances.length) :
    ∃ chain, (⟨solver.answer problem, index⟩ : Solution).chain solver.vocabulary.stateSig =
      .ok (solver.system.fields, chain) ∧ chain.length = problem.bound + 1 := by
  have hchains : index < (solver.chains problem).length := by
    simpa [answer] using hindex
  have hviews := List.getElem?_eq_getElem hchains
  have hlength : (solver.chains problem)[index].length = problem.bound + 1 :=
    Problem.length_of_mem_chains (List.getElem_mem hchains)
  have htells := tells_of_getElem? (s := ⟨solver.answer problem, index⟩) rfl hviews
  obtain ⟨chain, hchain⟩ := htells.exists_chain hsig rfl (by omega)
  exact ⟨chain, hchain, (htells.copies hsig hchain).2.1.trans hlength⟩

/-! ### What is on show -/

namespace Exploration

variable {solver : ExplicitSolver} {profile : Profile} {x y : Exploration} {sig : String}
  {document : Document} {reverse : Bool}

/-- Whether the alternatives are the first instances of a document, and the tail of the walk shows
the chain of the last one of them. -/
structure Presents (sig : String) (document : Document) (x : Exploration) : Prop where
  alternatives_eq : x.alternatives = .firsts document x.alternatives.depth
  tail_eq : ∃ schema chain,
    (⟨document, x.alternatives.depth - 1⟩ : Solution).chain sig = .ok (schema, chain) ∧
      x.walk.tail.map (·.state) = shownOf chain

/-- The tail is told by the document and the number of instances on show. -/
theorem Presents.tail_unique {other : String} (h : x.Presents sig document)
    (h' : y.Presents other document) (hdepth : x.alternatives.depth = y.alternatives.depth) :
    x.walk.tail.map (·.state) = y.walk.tail.map (·.state) := by
  obtain ⟨schema, chain, hchain, hstates⟩ := h.tail_eq
  obtain ⟨schema', chain', hchain', hstates'⟩ := h'.tail_eq
  have hsig : sig = other :=
    (Solution.of_chain_eq_ok hchain).1.symm.trans (Solution.of_chain_eq_ok hchain').1
  rw [hdepth, hsig, hchain'] at hchain
  obtain ⟨-, rfl⟩ := Prod.mk.inj (Except.ok.inj hchain)
  exact hstates.trans hstates'.symm

/-- What is chosen next is the last instance that is shown then. -/
theorem Presents.chosen_eq (h : x.Presents sig document) (hdepth : 0 < x.alternatives.depth)
    (reverse : Bool) : Explore.chosen x.alternatives reverse =
      if canTurn document.instances.length x.alternatives.depth reverse then
        .ok ⟨document, turn x.alternatives.depth reverse - 1⟩
      else .error (if reverse then .previous else .next) := by
  have hchosen := Alternatives.chosen_firsts document hdepth reverse
  rwa [← h.alternatives_eq] at hchosen

/-- Where one can move to, the alternatives are the first instances again. -/
theorem Presents.turned_eq (h : x.Presents sig document)
    (hcan : canTurn document.instances.length x.alternatives.depth reverse = true) :
    Explore.turned ⟨document, turn x.alternatives.depth reverse - 1⟩ reverse x.alternatives =
      .ok (.firsts document (turn x.alternatives.depth reverse)) := by
  have hturned := Alternatives.turned_firsts hcan
  rwa [← h.alternatives_eq] at hturned

/-- Whether one exploration comes from another by moving among alternatives: the tail alone is
replaced, by another one of the same length under fresh numbers. -/
structure TurnsTo (reverse : Bool) (x y : Exploration) : Prop where
  depth : y.alternatives.depth = turn x.alternatives.depth reverse
  committed : y.walk.rollback.stops = x.walk.rollback.stops
  length : y.walk.stops.length = x.walk.stops.length
  fresh : y.walk.tail.map (·.id) = List.range' (x.store.size + 1) y.walk.tail.length

/-- Whether what is on show can be browsed: it answers a problem, and the tail has committed stops
before it exactly if the chains have more than one state. -/
structure Browsable (solver : ExplicitSolver) (sig : String) (document : Document)
    (x : Exploration) : Prop extends Presents sig document x where
  answers : ∃ problem, document = solver.answer problem ∧ problem.bound < Text.maxWord ∧
    (problem.bound = 0 ↔ x.walk.rollback.stops = [])

/-- The chains of the instances of one answer show equally many states. -/
theorem Browsable.length_shownOf (h : x.Browsable solver sig document) {index other : Nat}
    {schema schema' : Schema} {chain chain' : List State}
    (hchain : (⟨document, index⟩ : Solution).chain sig = .ok (schema, chain))
    (hchain' : (⟨document, other⟩ : Solution).chain sig = .ok (schema', chain')) :
    (shownOf chain).length = (shownOf chain').length := by
  obtain ⟨problem, rfl, -, -⟩ := h.answers
  have huniform := solver.uniform_answer problem
  rw [StateExplorer.length_shownOf, StateExplorer.length_shownOf,
    Solution.length_of_chain huniform hchain, Solution.length_of_chain huniform hchain']

/-- Whatever alternative is shown can be browsed on, and lies where one could move to. -/
theorem Browsable.alternated (h : x.Browsable solver (x.vocabulary profile.settings).stateSig document)
    (hdepth : 0 < x.alternatives.depth) (halternated : x.Alternated profile reverse y) :
    y.Browsable solver (y.vocabulary profile.settings).stateSig document ∧
      canTurn document.instances.length x.alternatives.depth reverse = true ∧
      x.TurnsTo reverse y ∧ y.ownVocabulary = x.ownVocabulary := by
  have hrollback : x.walk.rollback.rollback.stops = x.walk.rollback.stops :=
    Walk.stops_rollback_rollback x.walk
  have hshown {solution : Solution} {alternatives : Alternatives} {parent : Option Nat}
      {schema : Schema} {chain : List State}
      (hchosen : Explore.chosen x.alternatives reverse = .ok solution)
      (hturned : Explore.turned solution reverse x.alternatives = .ok alternatives)
      (hchain : solution.chain (x.vocabulary profile.settings).stateSig = .ok (schema, chain))
      (hattaches : x.Attaches parent (shownOf chain) x.walk.rollback alternatives y) :
      y.Browsable solver (y.vocabulary profile.settings).stateSig document ∧
        canTurn document.instances.length x.alternatives.depth reverse = true ∧
        x.TurnsTo reverse y ∧ y.ownVocabulary = x.ownVocabulary := by
    obtain ⟨hkept, hids, hstates, halternatives, hown⟩ := hattaches.tail_eq
    rw [hrollback] at hkept
    rw [h.chosen_eq hdepth] at hchosen
    split at hchosen
    · rename_i hcan
      obtain rfl := Except.ok.inj hchosen
      rw [h.turned_eq hcan] at hturned
      rw [← Except.ok.inj hturned] at halternatives
      have hturn : y.alternatives.depth = turn x.alternatives.depth reverse := by
        rw [halternatives, Alternatives.depth_firsts]
      have hsame : y.vocabulary profile.settings = x.vocabulary profile.settings := by
        rw [vocabulary, hown, vocabulary]
      have hlength : y.walk.tail.length = (shownOf chain).length := by
        rw [← hstates, List.length_map]
      refine ⟨⟨⟨by rw [hturn]; exact halternatives, schema, chain, ?_, hstates⟩, ?_⟩, hcan,
        ⟨hturn, hkept, ?_, by rw [hids, hlength]⟩, hown⟩
      · rw [hturn, hsame]
        exact hchain
      · rw [hkept]
        exact h.answers
      · obtain ⟨schema', chain', hchain', hstates'⟩ := h.tail_eq
        have hold : x.walk.tail.length = (shownOf chain').length := by
          rw [← hstates', List.length_map]
        rw [← y.walk.rollback_append_tail, ← x.walk.rollback_append_tail, List.length_append,
          List.length_append, hkept, hlength, hold, h.length_shownOf hchain hchain']
    · cases hchosen
  cases halternated with
  | root _ hchosen hturned hchain hattaches => exact hshown hchosen hturned hchain hattaches
  | tail _ hchosen hturned hchain _ hattaches => exact hshown hchosen hturned hchain hattaches

/-- Where one can move to, an alternative is shown. -/
theorem Browsable.run_alternate {σ : Type} (hstructured : x.Structured)
    (h : x.Browsable solver (x.vocabulary profile.settings).stateSig document)
    (hsig : ¬Tuple.arrow <:+: solver.vocabulary.stateSig.toList)
    (hdepth : 0 < x.alternatives.depth) (hready : x.walk.stops ≠ [])
    (hcan : canTurn document.instances.length x.alternatives.depth reverse = true) (s : σ) :
    ∃ y, (Explore.alternate reverse profile).run x s = (.ok (), y, s) := by
  obtain ⟨schema, chain, hchain, -⟩ := h.tail_eq
  obtain ⟨problem, rfl, hbound, hcommitted⟩ := h.answers
  obtain ⟨hsame, -, i, hi, -⟩ := Solution.of_chain_eq_ok hchain
  have hindex : turn x.alternatives.depth reverse - 1 <
      (solver.answer problem).instances.length := by
    have hlast := (List.getElem?_eq_some_iff.1 hi).1
    dsimp only at hlast
    cases reverse with
    | false => simpa [canTurn, turn] using hcan
    | true =>
      simp only [turn, if_true]
      omega
  obtain ⟨next, hnext, hlength⟩ := solver.exists_chain hsig hbound hindex
  rw [show solver.vocabulary.stateSig = (x.vocabulary profile.settings).stateSig from hsame]
    at hnext
  refine Explore.exists_run_alternate hready ((h.chosen_eq hdepth reverse).trans (if_pos hcan))
    (h.turned_eq hcan) hnext (by rintro rfl; cases hlength) (fun hmany => ?_) s
  have hkept : x.walk.rollback.stops ≠ [] := by
    rw [Ne, ← hcommitted]
    omega
  obtain ⟨anchor, hanchor⟩ := Option.isSome_iff_exists.1 (List.getLast?_isSome.2 hkept)
  have hmem : anchor ∈ x.walk.rollback.stops := List.mem_of_getLast? hanchor
  rw [Walk.stops_rollback] at hmem
  refine ⟨anchor, (anchor?_eq_getLast? x.walk).trans hanchor, ?_⟩
  exact (hstructured.walk.resolve_left hready).has hstructured.shaped _
    (List.mem_map_of_mem (List.mem_of_mem_take hmem))

/-- Where one cannot move to, nothing is shown. -/
theorem Presents.run_alternate {σ : Type} (h : x.Presents sig document) (profile : Profile)
    (hdepth : 0 < x.alternatives.depth)
    (hcan : ¬canTurn document.instances.length x.alternatives.depth reverse = true) (s : σ) :
    ∃ e, (Explore.alternate reverse profile).run x s = (.error e, x, s) := by
  have hchosen := h.chosen_eq hdepth reverse
  rw [if_neg hcan] at hchosen
  rw [Explore.alternate, Op.run_bind, Explore.requireReady, Op.run_get_bind, Op.run_require]
  cases x.walk.stops.isEmpty with
  | true => exact ⟨_, rfl⟩
  | false =>
    simp only [Bool.not_false, if_true, Op.run_get_bind]
    rw [Op.run_bind, hchosen, Op.run_ofExcept]
    exact ⟨_, rfl⟩

end Exploration

end StateExplorer
