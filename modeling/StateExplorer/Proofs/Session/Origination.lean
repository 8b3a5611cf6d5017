import StateExplorer.Proofs.Session.Replay
import StateExplorer.Proofs.Session.Soundness
import StateExplorer.Proofs.System.Offering

/-!
# Where walks begin

Every walk begins at a state that no stored step leads to. Such a state was told by an instance of
the answer to the initial query, and where tuples carry what the model starts with, it is the state
of an origin as it was written. Every change keeps that: a chain of one state is stored as a root
only by browsing the initial states, and everything else is attached below what was there.
-/

namespace StateExplorer

/-! ### Roots -/

/-- Whether a solver serves a model: it answers for a plain system under a vocabulary that cannot be
mistaken and never stops short, and the model settles where exploring starts, which is asked for
without conditions and carried by tuples. -/
structure ExplicitSolver.Serves (solver : ExplicitSolver) (model : Model) : Prop where
  plain : solver.Plain
  distinct : solver.system.fields.names.Nodup
  roomy : solver.Roomy
  vocabulary : solver.vocabulary.Unmistakable
  settles : solver.Settles model
  carries : ∀ leg ∈ solver.origins model, solver.system.fields.Carries leg.view
  initial : ∃ start, solver.read (model.initialQuery.render solver.vocabulary) =
      .ok (.free start 0) ∧
    solver.origins model = solver.system.starts solver.vocabulary.transitionField start

/-- The first state of every solution to a problem that starts at the origins of a model is that of an
origin. -/
theorem ExplicitSolver.Serves.exists_origin {solver : ExplicitSolver} {model : Model}
    (h : solver.Serves model) {s : Solution} {problem : Problem}
    (hdocument : s.document = solver.answer problem)
    (hstarts : solver.system.starts solver.vocabulary.transitionField problem.start =
      solver.origins model) {sig : String} {schema : Schema} {first : State} {rest : List State}
    (hchain : s.chain sig = .ok (schema, first :: rest)) :
    ∃ leg ∈ solver.origins model, first = State.ofFields leg.view := by
  obtain ⟨-, leg, legs, hstart, -, hcopies⟩ := copies_of_chain h.plain.stateSig hdocument hchain
  obtain ⟨hfirst, -⟩ := List.forall₂_cons.1 hcopies
  rw [hstarts] at hstart
  exact ⟨leg, hstart, hfirst.eq_ofFields h.distinct (h.carries leg hstart)⟩

namespace Store

variable {solver : ExplicitSolver} {model : Model} {store : Store}

/-- Whether every number that no step leads to has the state of an origin. -/
def Originates (solver : ExplicitSolver) (model : Model) (store : Store) : Prop :=
  ∀ id, store.IsRoot id →
    ∃ leg ∈ solver.origins model, store.states[id - 1]? = some (State.ofFields leg.view)

/-- Routes make no difference. -/
theorem Originates.alike {new : Store} (h : store.Originates solver model)
    (halike : store.Alike new) : new.Originates solver model := by
  rintro id ⟨hhas, hroot⟩
  rw [halike.states]
  exact h id ⟨(halike.has_iff id).1 hhas, fun i hlinked => hroot i ((halike.linked i id).2 hlinked)⟩

/-- A root of a store that has grown was one before, or it begins a chain without a parent. -/
theorem of_isRoot_grow {parent : Option Nat} {chain : List State} {id : Nat}
    (hparent : ∀ p ∈ parent, store.Has p) (h : (store.grow parent chain).IsRoot id) :
    store.IsRoot id ∨ parent = none ∧ id = store.size + 1 ∧ chain ≠ [] := by
  obtain ⟨⟨hpos, hle⟩, hroot⟩ := h
  rw [size_grow] at hle
  rcases Nat.lt_trichotomy id (store.size + 1) with hold | rfl | hnew
  · exact .inl ⟨⟨hpos, by omega⟩, fun i hlinked => hroot i (linked_grow_iff.2 (.inl hlinked))⟩
  · have hchain : chain ≠ [] := by
      rintro rfl
      rw [List.length_nil] at hle
      omega
    cases parent with
    | none => exact .inr ⟨rfl, rfl, hchain⟩
    | some p =>
      exact absurd (linked_grow_iff.2 (.inr (.inl ⟨hchain, rfl, hparent p rfl, rfl⟩))) (hroot p)
  · exact absurd (linked_grow_iff.2 (.inr (.inr (by omega)))) (hroot (id - 1))

/-- A chain can be stored, if it has a parent or begins in the state of an origin. -/
theorem Originates.grow (h : store.Originates solver model) {parent : Option Nat}
    (hparent : ∀ p ∈ parent, store.Has p) {chain : List State}
    (hchain : parent = none → ∀ first ∈ chain.head?,
      ∃ leg ∈ solver.origins model, first = State.ofFields leg.view) :
    (store.grow parent chain).Originates solver model := by
  intro id hid
  rw [states_grow]
  rcases of_isRoot_grow hparent hid with hold | ⟨hnone, rfl, hne⟩
  · have hlength := length_states store
    have hpos := hold.1.1
    have hle := hold.1.2
    rw [List.getElem?_append_left (by omega)]
    exact h id hold
  · obtain ⟨first, hfirst⟩ := Option.isSome_iff_exists.1 (List.isSome_head?.2 hne)
    obtain ⟨leg, hleg, rfl⟩ := hchain hnone first hfirst
    refine ⟨leg, hleg, ?_⟩
    rw [Nat.add_sub_cancel, ← length_states, List.getElem?_append_right (Nat.le_refl _),
      Nat.sub_self, ← List.head?_eq_getElem?, hfirst]

end Store

/-! ### What is known of an exploration -/

namespace Exploration

variable {solver : ExplicitSolver} {model : Model} {profile : Profile} {x y z : Exploration}

/-- A chain can be attached, if it has a parent or begins in the state of an origin. -/
theorem Attaches.originates {parent : Option Nat} {chain : List State} {kept : Walk}
    {alternatives : Alternatives} (h : x.Attaches parent chain kept alternatives y)
    (horiginates : x.store.Originates solver model)
    (hchain : parent = none → ∀ first ∈ chain.head?,
      ∃ leg ∈ solver.origins model, first = State.ofFields leg.view) :
    y.store.Originates solver model := by
  obtain ⟨-, -, halike, -⟩ := h.exists_shown
  obtain ⟨hparent, -, -⟩ := h
  exact (horiginates.grow hparent hchain).alike halike

/-- What is known of an exploration that goes by a model: it is structured, everything stored and
offered comes about in a known way, and every walk begins at an origin. -/
structure Based (solver : ExplicitSolver) (model : Model) (x : Exploration) : Prop where
  structured : x.Structured
  faithful : x.Faithful solver model
  offers : x.Offers solver model
  originates : x.store.Originates solver model

/-! ### Every change -/

/-- An alternative keeps what is known. -/
theorem Based.alternated (h : x.Based solver model) (hsolver : solver.Serves model)
    {reverse : Bool} (halternated : x.Alternated profile reverse y) : y.Based solver model := by
  obtain ⟨hfaithful, hoffers, -⟩ :=
    h.faithful.alternated h.offers hsolver.plain h.structured halternated
  refine ⟨h.structured.alternated halternated, hfaithful, hoffers, ?_⟩
  cases halternated with
  | @root solution _ only alternatives hready hchosen hturned hchain hattaches =>
    -- A chain of one state answers a problem that lets chains start at the origins.
    obtain ⟨-, -, ⟨s, hs, hsolution⟩, -⟩ := of_turned hchosen hturned
    obtain ⟨problem, hproblem, -, hstarts⟩ := h.offers s hs
    have hnone := h.structured.anchor?_eq_none hchosen hturned hchain
    refine hattaches.originates h.originates fun _ first hfirst => ?_
    obtain rfl : only = first := Option.some.inj hfirst
    exact hsolver.exists_origin (hsolution.symm.trans hproblem) (hstarts hnone) hchain
  | tail _ _ _ _ _ hattaches => exact hattaches.originates h.originates nofun

/-- Browsing keeps what is known. -/
theorem Based.browsed (h : x.Based solver model) (hsolver : solver.Serves model)
    (hbrowsed : Relation.ReflTransGen (Alternated profile false) x y) : y.Based solver model := by
  induction hbrowsed with
  | refl => exact h
  | tail _ halternated ih => exact ih.alternated hsolver halternated

/-- An extension leaves where walks begin. -/
theorem Extended.originates {goal : Goal} {bound : Nat} (h : x.Extended solver profile goal bound y)
    (horiginates : x.store.Originates solver model) : y.store.Originates solver model := by
  obtain ⟨-, -, -, -, hattaches⟩ := h
  exact hattaches.originates horiginates nofun

/-- What was found again keeps what is known. -/
theorem Based.foundAgain (h : x.Based solver model) (hsolver : solver.Serves model)
    (hprofile : profile.settings.vocabulary = solver.vocabulary) {steps : Nat}
    (hready : x.walk.stops ≠ []) (hfound : x.FoundAgain solver profile steps y) :
    Browses x.store (x.walk.stops.take (x.walk.cursor - steps)) y ∧ y.Based solver model := by
  obtain ⟨hbrowses, hfaithful, hoffers, -⟩ :=
    h.faithful.foundAgain hsolver.plain hprofile h.structured hready hfound
  refine ⟨hbrowses, hbrowses.structured, hfaithful, hoffers, ?_⟩
  cases hfound with
  | replayed hreplayed =>
    obtain ⟨-⟩ := hreplayed
    exact h.originates
  | restarted _ _ hrestarted =>
    obtain ⟨-, -, -⟩ := hrestarted
    exact h.originates
  | extended _ _ hextended =>
    have horiginates : Store.Originates solver model
        { x with walk := x.walk.retreat (steps + 1) false }.store := h.originates
    exact hextended.originates horiginates

/-- Going back leaves where walks begin. -/
theorem Based.originates_retraced (h : x.Based solver model) (hsolver : solver.Serves model)
    (hprofile : profile.settings.vocabulary = solver.vocabulary) {steps : Nat}
    (hretraced : x.Retraced solver profile steps y) : y.store.Originates solver model := by
  obtain ⟨htarget, hfound, hbrowsed, -⟩ := hretraced
  rename_i y z target
  obtain ⟨-, hy⟩ := h.foundAgain hsolver hprofile
    (List.ne_nil_of_mem (List.mem_of_getElem? htarget)) hfound
  exact (hy.browsed hsolver hbrowsed).originates.alike (Store.alike_recordCursor _ _)

/-- Whatever changes without a model or a trace being loaded, what is known is kept. -/
theorem Based.change (h : x.Based solver model) (hsolver : solver.Serves model)
    (hprofile : profile.settings.vocabulary = solver.vocabulary) {command : Command}
    (hcommand : command.loads = false) (hchange : x.Change solver profile command y) :
    y.Based solver model := by
  have hmodel : ∀ text, command ≠ .loadModel text := by
    rintro text rfl
    cases hcommand
  have htrace : ∀ trace, command ≠ .loadTrace trace := by
    rintro trace rfl
    cases hcommand
  obtain ⟨hfaithful, hoffers⟩ :=
    h.faithful.change h.offers h.structured hsolver.plain hprofile hmodel htrace hchange
  refine ⟨h.structured.change hsolver.plain.endsCommand hchange, hfaithful, hoffers, ?_⟩
  cases hchange with
  | model _ => cases hcommand
  | trace _ => cases hcommand
  | replay hreplayed =>
    obtain ⟨-⟩ := hreplayed
    exact h.originates
  | extend _ hextended => exact hextended.originates h.originates
  | alternate halternated => exact (h.alternated hsolver halternated).originates
  | restart _ hrestarted =>
    obtain ⟨-, -, -⟩ := hrestarted
    exact h.originates
  | move _ hmoved =>
    obtain ⟨-, -, -⟩ := hmoved
    exact h.originates
  | retrace hretraced => exact h.originates_retraced hsolver hprofile hretraced
  | breakpoints list => exact h.originates

/-- As long as one state is stored, walks begin at an origin. -/
theorem Faithful.originates (h : x.Faithful solver model) (hsolver : solver.Serves model)
    (hone : x.store.size = 1) : x.store.Originates solver model := by
  rintro id ⟨⟨hpos, hle⟩, -⟩
  obtain ⟨solution, schema, first, rest, hanswers, hfirst⟩ := h.loaded
  obtain ⟨hread, -, hchain⟩ := hanswers
  obtain ⟨leg, hleg, rfl⟩ :=
    hsolver.exists_origin rfl (ExplicitSolver.origins_eq hread).symm hchain
  obtain rfl : id = 1 := by omega
  exact ⟨leg, hleg, hfirst⟩

end Exploration

end StateExplorer
