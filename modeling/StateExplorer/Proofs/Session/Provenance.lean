import StateExplorer.Proofs.Query.Resumption
import StateExplorer.Proofs.Session.Structure
import StateExplorer.Proofs.System.Chains

/-!
# Where stored steps come from

A step is stored when the chain of an answer is attached under a number, without the state it
starts in. Whether the step is declared depends on that state: the chain starts in the state under
the number if the query resumed from its constraint, and in some initial state if the query
resumed from the initial predicate, which is so as long as one state is stored. A constraint speaks
for its state unless there is something else than plain words in the transition field. What is said
here of an exploration is what attaching keeps: every stored step comes about in one of these ways,
and so would the steps that the solutions on show have to offer.
-/

namespace StateExplorer

/-- The query for the initial state of a model. -/
def Model.initialQuery (model : Model) : Query :=
  ⟨model.base, model.init, .initial, 0⟩

/-- A state that suits a system fits it, or its transition field is odd. -/
theorem State.Suits.fits {schema : Schema} {transitionField : String} {state : State}
    (h : state.Suits schema transitionField)
    (hodd : ¬TransitionSystem.Odd transitionField state.fields) : state.Fits schema where
  fields := h.fields
  words field values hvalues v hv := by
    refine Condition.word_of_isPlain ?_
    by_cases hfield : field = transitionField
    · subst hfield
      by_contra hplain
      rw [State.values?] at hvalues
      exact hodd ⟨v, by rw [hvalues]; exact hv, by simpa using hplain⟩
    · exact h.plain field values hfield hvalues v hv

namespace ExplicitSolver

variable {solver : ExplicitSolver} {model : Model}

/-- Whether a solver answers for a plain system under a vocabulary of names. -/
structure Plain (solver : ExplicitSolver) : Prop where
  system : solver.system.Plain
  initPredicate : Text.isName solver.vocabulary.initPredicate = true
  stateSig : Text.isName solver.vocabulary.stateSig = true

/-- The names of the fields of a plain system are names. -/
theorem Plain.isName_of_mem (h : solver.Plain) :
    ∀ name ∈ solver.system.fields.names, Text.isName name = true :=
  fun name hname => Text.isName_of_isPlain (h.system.fields name hname)

/-- Where chains for the initial query of a model may start. -/
def origins (solver : ExplicitSolver) (model : Model) : List Leg :=
  match solver.read (model.initialQuery.render solver.vocabulary) with
  | .ok problem => solver.system.starts solver.vocabulary.transitionField problem.start
  | .error _ => []

/-- Chains for the initial query start where the problem it is read as says. -/
theorem origins_eq {problem : Problem}
    (h : solver.read (model.initialQuery.render solver.vocabulary) = .ok problem) :
    solver.origins model =
      solver.system.starts solver.vocabulary.transitionField problem.start := by
  rw [origins, h]

/-- The ways in which a step from the state under a number comes about: it is declared; it leaves
the first state, but an initial state is where it is declared from; or it leaves a state with an
odd transition field, and some state is where it is declared from. -/
inductive Arises (solver : ExplicitSolver) (model : Model) (i : Nat) (a b : State) : Prop
  | declared (declared : solver.system.Declared solver.vocabulary.transitionField a b)
  | origin (first : i = 1) {leg : Leg} (mem : leg ∈ solver.origins model)
      (enters : solver.system.Enters solver.vocabulary.transitionField leg.state b)
  | odd (odd : TransitionSystem.Odd solver.vocabulary.transitionField a.fields)
      {source : SystemState}
      (mem : source ∈ solver.system.states)
      (enters : solver.system.Enters solver.vocabulary.transitionField source b)

/-- The ways in which a problem lets chains start that are attached under a stop. -/
inductive Leaves (solver : ExplicitSolver) (model : Model) (problem : Problem) (stop : Stop) : Prop
  | resumed (start_eq : problem.start = .fixed stop.state.sets)
  | initial (first : stop.id = 1)
      (starts_eq : solver.system.starts solver.vocabulary.transitionField problem.start =
        solver.origins model)
  | odd (odd : TransitionSystem.Odd solver.vocabulary.transitionField stop.state.fields)

/-- A step into the second state of a chain comes about as the problem lets the chain start. -/
theorem Leaves.arises {problem : Problem} {stop : Stop} (h : solver.Leaves model problem stop)
    (hsuits : stop.state.Suits solver.system.fields solver.vocabulary.transitionField)
    {leg : Leg}
    (hleg : leg ∈ solver.system.starts solver.vocabulary.transitionField problem.start)
    {next : State}
    (henters : solver.system.Enters solver.vocabulary.transitionField leg.state next) :
    solver.Arises model stop.id stop.state next := by
  have hmem := (TransitionSystem.shows_of_mem_starts hleg).mem
  cases h with
  | resumed hstart =>
    rw [hstart] at hleg
    have hcontent := TransitionSystem.content_of_mem_starts hleg
    refine .declared ⟨leg.state, hmem, ⟨hcontent.symm, fun hnodup => ?_⟩, henters⟩
    rw [hcontent, hsuits.distinct hnodup]
  | initial hfirst hstarts => exact .origin hfirst (hstarts ▸ hleg) henters
  | odd hodd => exact .odd hodd hmem henters

/-- Whether a state suits the system, and is odd only if an initial state is. -/
structure Expects (solver : ExplicitSolver) (model : Model) (state : State) : Prop where
  suits : state.Suits solver.system.fields solver.vocabulary.transitionField
  odd : TransitionSystem.Odd solver.vocabulary.transitionField state.fields →
    ∃ leg ∈ solver.origins model,
      TransitionSystem.Odd solver.vocabulary.transitionField leg.view

/-- The states of a chain after the first one are expected. -/
theorem Follows.expects {problem : Problem} {leg : Leg} {first : State} {rest : List State}
    (h : solver.Follows problem leg first rest) (model : Model) :
    ∀ state ∈ rest, solver.Expects model state := fun state hstate =>
  ⟨h.suits state (List.mem_cons_of_mem _ hstate), fun hodd => absurd hodd (h.plain state hstate)⟩

/-- A state where chains start that start at initial states is expected. -/
theorem Follows.expects_first {problem : Problem} {leg : Leg} {first : State} {rest : List State}
    (h : solver.Follows problem leg first rest)
    (hstarts : solver.system.starts solver.vocabulary.transitionField problem.start =
      solver.origins model) : solver.Expects model first :=
  ⟨h.suits first List.mem_cons_self, fun hodd => ⟨leg, hstarts ▸ h.start, h.odd hodd⟩⟩

/-- The ways in which the first state of a chain relates to the stop that the rest is attached
under: it holds the same apart from the transition field; the stop is the first state, and the
chain starts in an initial state; or the stop has an odd transition field. -/
inductive Drops (solver : ExplicitSolver) (model : Model) (stop : Stop) (first : State) : Prop
  | same (same : first.SameContent solver.system.fields solver.vocabulary.transitionField
      stop.state)
  | origin (first_eq : stop.id = 1) {leg : Leg} (mem : leg ∈ solver.origins model)
      (content : first.HoldsContent solver.system.fields solver.vocabulary.transitionField
        (solver.system.view solver.vocabulary.transitionField leg.state none))
  | odd (odd : TransitionSystem.Odd solver.vocabulary.transitionField stop.state.fields)

/-- The first state of a chain relates to a stop as the problem lets the chain start. -/
theorem Leaves.drops {problem : Problem} {stop : Stop} (h : solver.Leaves model problem stop)
    (hsuits : stop.state.Suits solver.system.fields solver.vocabulary.transitionField)
    {leg : Leg} {first : State} {rest : List State}
    (hfollows : solver.Follows problem leg first rest) : solver.Drops model stop first := by
  cases h with
  | resumed hstart =>
    have hleg := hfollows.start
    rw [hstart] at hleg
    have hcontent := TransitionSystem.content_of_mem_starts hleg
    refine .same ⟨?_, fun hnodup => ?_⟩
    · rw [hfollows.content.sets_eq, hcontent]
    · rw [hfollows.content.fields_eq hnodup, hcontent, hsuits.distinct hnodup]
  | initial hfirst hstarts => exact .origin hfirst (hstarts ▸ hfollows.start) hfollows.content
  | odd hodd => exact .odd hodd

/-- Whether a model settles where exploring starts: its initial states hold the same apart from the
transition field, and it prescribes nothing odd there. -/
structure Settles (solver : ExplicitSolver) (model : Model) : Prop where
  agree : ∀ leg ∈ solver.origins model, ∀ other ∈ solver.origins model,
    TransitionSystem.content solver.vocabulary.transitionField leg.view =
      TransitionSystem.content solver.vocabulary.transitionField other.view
  plain : ∀ leg ∈ solver.origins model,
    ¬TransitionSystem.Odd solver.vocabulary.transitionField leg.view

/-- An origin shows a state of the system. -/
theorem shows_of_mem_origins {leg : Leg} (h : leg ∈ solver.origins model) :
    solver.system.Shows solver.vocabulary.transitionField leg := by
  unfold origins at h
  split at h
  · exact TransitionSystem.shows_of_mem_starts h
  · cases h

end ExplicitSolver

namespace Store

variable {solver : ExplicitSolver} {model : Model} {store : Store}

/-- Whether all stored states are expected and all stored steps come about in a known way. -/
structure Charted (solver : ExplicitSolver) (model : Model) (store : Store) : Prop where
  expects : ∀ state ∈ store.states, solver.Expects model state
  arises : ∀ i j a b, store.Linked i j → store.states[i - 1]? = some a →
    store.states[j - 1]? = some b → solver.Arises model i a b

/-- A store without states is charted. -/
theorem charted_empty (solver : ExplicitSolver) (model : Model) (transitionField : Option String) :
    (empty transitionField).Charted solver model where
  expects := by simp [states, empty]
  arises i j a b hlinked := by
    have := hlinked.has_source
    simp [Has, empty, size] at this
    omega

/-- Routes make no difference. -/
theorem Charted.alike {new : Store} (h : store.Charted solver model) (halike : store.Alike new) :
    new.Charted solver model := by
  refine ⟨by rw [halike.states]; exact h.expects, fun i j a b hlinked ha hb => ?_⟩
  rw [halike.states] at ha hb
  exact h.arises i j a b ((halike.linked i j).1 hlinked) ha hb

/-- A chain of declared steps can be stored below a number from which the first of them comes about
in a known way. -/
theorem Charted.grow (h : store.Charted solver model) (hshaped : store.Shaped)
    {parent : Option Nat} {chain : List State}
    (hexpects : ∀ state ∈ chain, solver.Expects model state)
    (hchain : chain.IsChain (solver.system.Declared solver.vocabulary.transitionField))
    (hparent : ∀ p ∈ parent, ∀ a, store.states[p - 1]? = some a → ∀ next ∈ chain.head?,
      solver.Arises model p a next) : (store.grow parent chain).Charted solver model := by
  refine ⟨fun state hstate => ?_, fun i j a b hlinked ha hb => ?_⟩
  · rw [states_grow] at hstate
    rcases List.mem_append.1 hstate with hold | hnew
    · exact h.expects state hold
    · exact hexpects state hnew
  · rw [states_grow] at ha hb
    have hlength := length_states store
    rcases linked_grow_iff.1 hlinked with hold | ⟨-, rfl, hhas, rfl⟩ | ⟨hi, rfl, hj⟩
    · have hj := hshaped.upward i j hold
      have hi := hold.has_source
      unfold Has at hi
      rw [List.getElem?_append_left (by omega)] at ha hb
      exact h.arises i j a b hold ha hb
    · unfold Has at hhas
      rw [List.getElem?_append_left (by omega)] at ha
      rw [List.getElem?_append_right (by omega), ← hlength] at hb
      refine hparent i rfl a ha b ?_
      rw [List.head?_eq_getElem?, Option.mem_def, ← hb]
      congr 1
      omega
    · rw [List.getElem?_append_right (by omega)] at ha hb
      obtain ⟨hk, rfl⟩ := List.getElem?_eq_some_iff.1 ha
      have hnext : i + 1 - 1 - store.states.length = i - 1 - store.states.length + 1 := by omega
      rw [hnext] at hb
      obtain ⟨hk', rfl⟩ := List.getElem?_eq_some_iff.1 hb
      exact .declared (hchain.getElem _ hk')

end Store

namespace Exploration

variable {solver : ExplicitSolver} {model : Model} {profile : Profile} {x y : Exploration}

/-- Whether an exploration goes by a model whose initial predicate decides where its chains start,
shows what is stored under its numbers, and has a charted store with an initial state in first
place. -/
structure Faithful (solver : ExplicitSolver) (model : Model) (x : Exploration) : Prop where
  model_eq : x.model = some model
  schema_eq : x.schema = solver.system.fields
  vocabulary_eq : x.ownVocabulary.getD solver.vocabulary = solver.vocabulary
  exploring : x.replaying = false
  stands : Predicate.Stands solver.vocabulary.initPredicate model.init.toList
  base : Predicate.find? solver.vocabulary.initPredicate model.base.toList = none
  loaded : ∃ solution schema first rest,
    Answers solver solver.vocabulary model.initialQuery solution schema (first :: rest) ∧
      x.store.states[0]? = some first
  charted : x.store.Charted solver model
  shows : ∀ stop ∈ x.walk.stops, x.store.Shows stop

/-- Whether every solution on show answers a problem that lets chains start in a known way, or at
initial states if there is no stop to attach them under. -/
def Offers (solver : ExplicitSolver) (model : Model) (x : Exploration) : Prop :=
  ∀ s ∈ x.alternatives.shown, ∃ problem, s.document = solver.answer problem ∧
    (∀ anchor ∈ Explore.anchor? x.walk, solver.Leaves model problem anchor) ∧
    (Explore.anchor? x.walk = none →
      solver.system.starts solver.vocabulary.transitionField problem.start =
        solver.origins model)

/-- The vocabulary in effect is the solver's. -/
theorem Faithful.vocabulary (h : x.Faithful solver model)
    (hprofile : profile.settings.vocabulary = solver.vocabulary) :
    x.vocabulary profile.settings = solver.vocabulary := by
  rw [Exploration.vocabulary, hprofile, h.vocabulary_eq]

/-- What is shown suits the system. -/
theorem Faithful.suits (h : x.Faithful solver model) {stop : Stop} (hstop : stop ∈ x.walk.stops) :
    stop.state.Suits solver.system.fields solver.vocabulary.transitionField :=
  (h.charted.expects _ (List.mem_of_getElem? (h.shows stop hstop).2)).suits

/-- A chain of declared steps can be attached under a number from which the first of them comes
about in a known way. -/
theorem Faithful.attaches (h : x.Faithful solver model) (hshaped : x.store.Shaped)
    {parent : Option Nat} {chain : List State} {kept : Walk} {alternatives : Alternatives}
    (hattaches : x.Attaches parent chain kept alternatives y)
    (hkept : kept.rollback.stops ⊆ x.walk.stops)
    (hexpects : ∀ state ∈ chain, solver.Expects model state)
    (hchain : chain.IsChain (solver.system.Declared solver.vocabulary.transitionField))
    (hparent : ∀ p ∈ parent, ∀ a, x.store.states[p - 1]? = some a → ∀ next ∈ chain.head?,
      solver.Arises model p a next) : y.Faithful solver model := by
  have hgrown := hattaches.states_grown
  obtain ⟨shown, -, halike, hstops, -, hshows, hy⟩ := hattaches.exists_shown
  obtain ⟨solution, schema, first, rest, hanswers, hfirst⟩ := h.loaded
  refine ⟨by rw [hy]; exact h.model_eq, by rw [hy]; exact h.schema_eq,
    by rw [hy]; exact h.vocabulary_eq, by rw [hy]; exact h.exploring, h.stands, h.base,
    ⟨solution, schema, first, rest, hanswers, ?_⟩,
    (h.charted.grow hshaped hexpects hchain hparent).alike halike, fun stop hstop => ?_⟩
  · obtain ⟨more, hmore⟩ := hgrown
    rw [← hmore, List.getElem?_append_left (List.getElem?_eq_some_iff.1 hfirst).1, hfirst]
  · rw [hstops] at hstop
    rcases List.mem_append.1 hstop with hold | hnew
    · exact (h.shows stop (hkept hold)).mono hgrown
    · exact hshows stop hnew

/-- Chains start at initial states if the query resumes from the initial predicate. -/
theorem Faithful.starts_eq (h : x.Faithful solver model) (hsolver : solver.Plain) {goal : Goal}
    {bound : Nat} {problem : Problem}
    (hread : solver.read (Query.render solver.vocabulary ⟨model.base, model.init, goal, bound⟩) =
      .ok problem) :
    solver.system.starts solver.vocabulary.transitionField problem.start =
      solver.origins model := by
  obtain ⟨solution, schema, first, rest, hanswers, -⟩ := h.loaded
  obtain ⟨hinitial, -, -⟩ := hanswers
  rw [ExplicitSolver.origins_eq hinitial]
  exact congrArg _ (Problem.start_eq_of_read hsolver.initPredicate h.base h.stands hread hinitial)

/-- The problem that is read from a query lets chains start in a known way. -/
theorem Faithful.leaves (h : x.Faithful solver model) (hsolver : solver.Plain)
    (hprofile : profile.settings.vocabulary = solver.vocabulary) {start : String} {goal : Goal}
    {bound : Nat} {problem : Problem} {anchor : Stop}
    (hresumes : x.Resumes profile model start) (hcurrent : x.walk.current? = some anchor)
    (hread : solver.read (Query.render solver.vocabulary ⟨model.base, start, goal, bound⟩) =
      .ok problem) : solver.Leaves model problem anchor := by
  have hstop : anchor ∈ x.walk.stops := List.mem_of_getElem? hcurrent
  cases hresumes with
  | @current stop hmany hstate =>
    obtain rfl : stop = anchor := Option.some.inj (hstate.symm.trans hcurrent)
    rw [h.vocabulary hprofile, h.schema_eq] at hread
    by_cases hodd : TransitionSystem.Odd solver.vocabulary.transitionField stop.state.fields
    · exact .odd hodd
    · exact .resumed (Problem.start_of_resumed hsolver.initPredicate hsolver.stateSig
        hsolver.isName_of_mem h.base ((h.suits hstop).fits hodd) hread)
  | initial hfew =>
    have hhas := (h.shows anchor hstop).has
    exact .initial (by have := hhas.1; have := hhas.2; omega) (h.starts_eq hsolver hread)

end Exploration

end StateExplorer
