import StateExplorer.Proofs.Session.Forest
import StateExplorer.Proofs.Session.Provenance

/-!
# What every change keeps

An exploration that goes by a model shows what is stored, and everything it stores and offers comes
about in a known way. Each change keeps that: an extension asks from the state under the cursor and
is attached there, alternatives are attached where the solutions they replace were, and going back
shows a state that was found anew under the number of the same state. The vocabulary has to
stay the one the solver reads queries with.
-/

namespace StateExplorer

/-- A plain solver has a signature without a command. -/
theorem ExplicitSolver.Plain.endsCommand {solver : ExplicitSolver} (h : solver.Plain) :
    solver.vocabulary.endsCommand = true :=
  Vocabulary.endsCommand_of_isName h.stateSig

/-- Whether a command keeps to a vocabulary: a model that is loaded brings no other one along and
has no second initial predicate in its base, and no other one is set. -/
def Command.KeepsTo (vocabulary : Vocabulary) : Command → Prop
  | .loadModel text =>
    (∀ own, Vocabulary.embedded text = .ok own → own.getD vocabulary = vocabulary) ∧
      ∀ model, Model.parse text vocabulary = .ok model →
        Predicate.find? vocabulary.initPredicate model.base.toList = none
  | .setVocabulary other => other = vocabulary
  | _ => True

/-- A model without a vocabulary of its own keeps to one if its base has no second initial
predicate. -/
theorem Command.keepsTo_of_parse {vocabulary : Vocabulary} {text : String} {model : Model}
    (hown : Vocabulary.embedded text = .ok none) (hmodel : Model.parse text vocabulary = .ok model)
    (hbase : Predicate.find? vocabulary.initPredicate model.base.toList = none) :
    (Command.loadModel text).KeepsTo vocabulary := by
  refine ⟨fun own h => ?_, fun other h => ?_⟩
  · obtain rfl := Except.ok.inj (hown.symm.trans h)
    rfl
  · obtain rfl := Except.ok.inj (hmodel.symm.trans h)
    exact hbase

/-- The empty model in its parts. -/
def Session.emptyParts : Model :=
  ⟨" pred next[s, t: State] \x7b\x7d", "pred init[s: State] \x7b\x7d"⟩

/-- The empty model is taken apart. -/
theorem Session.parse_emptyModel : Model.parse emptyModel .default = .ok emptyParts := by
  decide +kernel

/-- The empty model keeps to the usual vocabulary. -/
theorem Session.keepsTo_emptyModel : (Command.loadModel emptyModel).KeepsTo .default :=
  Command.keepsTo_of_parse rfl parse_emptyModel (by decide +kernel)

namespace Exploration

variable {solver : ExplicitSolver} {model : Model} {profile : Profile} {x y z : Exploration}

/-! ### Extensions and alternatives -/

/-- The states of a chain after the first one can be attached where the problem lets the chain
start. -/
theorem Faithful.attaches_tail (h : x.Faithful solver model) (hsolver : solver.Plain)
    (hshaped : x.store.Shaped) {anchor : Stop} (hanchor : anchor ∈ x.walk.stops) {s : Solution}
    {problem : Problem} (hdocument : s.document = solver.answer problem)
    (hleaves : solver.Leaves model problem anchor) {sig : String} {schema : Schema}
    {first next : State} {rest : List State}
    (hchain : s.chain sig = .ok (schema, first :: next :: rest)) {kept : Walk}
    {alternatives : Alternatives}
    (hattaches : x.Attaches (some anchor.id) (next :: rest) kept alternatives y)
    (hkept : kept.rollback.stops ⊆ x.walk.stops) : y.Faithful solver model := by
  obtain ⟨-, leg, first, rest, heq, hfollows⟩ :=
    ExplicitSolver.follows_of_chain hsolver.system hsolver.stateSig hdocument hchain
  obtain ⟨rfl, rfl⟩ := List.cons.inj heq
  refine h.attaches hshaped hattaches hkept (hfollows.expects model) hfollows.declared.tail ?_
  rintro p hp a ha b hb
  obtain rfl : anchor.id = p := by simpa using hp
  obtain rfl : anchor.state = a := Option.some.inj ((h.shows anchor hanchor).2.symm.trans ha)
  exact hleaves.arises (h.suits hanchor) hfollows.start (hfollows.enters b hb)

/-- An extension is faithful, and its solutions continue from the current state. -/
theorem Faithful.extended (h : x.Faithful solver model) (hsolver : solver.Plain)
    (hprofile : profile.settings.vocabulary = solver.vocabulary) (hshaped : x.store.Shaped)
    (hcursor : x.walk.cursor + 1 = x.walk.stops.length) {goal : Goal} {bound : Nat}
    (hextended : x.Extended solver profile goal bound y) :
    y.Faithful solver model ∧ y.Offers solver model ∧ x.store.states <+: y.store.states := by
  obtain ⟨hmodel, hresumes, hanswers, hcurrent, hattaches⟩ := hextended
  obtain rfl := Option.some.inj (h.model_eq.symm.trans hmodel)
  rw [h.vocabulary hprofile] at hanswers
  obtain ⟨hread, -, hchain⟩ := hanswers
  rename_i anchor problem
  have hleaves := h.leaves hsolver hprofile hresumes hcurrent hread
  have hkept : x.walk.commit.rollback.stops = x.walk.stops := Walk.stops_rollback_commit x.walk
  refine ⟨h.attaches_tail hsolver hshaped (List.mem_of_getElem? hcurrent) rfl hleaves hchain
    hattaches (by rw [hkept]; exact List.Subset.refl _), fun s hs => ?_, hattaches.states_grown⟩
  obtain ⟨shown, -, -, -, -, -, hy⟩ := hattaches.exists_shown
  rw [hy] at hs
  obtain rfl := List.mem_singleton.1 hs
  have hanchor : Explore.anchor? y.walk = some anchor := by
    rw [hattaches.anchor?_eq, hkept, List.getLast?_eq_getElem?, ← hcursor, Nat.add_sub_cancel]
    exact hcurrent
  rw [hanchor]
  refine ⟨problem, rfl, fun a ha => ?_, fun hnone => by cases hnone⟩
  obtain rfl : anchor = a := Option.some.inj ha
  exact hleaves

/-- A chain of one state is shown before anything was committed. -/
theorem Structured.anchor?_eq_none (h : x.Structured) {reverse : Bool} {solution : Solution}
    {alternatives : Alternatives} {sig : String} {schema : Schema} {only : State}
    (hchosen : Explore.chosen x.alternatives reverse = .ok solution)
    (hturned : Explore.turned solution reverse x.alternatives = .ok alternatives)
    (hchain : solution.chain sig = .ok (schema, [only])) : Explore.anchor? x.walk = none := by
  obtain ⟨hdepth, -, ⟨s, hs, hsolution⟩, -⟩ := of_turned hchosen hturned
  obtain ⟨length, hlength, hshort⟩ := h.uniform
  have hone : 1 = length := Solution.length_of_chain (hsolution ▸ hlength s hs) hchain
  rw [anchor?_eq_getLast?, Walk.stops_rollback, hshort (by omega) hdepth, Nat.sub_self]
  rfl

/-- An alternative is faithful, and its solutions continue from the same state. -/
theorem Faithful.alternated (h : x.Faithful solver model) (hoffers : x.Offers solver model)
    (hsolver : solver.Plain) (hstructured : x.Structured) {reverse : Bool}
    (halternated : x.Alternated profile reverse y) :
    y.Faithful solver model ∧ y.Offers solver model ∧ x.store.states <+: y.store.states := by
  have hkept : x.walk.rollback.rollback.stops = x.walk.rollback.stops :=
    Walk.stops_rollback_rollback x.walk
  have hsub : x.walk.rollback.rollback.stops ⊆ x.walk.stops := by
    rw [hkept, Walk.stops_rollback]
    exact List.take_subset _ _
  have hstill {parent : Option Nat} {chain : List State} {alternatives : Alternatives}
      (hattaches : x.Attaches parent chain x.walk.rollback alternatives y)
      (hdocuments : ∀ s ∈ alternatives.shown, ∃ s' ∈ x.alternatives.shown,
        s'.document = s.document) : y.Offers solver model := by
    obtain ⟨shown, -, -, -, -, -, hy⟩ := hattaches.exists_shown
    rintro s hs
    rw [hy] at hs
    obtain ⟨s', hs', hsame⟩ := hdocuments s hs
    have hanchor : Explore.anchor? y.walk = Explore.anchor? x.walk := by
      rw [hattaches.anchor?_eq, hkept, anchor?_eq_getLast?]
    rw [hanchor, ← hsame]
    exact hoffers s' hs'
  cases halternated with
  | @root solution _ only alternatives hready hchosen hturned hchain hattaches =>
    obtain ⟨-, -, ⟨s, hs, hsolution⟩, hdocuments⟩ := of_turned hchosen hturned
    have hnone := hstructured.anchor?_eq_none hchosen hturned hchain
    obtain ⟨problem, hproblem, -, hstarts⟩ := hoffers s hs
    obtain ⟨-, leg, first, rest, heq, hfollows⟩ := ExplicitSolver.follows_of_chain hsolver.system
      hsolver.stateSig (hsolution.symm.trans hproblem) hchain
    obtain ⟨rfl, rfl⟩ := List.cons.inj heq
    refine ⟨h.attaches hstructured.shaped hattaches hsub (fun state hstate => ?_)
      (List.isChain_singleton only) (by simp), hstill hattaches hdocuments, hattaches.states_grown⟩
    obtain rfl := List.mem_singleton.1 hstate
    exact hfollows.expects_first (hstarts hnone)
  | @tail solution _ first next rest anchor alternatives hready hchosen hturned hchain hanchor
      hattaches =>
    obtain ⟨-, -, ⟨s, hs, hsolution⟩, hdocuments⟩ := of_turned hchosen hturned
    obtain ⟨problem, hproblem, hleaves, -⟩ := hoffers s hs
    have hmem : anchor ∈ x.walk.stops := by
      rw [anchor?_eq_getLast?, ← hkept] at hanchor
      exact hsub (List.mem_of_getLast? hanchor)
    exact ⟨h.attaches_tail hsolver hstructured.shaped hmem (hsolution.symm.trans hproblem)
      (hleaves anchor hanchor) hchain hattaches hsub, hstill hattaches hdocuments,
      hattaches.states_grown⟩

/-! ### The other changes -/

/-- A query has one answer. -/
theorem Answers.unique {vocabulary : Vocabulary} {query : Query} {solution solution' : Solution}
    {schema schema' : Schema} {chain chain' : List State}
    (h : Answers solver vocabulary query solution schema chain)
    (h' : Answers solver vocabulary query solution' schema' chain') :
    solution = solution' ∧ chain = chain' := by
  obtain ⟨hread, -, hchain⟩ := h
  obtain ⟨hread', -, hchain'⟩ := h'
  obtain rfl := Except.ok.inj (hread.symm.trans hread')
  exact ⟨rfl, (Prod.mk.inj (Except.ok.inj (hchain.symm.trans hchain'))).2⟩

/-- The initial state that is shown anew is the first stored state. -/
theorem Faithful.restarted (h : x.Faithful solver model)
    (hprofile : profile.settings.vocabulary = solver.vocabulary)
    (hrestarted : x.Restarted solver profile y) :
    y.Faithful solver model ∧ y.Offers solver model ∧ y.store = x.store := by
  obtain ⟨-, hmodel, hanswers⟩ := hrestarted
  obtain rfl := Option.some.inj (h.model_eq.symm.trans hmodel)
  rename_i solution schema first rest
  rw [h.vocabulary hprofile] at hanswers
  obtain ⟨loaded, schema', first', rest', hloaded, hfirst⟩ := h.loaded
  obtain ⟨-, heq⟩ := Answers.unique hanswers hloaded
  obtain ⟨rfl, rfl⟩ := List.cons.inj heq
  refine ⟨⟨h.model_eq, h.schema_eq, h.vocabulary_eq, h.exploring, h.stands, h.base, h.loaded,
    h.charted, fun stop hstop => ?_⟩, fun s hs => ?_, rfl⟩
  · obtain rfl := List.mem_singleton.1 hstop
    exact ⟨Nat.le_refl 1, hfirst⟩
  · obtain rfl := List.mem_singleton.1 hs
    obtain ⟨hread, -, -⟩ := hanswers
    refine ⟨_, rfl, fun anchor hanchor => ?_, fun _ => (ExplicitSolver.origins_eq hread).symm⟩
    cases hanchor

/-- The route to a stored state shows what is stored. -/
theorem Faithful.moved (h : x.Faithful solver model) {id : Nat} (hmoved : x.Moved id y) :
    y.Faithful solver model ∧ y.Offers solver model := by
  obtain ⟨-, -, hstops⟩ := hmoved
  refine ⟨⟨h.model_eq, h.schema_eq, h.vocabulary_eq, h.exploring, h.stands, h.base, h.loaded,
    h.charted, (Store.of_stops_eq_ok hstops).2⟩, fun s hs => by cases hs⟩

/-- Recording the walk under the cursor touches routes only. -/
theorem Faithful.recorded_nil (h : x.Faithful solver model) :
    (x.recorded []).Faithful solver model := by
  have halike := Store.alike_recordCursor x.walk x.store
  have hstates : (x.recorded []).store.states = x.store.states := halike.states
  refine ⟨h.model_eq, h.schema_eq, h.vocabulary_eq, h.exploring, h.stands, h.base, ?_,
    h.charted.alike halike, fun stop hstop => (h.shows stop hstop).mono ?_⟩
  · rw [hstates]
    exact h.loaded
  · exact hstates ▸ List.prefix_refl _

/-- Browsing keeps what is stored and goes on to offer steps that come about in a known way. -/
theorem Faithful.browsed (h : x.Faithful solver model) (hoffers : x.Offers solver model)
    (hsolver : solver.Plain) (hstructured : x.Structured)
    (hbrowsed : Relation.ReflTransGen (Alternated profile false) x y) :
    y.Faithful solver model ∧ y.Offers solver model ∧ x.store.states <+: y.store.states := by
  have hall : y.Structured ∧ y.Faithful solver model ∧ y.Offers solver model ∧
      x.store.states <+: y.store.states := by
    induction hbrowsed with
    | refl => exact ⟨hstructured, h, hoffers, List.prefix_refl _⟩
    | tail _ halternated ih =>
      obtain ⟨hstructured, h, hoffers, hgrown⟩ := ih
      obtain ⟨hfaithful, hoffers, hmore⟩ :=
        h.alternated hoffers hsolver hstructured halternated
      exact ⟨hstructured.alternated halternated, hfaithful, hoffers, hgrown.trans hmore⟩
  exact hall.2

/-- The one provisional stop can be shown under another number that has the same state. -/
theorem Faithful.renumber (h : z.Faithful solver model) (hoffers : z.Offers solver model)
    {old : Store} {kept : List Stop} (hbrowses : Browses old kept z) {target : Stop}
    (hshows : z.store.Shows target) (hthere : Explore.isElsewhere target.state z = false) :
    ({ z with walk := z.walk.renumber target.id } : Exploration).Faithful solver model ∧
      ({ z with walk := z.walk.renumber target.id } : Exploration).Offers solver model := by
  obtain ⟨shown, hstops⟩ := hbrowses.stops
  rw [hbrowses.renumber_eq hthere]
  refine ⟨⟨h.model_eq, h.schema_eq, h.vocabulary_eq, h.exploring, h.stands, h.base, h.loaded,
    h.charted, fun stop hstop => ?_⟩, fun s hs => ?_⟩
  · rcases List.mem_append.1 hstop with hkept | hnew
    · exact h.shows stop (hstops ▸ List.mem_append_left _ hkept)
    · obtain rfl := List.mem_singleton.1 hnew
      exact hshows
  · have hanchor : Explore.anchor?
        ⟨kept ++ [⟨target.id, target.state⟩], z.walk.provisional, z.walk.cursor⟩ =
          Explore.anchor? z.walk := by
      rw [anchor?_eq_getLast?, anchor?_eq_getLast?, hbrowses.stops_rollback, Walk.stops_rollback]
      simp [hbrowses.provisional]
    rw [hanchor]
    exact hoffers s hs

/-- Where the states some steps back were found again, one state is shown after the stops before
them. -/
theorem Faithful.foundAgain (h : x.Faithful solver model) (hsolver : solver.Plain)
    (hprofile : profile.settings.vocabulary = solver.vocabulary) (hstructured : x.Structured)
    {steps : Nat} (hready : x.walk.stops ≠ []) (hfound : x.FoundAgain solver profile steps y) :
    Browses x.store (x.walk.stops.take (x.walk.cursor - steps)) y ∧ y.Faithful solver model ∧
      y.Offers solver model ∧ x.store.states <+: y.store.states := by
  cases hfound with
  | replayed hreplayed =>
    obtain ⟨hreplaying⟩ := hreplayed
    exact Bool.noConfusion (h.exploring.symm.trans hreplaying)
  | restarted hexploring hshort hrestarted =>
    obtain ⟨hfaithful, hoffers, hstore⟩ := h.restarted hprofile hrestarted
    refine ⟨?_, hfaithful, hoffers, hstore ▸ List.prefix_refl _⟩
    rw [Nat.sub_eq_zero_of_le hshort, List.take_zero]
    exact hstructured.browses_of_restarted hexploring hrestarted
  | extended hexploring hlong hextended =>
    refine ⟨hstructured.browses_of_extended hsolver.endsCommand hexploring hlong hextended, ?_⟩
    have hcursor := hstructured.cursor hexploring hready
    have hretreat : Faithful solver model
        { x with walk := x.walk.retreat (steps + 1) false } := by
      refine ⟨h.model_eq, h.schema_eq, h.vocabulary_eq, h.exploring, h.stands, h.base,
        h.loaded, h.charted, fun stop hstop => h.shows stop ?_⟩
      exact List.mem_of_mem_take hstop
    refine hretreat.extended hsolver hprofile hstructured.shaped ?_ hextended
    simp only [Walk.retreat, Bool.false_eq_true, if_false, List.length_take]
    omega

/-- A stop that was found anew shows what is stored under its number. -/
theorem Faithful.retraced (h : x.Faithful solver model) (hsolver : solver.Plain)
    (hprofile : profile.settings.vocabulary = solver.vocabulary) (hstructured : x.Structured)
    {steps : Nat} (hretraced : x.Retraced solver profile steps y) :
    y.Faithful solver model ∧ y.Offers solver model := by
  cases hretraced with
  | @intro y z target htarget hfound hbrowsed hthere =>
    have hstop := List.mem_of_getElem? htarget
    have hshows := h.shows target hstop
    obtain ⟨hbrowses, hfaithful, hoffers, hgrown⟩ :=
      h.foundAgain hsolver hprofile hstructured (List.ne_nil_of_mem hstop) hfound
    obtain ⟨hfaithful, hoffers, hmore⟩ :=
      hfaithful.browsed hoffers hsolver hbrowses.structured hbrowsed
    obtain ⟨hrenumbered, hoffers⟩ := hfaithful.renumber hoffers (hbrowses.browsed hbrowsed)
      (hshows.mono (hgrown.trans hmore)) hthere
    exact ⟨hrenumbered.recorded_nil, hoffers⟩

/-- A model that was loaded settles what its session goes by. -/
theorem faithful_of_modelLoaded (hsolver : solver.Plain)
    (hprofile : profile.settings.vocabulary = solver.vocabulary) {text : String}
    (hkeeps : (Command.loadModel text).KeepsTo solver.vocabulary)
    (hloaded : x.ModelLoaded solver profile text y) :
    ∃ model, y.Faithful solver model ∧ y.Offers solver model := by
  obtain ⟨hown, hmodel, hanswers, hchain, hstops⟩ := hloaded
  rename_i own model solution schema chain scopes shown
  have hvocabulary : own.getD profile.settings.vocabulary = solver.vocabulary := by
    rw [hprofile]
    exact hkeeps.1 own hown
  rw [hvocabulary] at hmodel hanswers hstops ⊢
  obtain ⟨hread, -, hdecoded⟩ := id hanswers
  have horigins : solver.origins model = _ := ExplicitSolver.origins_eq hread
  have hstarts := horigins.symm
  obtain ⟨hschema, leg, first, rest, rfl, hfollows⟩ :=
    ExplicitSolver.follows_of_chain hsolver.system hsolver.stateSig rfl hdecoded
  have halike := Store.alike_recordTo (List.range' 1 (first :: rest).length)
    ((Store.empty (some solver.vocabulary.transitionField)).grow none (first :: rest))
    (List.range' 1 (first :: rest).length)
  have hstates : (Store.rooted solver.vocabulary.transitionField (first :: rest)).states =
      first :: rest := halike.states.trans (Store.states_grow _ _ _)
  obtain ⟨hids, hshows⟩ := Store.of_stops_eq_ok hstops
  have hwalk : Walk.empty.extend shown = ⟨shown, shown.length, shown.length - 1⟩ := by
    refine Walk.extend_eq _ ?_
    rintro rfl
    cases hids
  have hanchor : Explore.anchor? (Walk.empty.extend shown) = none := by
    rw [hwalk, anchor?_eq_getLast?, Walk.stops_rollback, Nat.sub_self]
    rfl
  have hexpects : ∀ state ∈ first :: rest, solver.Expects model state := by
    rintro state (_ | ⟨_, hstate⟩)
    · exact hfollows.expects_first hstarts
    · exact hfollows.expects model state hstate
  refine ⟨model, ⟨rfl, hschema, hkeeps.1 own hown, rfl,
    Model.stands_init hsolver.initPredicate hmodel, hkeeps.2 model hmodel,
    ⟨_, _, first, rest, hanswers, by rw [hstates]; rfl⟩, ?_, fun stop hstop => ?_⟩, fun s hs => ?_⟩
  · exact ((Store.charted_empty solver model _).grow (Store.shaped_empty _) hexpects
      hfollows.declared (by simp)).alike halike
  · rw [hwalk] at hstop
    exact hshows stop hstop
  · obtain rfl := List.mem_singleton.1 hs
    refine ⟨_, rfl, fun anchor h => ?_, fun _ => hstarts⟩
    rw [hanchor] at h
    cases h

/-! ### Every change -/

/-- Whatever changes without a model or a trace being loaded, the model is still gone by. -/
theorem Faithful.change (h : x.Faithful solver model) (hoffers : x.Offers solver model)
    (hstructured : x.Structured) (hsolver : solver.Plain)
    (hprofile : profile.settings.vocabulary = solver.vocabulary) {command : Command}
    (hmodel : ∀ text, command ≠ .loadModel text) (htrace : ∀ trace, command ≠ .loadTrace trace)
    (hchange : x.Change solver profile command y) :
    y.Faithful solver model ∧ y.Offers solver model := by
  cases hchange with
  | model _ => exact absurd rfl (hmodel _)
  | trace _ => exact absurd rfl (htrace _)
  | replay hreplayed =>
    obtain ⟨hreplaying⟩ := hreplayed
    exact Bool.noConfusion (h.exploring.symm.trans hreplaying)
  | extend hexploring hextended =>
    obtain ⟨hfaithful, hoffers, -⟩ := h.extended hsolver hprofile hstructured.shaped
      (hstructured.cursor hexploring hextended.ready) hextended
    exact ⟨hfaithful, hoffers⟩
  | alternate halternated =>
    obtain ⟨hfaithful, hoffers, -⟩ := h.alternated hoffers hsolver hstructured halternated
    exact ⟨hfaithful, hoffers⟩
  | restart _ hrestarted =>
    obtain ⟨hfaithful, hoffers, -⟩ := h.restarted hprofile hrestarted
    exact ⟨hfaithful, hoffers⟩
  | move _ hmoved => exact h.moved hmoved
  | retrace hretraced => exact h.retraced hsolver hprofile hstructured hretraced
  | breakpoints list =>
    exact ⟨⟨h.model_eq, h.schema_eq, h.vocabulary_eq, h.exploring, h.stands, h.base, h.loaded,
      h.charted, h.shows⟩, hoffers⟩

/-- What is known of an exploration: nothing was explored, a trace is replayed, or it goes by a
model and everything stored and offered comes about in a known way. -/
inductive Traced (solver : ExplicitSolver) (x : Exploration) : Prop
  | untouched (stops_eq : x.walk.stops = []) (nodes_eq : x.store.nodes = [])
  | replaying (replaying : x.replaying = true)
  | faithful {model : Model} (faithful : x.Faithful solver model) (offers : x.Offers solver model)

/-- Where something is shown or stored and no trace is replayed, a model is gone by. -/
theorem Traced.exists_faithful (h : x.Traced solver) (hexploring : x.replaying = false)
    (hready : x.walk.stops ≠ [] ∨ x.store.nodes ≠ []) :
    ∃ model, x.Faithful solver model ∧ x.Offers solver model := by
  cases h with
  | untouched hstops hnodes =>
    rcases hready with hne | hne
    · exact absurd hstops hne
    · exact absurd hnodes hne
  | replaying hreplaying => exact Bool.noConfusion (hexploring.symm.trans hreplaying)
  | faithful hfaithful hoffers => exact ⟨_, hfaithful, hoffers⟩

/-- Every change that keeps to the vocabulary of the solver keeps what is known. -/
theorem Traced.change (h : x.Traced solver) (hstructured : x.Structured) (hsolver : solver.Plain)
    (hprofile : profile.settings.vocabulary = solver.vocabulary) {command : Command}
    (hkeeps : command.KeepsTo solver.vocabulary)
    (hchange : x.Change solver profile command y) : y.Traced solver := by
  have hfaithful (hexploring : x.replaying = false)
      (hready : x.walk.stops ≠ [] ∨ x.store.nodes ≠ [])
      (hchange : x.Change solver profile .reset y) : y.Traced solver := by
    obtain ⟨model, hfaithful, hoffers⟩ := h.exists_faithful hexploring hready
    obtain ⟨hfaithful, hoffers⟩ :=
      hfaithful.change hoffers hstructured hsolver hprofile (by simp) (by simp) hchange
    exact .faithful hfaithful hoffers
  cases hchange with
  | model hloaded =>
    obtain ⟨model, hfaithful, hoffers⟩ :=
      faithful_of_modelLoaded hsolver hprofile hkeeps hloaded
    exact .faithful hfaithful hoffers
  | trace hloaded =>
    obtain ⟨-, -, -⟩ := hloaded
    exact .replaying rfl
  | replay hreplayed =>
    obtain ⟨hreplaying⟩ := hreplayed
    exact .replaying hreplaying
  | extend hexploring hextended =>
    exact hfaithful hexploring (.inl hextended.ready) (.extend hexploring hextended)
  | alternate halternated =>
    obtain ⟨hready, hsame⟩ := halternated.replaying_eq
    cases hexploring : x.replaying with
    | true => exact .replaying (hsame.trans hexploring)
    | false => exact hfaithful hexploring (.inl hready) (.alternate halternated)
  | restart hexploring hrestarted =>
    have hready : x.walk.stops ≠ [] := by
      obtain ⟨hready, -, -⟩ := hrestarted
      exact hready
    exact hfaithful hexploring (.inl hready) (.restart hexploring hrestarted)
  | move hexploring hmoved =>
    have hstored : x.store.nodes ≠ [] := by
      obtain ⟨hnode, -, -⟩ := hmoved
      rintro hnil
      simp [Store.node?, hnil] at hnode
    exact hfaithful hexploring (.inr hstored) (.move hexploring hmoved)
  | retrace hretraced =>
    cases hexploring : x.replaying with
    | true => exact .replaying (hretraced.replaying_eq.trans hexploring)
    | false =>
      have hready : x.walk.stops ≠ [] := by
        obtain ⟨htarget, -, -, -⟩ := hretraced
        rintro hnil
        simp [hnil] at htarget
      exact hfaithful hexploring (.inl hready) (.retrace hretraced)
  | breakpoints list =>
    cases h with
    | untouched hstops hnodes => exact .untouched hstops hnodes
    | replaying hreplaying => exact .replaying hreplaying
    | faithful h hoffers =>
      exact .faithful ⟨h.model_eq, h.schema_eq, h.vocabulary_eq, h.exploring, h.stands, h.base,
        h.loaded, h.charted, h.shows⟩ hoffers

end Exploration

end StateExplorer
