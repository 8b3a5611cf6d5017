import StateExplorer.Proofs.Session.Showing
import StateExplorer.Proofs.Session.Truncation
import StateExplorer.Proofs.Solution.Json
import StateExplorer.Proofs.Solution.Scopes

/-!
# An exported walk is replayed

Every state that a session stores or shows has exactly the fields of the session, since it was decoded
from an answer over them or came with a trace that declares them. So the document that a walk is
exported as tells all that its states hold, and decodes to these states again where values survive
being written into tuples. A session writes under the signature in effect but reads under that of its
settings: a model that brings another signature along exports a trace that its own session refuses.
-/

namespace StateExplorer

namespace Exploration

variable {solver : ExplicitSolver} {profile : Profile} {x y z : Exploration}

/-- Whether the states that are stored or shown, and those that alternatives tell, have exactly the
fields of an exploration, which are those of the system while a model is explored. -/
structure Aligned (solver : ExplicitSolver) (x : Exploration) : Prop where
  stored : ∀ state ∈ x.store.states, state.Over x.schema
  shown : ∀ stop ∈ x.walk.stops, stop.state.Over x.schema
  told : ∀ s ∈ x.alternatives.shown, s.document.fields = x.schema
  modelled : ∀ model, x.model = some model → x.schema = solver.system.fields

/-- There are no states before anything is loaded. -/
theorem aligned_empty (solver : ExplicitSolver) : Aligned solver .empty where
  stored state hstate := by cases hstate
  shown stop hstop := by cases hstop
  told s hs := by cases hs
  modelled model hmodel := by cases hmodel

/-- A stop that shows a stored state has the fields of the exploration. -/
theorem Aligned.over_of_shows (h : x.Aligned solver) {stop : Stop} (hshows : x.store.Shows stop) :
    stop.state.Over x.schema :=
  h.stored _ (List.mem_of_getElem? hshows.2)

/-- Another walk among such states, with whatever such alternatives. -/
theorem Aligned.withWalk (h : x.Aligned solver) {walk : Walk} {alternatives : Alternatives}
    (hshown : ∀ stop ∈ walk.stops, stop.state.Over x.schema)
    (htold : ∀ s ∈ alternatives.shown, s.document.fields = x.schema) :
    ({ x with walk := walk, alternatives := alternatives } : Exploration).Aligned solver :=
  ⟨h.stored, hshown, htold, h.modelled⟩

/-- The chain of an answer is over the fields of the system. -/
theorem Answers.aligned {vocabulary : Vocabulary} {query : Query} {solution : Solution}
    {schema : Schema} {chain : List State}
    (h : Answers solver vocabulary query solution schema chain) :
    solution.document.fields = solver.system.fields ∧ schema = solver.system.fields ∧
      ∀ state ∈ chain, state.Over solver.system.fields := by
  obtain ⟨-, -, hchain⟩ := h
  obtain ⟨-, rfl, -⟩ := Solution.of_chain_eq_ok hchain
  exact ⟨rfl, rfl, Solution.over_of_chain hchain⟩

/-- A chain over the fields of an exploration can be attached. -/
theorem Aligned.attaches (h : x.Aligned solver) {parent : Option Nat} {chain : List State}
    {kept : Walk} {alternatives : Alternatives} (hattaches : x.Attaches parent chain kept alternatives y)
    (hkept : kept.rollback.stops ⊆ x.walk.stops) (hchain : ∀ state ∈ chain, state.Over x.schema)
    (htold : ∀ s ∈ alternatives.shown, s.document.fields = x.schema) : y.Aligned solver := by
  obtain ⟨shown, -, halike, hstops, -, hshows, hrest⟩ := hattaches.exists_shown
  have hstored : ∀ state ∈ y.store.states, state.Over x.schema := by
    intro state hstate
    rw [halike.states, Store.states_grow, List.mem_append] at hstate
    exact hstate.elim (h.stored state) (hchain state)
  rw [hrest]
  refine ⟨hstored, fun stop hstop => ?_, htold, h.modelled⟩
  change stop ∈ y.walk.stops at hstop
  rw [hstops, List.mem_append] at hstop
  rcases hstop with hold | hnew
  · exact h.shown stop (hkept hold)
  · exact hstored _ (List.mem_of_getElem? (hshows stop hnew).2)

/-- An extension is over the same fields. -/
theorem Aligned.extended (h : x.Aligned solver) {goal : Goal} {bound : Nat}
    (hextended : x.Extended solver profile goal bound y) : y.Aligned solver := by
  obtain ⟨hmodel, -, hanswers, -, hattaches⟩ := hextended
  obtain ⟨htold, -, hchain⟩ := hanswers.aligned
  rw [← h.modelled _ hmodel] at htold hchain
  refine h.attaches hattaches (List.Subset.refl _) (fun state hstate => ?_) fun s hs => ?_
  · exact hchain state (List.mem_cons_of_mem _ hstate)
  · rwa [List.mem_singleton.1 hs]

/-- An alternative is over the same fields. -/
theorem Aligned.alternated (h : x.Aligned solver) {reverse : Bool}
    (halternated : x.Alternated profile reverse y) : y.Aligned solver := by
  have hkept : x.walk.rollback.rollback.stops ⊆ x.walk.stops := by
    rw [Walk.stops_rollback_rollback, Walk.stops_rollback]
    exact List.take_subset _ _
  have hturned {solution : Solution} {alternatives : Alternatives} {schema : Schema}
      {chain : List State} (hchosen : Explore.chosen x.alternatives reverse = .ok solution)
      (hturned : Explore.turned solution reverse x.alternatives = .ok alternatives)
      (hchain : solution.chain (x.vocabulary profile.settings).stateSig = .ok (schema, chain)) :
      (∀ state ∈ chain, state.Over x.schema) ∧
        ∀ s ∈ alternatives.shown, s.document.fields = x.schema := by
    obtain ⟨-, -, ⟨s, hs, hsame⟩, htold⟩ := of_turned hchosen hturned
    obtain ⟨-, rfl, -⟩ := Solution.of_chain_eq_ok hchain
    have hover := Solution.over_of_chain hchain
    rw [← hsame, h.told s hs] at hover
    refine ⟨hover, fun t ht => ?_⟩
    obtain ⟨t', ht', hsame'⟩ := htold t ht
    rw [← hsame', h.told t' ht']
  cases halternated with
  | root _ hchosen hturn hchain hattaches =>
    obtain ⟨hover, htold⟩ := hturned hchosen hturn hchain
    exact h.attaches hattaches hkept hover htold
  | tail _ hchosen hturn hchain _ hattaches =>
    obtain ⟨hover, htold⟩ := hturned hchosen hturn hchain
    exact h.attaches hattaches hkept
      (fun state hstate => hover state (List.mem_cons_of_mem _ hstate)) htold

/-- The initial state is over the same fields when it is shown anew. -/
theorem Aligned.restarted (h : x.Aligned solver) (hrestarted : x.Restarted solver profile y) :
    y.Aligned solver := by
  obtain ⟨-, hmodel, hanswers⟩ := hrestarted
  obtain ⟨htold, -, hchain⟩ := hanswers.aligned
  rw [← h.modelled _ hmodel] at htold hchain
  refine h.withWalk (fun stop hstop => ?_) fun s hs => ?_
  · obtain rfl := List.mem_singleton.1 hstop
    exact hchain _ List.mem_cons_self
  · rwa [List.mem_singleton.1 hs]

/-- Stored states are over the same fields when they are shown again. -/
theorem Aligned.moved (h : x.Aligned solver) {id : Nat} (hmoved : x.Moved id y) :
    y.Aligned solver := by
  obtain ⟨-, -, hstops⟩ := hmoved
  obtain ⟨-, hshows⟩ := Store.of_stops_eq_ok hstops
  refine h.withWalk (fun stop hstop => h.over_of_shows (hshows stop hstop)) fun s hs => ?_
  cases hs

/-- States that are found again are over the same fields. -/
theorem Aligned.foundAgain (h : x.Aligned solver) {steps : Nat}
    (hfound : x.FoundAgain solver profile steps y) : y.Aligned solver := by
  cases hfound with
  | replayed hreplayed =>
    obtain ⟨-⟩ := hreplayed
    exact ⟨h.stored, h.shown, h.told, h.modelled⟩
  | restarted _ _ hrestarted => exact h.restarted hrestarted
  | extended _ _ hextended =>
    refine Aligned.extended ?_ hextended
    exact h.withWalk (fun stop hstop => h.shown stop (List.mem_of_mem_take hstop)) h.told

/-- Browsing is among states over the same fields. -/
theorem Aligned.browsed (h : x.Aligned solver)
    (hbrowsed : Relation.ReflTransGen (Alternated profile false) x y) : y.Aligned solver := by
  induction hbrowsed with
  | refl => exact h
  | tail _ halternated ih => exact ih.alternated halternated

/-- A state that was found anew is over the same fields under its old number. -/
theorem Aligned.retraced (h : x.Aligned solver) {steps : Nat}
    (hretraced : x.Retraced solver profile steps y) : y.Aligned solver := by
  obtain ⟨-, hfound, hbrowsed, -⟩ := hretraced
  rename_i y z target
  have hz := (h.foundAgain hfound).browsed hbrowsed
  have halike := (Store.alike_recordTo (z.walk.renumber target.id).ids z.store []).trans
    (Store.alike_recordCursor (z.walk.renumber target.id) _)
  refine ⟨fun state hstate => ?_, fun stop hstop => ?_, hz.told, hz.modelled⟩
  · exact hz.stored state (halike.states ▸ hstate)
  · rcases Walk.of_mem_renumber hstop with hold | ⟨current, hcurrent, rfl⟩
    · exact hz.shown stop hold
    · exact hz.shown current (List.mem_of_getElem? hcurrent)

/-- A model that was loaded is explored over the fields of the system. -/
theorem aligned_of_modelLoaded {text : String} (hloaded : x.ModelLoaded solver profile text y) :
    y.Aligned solver := by
  have hshows := (truthful_of_modelLoaded hloaded).shows
  obtain ⟨-, -, hanswers, -, -⟩ := hloaded
  rename_i own model solution schema chain scopes shown
  obtain ⟨htold, rfl, hchain⟩ := hanswers.aligned
  rw [← Store.states_rooted (own.getD profile.settings.vocabulary).transitionField chain] at hchain
  refine ⟨hchain, fun stop hstop => ?_, fun s hs => ?_, fun _ _ => rfl⟩
  · exact hchain _ (List.mem_of_getElem? (hshows stop hstop).2)
  · rwa [List.mem_singleton.1 hs]

/-- A trace that was loaded is replayed over the fields that it declares. -/
theorem aligned_of_traceLoaded {trace : Document} (hloaded : x.TraceLoaded profile trace y) :
    y.Aligned solver := by
  have htruthful : y.Truthful solver profile := truthful_of_traceLoaded hloaded
  obtain ⟨hchain, -, -⟩ := hloaded
  rename_i schema chain scopes shown
  have hover := Solution.over_of_chain hchain
  rw [← Store.states_rooted profile.settings.vocabulary.transitionField chain] at hover
  refine ⟨hover, fun stop hstop => ?_, fun s hs => ?_, fun model hmodel => ?_⟩
  · exact hover _ (List.mem_of_getElem? (htruthful.shows stop hstop).2)
  · cases hs
  · cases hmodel

/-- Every change leads to states over the fields of the exploration. -/
theorem Aligned.change (h : x.Aligned solver) {command : Command}
    (hchange : x.Change solver profile command y) : y.Aligned solver := by
  cases hchange with
  | model hloaded => exact aligned_of_modelLoaded hloaded
  | trace hloaded => exact aligned_of_traceLoaded hloaded
  | replay hreplayed =>
    obtain ⟨-⟩ := hreplayed
    exact ⟨h.stored, h.shown, h.told, h.modelled⟩
  | extend _ hextended => exact h.extended hextended
  | alternate halternated => exact h.alternated halternated
  | restart _ hrestarted => exact h.restarted hrestarted
  | move _ hmoved => exact h.moved hmoved
  | retrace hretraced => exact h.retraced hretraced
  | breakpoints list => exact ⟨h.stored, h.shown, h.told, h.modelled⟩

end Exploration

/-! ### Loading a trace -/

/-- A trace whose first instance is decoded to some states is loaded, and shows these states from
the first one on. -/
theorem Explore.run_loadTrace {σ : Type} {profile : Profile} {trace : Document} {schema : Schema}
    {chain : List State}
    (hchain : trace.first.chain profile.settings.vocabulary.stateSig = .ok (schema, chain))
    (hne : chain ≠ []) (x : Exploration) (s : σ) :
    ∃ y, (Explore.loadTrace trace profile).run x s = (.ok (), y, s) ∧ y.schema = schema ∧
      y.Replays chain.length ∧ y.walk.cursor = 0 ∧ y.walk.stops.map (·.state) = chain := by
  obtain ⟨-, -, i, hi, -⟩ := Solution.of_chain_eq_ok hchain
  have hsatisfiable : trace.first.satisfiable = true :=
    decide_eq_true (List.getElem?_eq_some_iff.1 hi).1
  have hscopes := Solution.scopes_eq_ok hi profile.settings.vocabulary.extraAtoms
  have hstored := Store.storeOf_eq_ok profile.settings.vocabulary.transitionField hne
  obtain ⟨shown, hshown⟩ : ∃ shown,
      (Store.rooted profile.settings.vocabulary.transitionField chain).stops
        (List.range' 1 chain.length) = .ok shown := by
    refine Store.exists_stops fun id hid => ?_
    rw [List.mem_range'_1] at hid
    rw [Store.Has, ← Store.length_states, Store.states_rooted]
    omega
  obtain ⟨y, hrun, hschema⟩ : ∃ y, (Explore.loadTrace trace profile).run x s = (.ok (), y, s) ∧
      y.schema = schema := by
    simp only [Explore.loadTrace, Op.run_bind, Op.run_require, hsatisfiable, if_true,
      Op.run_ofExcept, hchain, hscopes, hstored, hshown, Except.mapError, Op.run_update]
    exact ⟨_, rfl, rfl⟩
  obtain ⟨schema', chain', hsame, hreplays, hcursor, hstates⟩ :=
    (Explore.traceLoaded_of_ok hrun).1.replays
  obtain ⟨-, rfl⟩ := Prod.mk.inj (Except.ok.inj (hchain.symm.trans hsame))
  exact ⟨y, hrun, hschema, hreplays, hcursor, hstates⟩

/-- A trace under another signature than that of the settings is refused. -/
theorem Explore.run_loadTrace_of_ne {σ : Type} {profile : Profile} {trace : Document}
    (hne : trace.instances ≠ [])
    (hother : trace.stateSig ≠ profile.settings.vocabulary.stateSig) (x : Exploration) (s : σ) :
    (Explore.loadTrace trace profile).run x s =
      (.error (.ofDecode (.unknownSignature profile.settings.vocabulary.stateSig)), x, s) := by
  have hsatisfiable : trace.first.satisfiable = true :=
    decide_eq_true (List.length_pos_iff.2 hne)
  have hdocument : ¬trace.first.document.stateSig = profile.settings.vocabulary.stateSig := hother
  have hchain : trace.first.chain profile.settings.vocabulary.stateSig =
      .error (.unknownSignature profile.settings.vocabulary.stateSig) := by
    rw [Solution.chain, Solution.fields, if_neg hdocument]
    rfl
  simp only [Explore.loadTrace, Op.run_bind, Op.run_require, hsatisfiable, if_true,
    Op.run_ofExcept, hchain, Except.mapError]

namespace Session

variable {σ : Type} {session : Session σ}

/-- Whether a session, when it loads a trace, replays from the first one on the very states that it
shows, under the numbers from one on and over the same fields. -/
structure Reloads [Solver σ] (session : Session σ) (trace : Document) : Prop where
  loads : (session.exec (.loadTrace trace)).1 = .ok .done
  states_eq : (session.exec (.loadTrace trace)).2.exploration.walk.stops.map (·.state) =
    session.exploration.walk.stops.map (·.state)
  ids_eq : (session.exec (.loadTrace trace)).2.exploration.walk.ids =
    List.range' 1 session.exploration.walk.stops.length
  schema_eq : (session.exec (.loadTrace trace)).2.exploration.schema = session.exploration.schema
  cursor_eq : (session.exec (.loadTrace trace)).2.exploration.walk.cursor = 0
  replaying_eq : (session.exec (.loadTrace trace)).2.exploration.replaying = true

/-- Whether a session shows states that survive being written as a trace: no field is declared twice,
the columns of their values have no blanks around them and no marks of atoms in them, and as many
states are shown as can be counted in a word, which holds the arities of the fields as well. -/
structure Writable (session : Session σ) : Prop where
  ready : session.exploration.walk.stops ≠ []
  distinct : session.exploration.schema.names.Nodup
  clean : ∀ stop ∈ session.exploration.walk.stops, ∀ entry ∈ stop.state.fields.entries,
    ∀ v ∈ entry.2, ∀ column ∈ Text.columns v.toList,
      Text.trim column = column ∧ ¬Tuple.atomMark <:+: column
  length_le : session.exploration.walk.stops.length ≤ Text.maxWord
  arity_le : ∀ field ∈ session.exploration.schema, field.arity ≤ Text.maxWord

instance (session : Session σ) : Decidable session.Writable :=
  decidable_of_iff (session.exploration.walk.stops ≠ [] ∧
      session.exploration.schema.names.Nodup ∧
      (∀ stop ∈ session.exploration.walk.stops, ∀ entry ∈ stop.state.fields.entries,
        ∀ v ∈ entry.2, ∀ column ∈ Text.columns v.toList,
          Text.trim column = column ∧ ¬Tuple.atomMark <:+: column) ∧
      session.exploration.walk.stops.length ≤ Text.maxWord ∧
      ∀ field ∈ session.exploration.schema, field.arity ≤ Text.maxWord)
    ⟨fun ⟨hready, hdistinct, hclean, hlength, harity⟩ =>
        ⟨hready, hdistinct, hclean, hlength, harity⟩,
      fun h => ⟨h.ready, h.distinct, h.clean, h.length_le, h.arity_le⟩⟩

namespace Writable

/-- The numbers in the trace of a writable session fit a word. -/
theorem fits (h : session.Writable) (sig : String) :
    (Document.ofChain sig session.exploration.schema
      (session.exploration.walk.stops.map (·.state))).Fits := by
  refine ⟨h.arity_le, fun i hi => ?_⟩
  rw [List.mem_singleton.1 hi]
  change (session.exploration.walk.stops.map (·.state)).length ≤ Text.maxWord
  rw [List.length_map]
  exact h.length_le

/-- The states that a writable session shows are told by its trace, if there is no arrow in the
signature. -/
theorem chain_ofChain (h : session.Writable) {solver : ExplicitSolver}
    (haligned : session.exploration.Aligned solver) {sig : String}
    (harrow : ¬Tuple.arrow <:+: sig.toList) :
    (Document.ofChain sig session.exploration.schema
      (session.exploration.walk.stops.map (·.state))).first.chain sig =
        .ok (session.exploration.schema, session.exploration.walk.stops.map (·.state)) := by
  refine Document.chain_ofChain harrow h.distinct ?_ (fun state hstate => ?_)
    fun state hstate field values hvalues v hv => ?_
  · rw [List.length_map]
    exact h.length_le
  · obtain ⟨stop, hstop, rfl⟩ := List.mem_map.1 hstate
    exact haligned.shown stop hstop
  · obtain ⟨stop, hstop, rfl⟩ := List.mem_map.1 hstate
    exact Tuple.readBack_eq_self
      (h.clean stop hstop (field, values) (NameMap.mem_entries_iff.2 hvalues) v hv)

end Writable

/-- A trace that tells the states that are shown is loaded and shows them again. -/
theorem reloads_of_chain [Solver σ] {trace : Document}
    (hready : session.exploration.walk.stops ≠ [])
    (hchain : trace.first.chain session.profile.settings.vocabulary.stateSig =
      .ok (session.exploration.schema, session.exploration.walk.stops.map (·.state))) :
    session.Reloads trace := by
  obtain ⟨y, hrun, hschema, hreplays, hcursor, hshown⟩ := Explore.run_loadTrace hchain
    (by simpa using hready) session.exploration session.solver
  rw [List.length_map] at hreplays
  have hexec : session.exec (.loadTrace trace) =
      (.ok .done, { session with exploration := y }) := perform_eq_ok hrun
  constructor <;> rw [hexec]
  · exact hshown
  · exact hreplays.ids_eq
  · exact hschema
  · exact hcursor
  · exact hreplays.replaying

/-- The trace that a session with something loaded is exported as tells the states that it shows. -/
theorem exportTrace_eq_ok (h : session.exploration.walk.stops ≠ []) :
    session.exportTrace = .ok (.ofChain session.vocabulary.stateSig session.exploration.schema
      (session.exploration.walk.stops.map (·.state))) := by
  rw [exportTrace, List.isEmpty_eq_false_iff.2 h]
  rfl

/-- Where the signature in effect is not that of the settings, an exported trace is refused. -/
theorem exec_exported_of_ne [Solver σ]
    (hother : session.vocabulary.stateSig ≠ session.profile.settings.vocabulary.stateSig)
    (schema : Schema) (chain : List State) :
    session.exec (.loadTrace (.ofChain session.vocabulary.stateSig schema chain)) =
      (.error (.ofDecode (.unknownSignature session.profile.settings.vocabulary.stateSig)),
        session) :=
  run_eq_error (Explore.run_loadTrace_of_ne (List.cons_ne_nil _ _) hother _ _)

/-- In every run of a session, each state that it shows has exactly the fields of the session. -/
theorem execAll_aligned (solver : ExplicitSolver) (profile : Profile) (commands : List Command) :
    (execAll (.start solver profile) commands).exploration.Aligned solver :=
  (execAll_induction (Q := fun _ => True) trivial (fun _ _ _ _ => trivial)
    (Exploration.aligned_empty solver) fun _ _ _ _ _ _ h hchange => h.change hchange).1

/-- Exporting and loading a trace are inverse where the signature in effect is that of the settings
and no arrow is in it. Whatever was done in a session over a transition system, be it that a model or
a trace was loaded, the walk is exported if its states can be written, and the trace comes back from
its JSON text. The same session loads it and shows the same states again, unless the model brought
another signature along or there is an arrow in the signature; under another signature the trace is
refused. -/
theorem execAll_exports (solver : ExplicitSolver) (profile : Profile) (commands : List Command)
    {session : Session ExplicitSolver} (hsession : execAll (.start solver profile) commands = session)
    (h : session.Writable) :
    ∃ trace, session.exportTrace = .ok trace ∧ Document.ofJson? trace.toJson = some trace ∧
      (session.vocabulary.stateSig = session.profile.settings.vocabulary.stateSig →
        ¬Tuple.arrow <:+: session.vocabulary.stateSig.toList → session.Reloads trace) ∧
      (session.vocabulary.stateSig ≠ session.profile.settings.vocabulary.stateSig →
        session.exec (.loadTrace trace) = (.error (.ofDecode
          (.unknownSignature session.profile.settings.vocabulary.stateSig)), session)) := by
  have haligned := execAll_aligned solver profile commands
  rw [hsession] at haligned
  refine ⟨_, exportTrace_eq_ok h.ready, Document.ofJson?_toJson (h.fits _),
    fun hsame harrow => ?_, fun hother => exec_exported_of_ne hother _ _⟩
  rw [hsame] at harrow ⊢
  exact reloads_of_chain h.ready (h.chain_ofChain haligned harrow)

/-- The third state of the traffic light is exported with the two before it and loaded again. -/
theorem execAll_exports_traffic :
    thirdLight.Writable ∧ ∃ trace, thirdLight.exportTrace = .ok trace ∧
      Document.ofJson? trace.toJson = some trace ∧ thirdLight.Reloads trace := by
  obtain ⟨hwritable, hsame, harrow⟩ : thirdLight.Writable ∧
      thirdLight.vocabulary.stateSig = thirdLight.profile.settings.vocabulary.stateSig ∧
      ¬Tuple.arrow <:+: thirdLight.vocabulary.stateSig.toList := by
    decide +kernel
  have hsession : execAll (.start trafficSolver ⟨.default, .plain⟩)
      [.loadModel emptyModel, .step 2 []] = thirdLight := rfl
  obtain ⟨trace, hexport, hjson, hreloads, -⟩ :=
    execAll_exports trafficSolver ⟨.default, .plain⟩ _ hsession hwritable
  exact ⟨hwritable, trace, hexport, hjson, hreloads hsame harrow⟩

/-- The usual vocabulary with nodes for states. -/
def nodes : Vocabulary :=
  { Vocabulary.default with stateSig := "Node" }

/-- A model that brings this vocabulary along. -/
def nodeModel : String :=
  "pred init\x7b\x7d pred next\x7b\x7d BEGIN_TRELLIS_CONF state_sig=\"Node\" END_TRELLIS_CONF"

/-- A session of the usual settings that loaded the model with nodes. -/
def nodeLight : Session ExplicitSolver :=
  execAll (.start { trafficSolver with vocabulary := nodes } ⟨.default, .plain⟩) [.loadModel nodeModel]

/-- The usual vocabulary with an arrow in the state signature. -/
def pointing : Vocabulary :=
  { Vocabulary.default with stateSig := "S->t" }

/-- A session that replays a trace of one red light under that vocabulary. -/
def pointedLight : Session ExplicitSolver :=
  execAll (.start { trafficSolver with vocabulary := pointing }
    ⟨{ Settings.default with vocabulary := pointing }, .plain⟩)
    [.loadTrace ⟨"S->t", [⟨"light", 1⟩], [⟨1, .ofList [("light", ["x$0->Red$0"])], .empty⟩]⟩]

/-- A session whose model brought another signature along does not load the trace that it exported;
nor does one with an arrow in its signature. -/
theorem not_reloads_renamed :
    (nodeLight.Writable ∧ ∃ trace, nodeLight.exportTrace = .ok trace ∧ ¬nodeLight.Reloads trace) ∧
      pointedLight.Writable ∧
        ∃ trace, pointedLight.exportTrace = .ok trace ∧ ¬pointedLight.Reloads trace := by
  obtain ⟨hnode, hother⟩ : nodeLight.Writable ∧
      nodeLight.vocabulary.stateSig ≠ nodeLight.profile.settings.vocabulary.stateSig := by
    decide +kernel
  have hpointed : pointedLight.Writable := by decide +kernel
  have hrefused : (pointedLight.exec (.loadTrace (.ofChain pointedLight.vocabulary.stateSig
      pointedLight.exploration.schema
      (pointedLight.exploration.walk.stops.map (·.state))))).1 ≠ .ok .done := by
    decide +kernel
  refine ⟨⟨hnode, _, exportTrace_eq_ok hnode.ready, fun h => ?_⟩, hpointed, _,
    exportTrace_eq_ok hpointed.ready, fun h => hrefused h.loads⟩
  have hloads := h.loads
  rw [exec_exported_of_ne hother] at hloads
  cases hloads

end Session

end StateExplorer
