import StateExplorer.Proofs.Session.Origination
import StateExplorer.Proofs.Session.Searching
import StateExplorer.Proofs.Session.Showing

/-!
# Going back is always possible

Going back finds a state of the walk anew and shows it under its old number: from the initial query
if the walk begins with it, and otherwise by a step from the state before it, which is asked for by
its constraint. The answer has an instance for the wanted state, since the state is that of an
origin, or was entered by a declared transition and the constraint speaks for the state before it.
So the search among the instances ends where it should. The first step must be free and what the
model prescribes for the transition field must be plain; going back can get stuck otherwise, as two
small systems show.
-/

namespace StateExplorer

/-! ### What is wanted is found -/

namespace Exploration

variable {solver : ExplicitSolver} {model : Model} {profile : Profile} {x y z : Exploration}
  {wanted : State}

/-- Whether showing further alternatives leads to a state: one of the instances that are on show or
still to come is told as this state. -/
structure Promises (solver : ExplicitSolver) (profile : Profile) (wanted : State) (x : Exploration) :
    Prop where
  structured : x.Structured
  exploring : x.replaying = false
  ready : x.walk.stops ≠ []
  depth_pos : 0 < x.alternatives.depth
  ahead : ∃ document index schema chain,
    x.Browsable solver (x.vocabulary profile.settings).stateSig document ∧
      x.alternatives.depth ≤ index + 1 ∧
      (⟨document, index⟩ : Solution).chain (x.vocabulary profile.settings).stateSig =
        .ok (schema, chain) ∧ shownOf chain = [wanted]

/-- Where the tail shows one state only, it is the current one. -/
theorem Structured.isElsewhere_eq_false (h : x.Structured) (hexploring : x.replaying = false)
    (htail : x.walk.tail.map (·.state) = [wanted]) : Explore.isElsewhere wanted x = false := by
  obtain ⟨stop, hstop, rfl⟩ := List.map_eq_singleton_iff.1 htail
  have hcurrent : x.walk.current? = some stop := by
    rw [h.current?_eq hexploring, ← x.walk.rollback_append_tail, hstop, List.getLast?_concat]
  simp [Explore.isElsewhere, hcurrent]

/-- Unless the state is there, another alternative can be shown, and still leads to it. -/
theorem Promises.alternate (h : x.Promises solver profile wanted)
    (hsig : ¬Tuple.arrow <:+: solver.vocabulary.stateSig.toList)
    (hthere : Explore.isElsewhere wanted x = true) :
    ∃ y, (Explore.alternate false profile).run x solver = (.ok (), y, solver) ∧
      y.Promises solver profile wanted := by
  obtain ⟨document, index, schema, chain, hbrowsable, hdepth, hchain, hshown⟩ := h.ahead
  have hindex : index < document.instances.length := by
    obtain ⟨-, -, i, hi, -⟩ := Solution.of_chain_eq_ok hchain
    exact (List.getElem?_eq_some_iff.1 hi).1
  -- If the instance were the last one on show, its state would be the current one.
  have hmore : x.alternatives.depth ≠ index + 1 := by
    intro hlast
    obtain ⟨schema', chain', hchain', hstates⟩ := hbrowsable.tail_eq
    rw [hlast, Nat.add_sub_cancel, hchain] at hchain'
    obtain ⟨-, rfl⟩ := Prod.mk.inj (Except.ok.inj hchain')
    rw [h.structured.isElsewhere_eq_false h.exploring (hstates.trans hshown)] at hthere
    cases hthere
  have hcan : canTurn document.instances.length x.alternatives.depth false = true := by
    simp only [canTurn, Bool.false_eq_true, if_false, decide_eq_true_eq]
    omega
  obtain ⟨y, hrun⟩ :=
    hbrowsable.run_alternate h.structured hsig h.depth_pos h.ready hcan solver
  have halternated := Explore.of_alternate_ok hrun
  obtain ⟨hnext, -, hturns, hown⟩ := hbrowsable.alternated h.depth_pos halternated
  have hsame : y.vocabulary profile.settings = x.vocabulary profile.settings := by
    rw [vocabulary, hown, vocabulary]
  have hturned : y.alternatives.depth = x.alternatives.depth + 1 := hturns.depth
  refine ⟨y, hrun, ⟨h.structured.alternated halternated,
    halternated.replaying_eq.2.trans h.exploring, ?_, by omega, document, index, schema, chain, hnext,
    by omega, ?_, hshown⟩⟩
  · rw [← List.length_pos_iff, hturns.length, List.length_pos_iff]
    exact h.ready
  · rw [hsame]
    exact hchain

/-- Browsing for the state never gets stuck. -/
theorem Promises.seek (h : x.Promises solver profile wanted)
    (hsig : ¬Tuple.arrow <:+: solver.vocabulary.stateSig.toList) (turns : Nat) :
    ∃ y, (Explore.seek wanted profile turns).run x solver = (.ok (), y, solver) := by
  induction turns generalizing x with
  | zero => exact ⟨x, rfl⟩
  | succ turns ih =>
    rw [Explore.seek]
    simp only [Op.run_get_bind]
    cases hthere : Explore.isElsewhere wanted x with
    | false => exact ⟨x, rfl⟩
    | true =>
      obtain ⟨y, hrun, hpromises⟩ := h.alternate hsig hthere
      obtain ⟨z, hseek⟩ := ih hpromises
      exact ⟨z, by simp only [if_true, Op.run_bind, hrun, hseek]⟩

/-- The wanted stop is shown in place of the one state that was found. -/
theorem Promises.settle {target : Stop} (h : x.Promises solver profile target.state)
    (hsig : ¬Tuple.arrow <:+: solver.vocabulary.stateSig.toList) {old : Store} {kept : List Stop}
    (hbrowses : Browses old kept x) (hids : old.Descends (kept.map (·.id) ++ [target.id])) :
    ∃ y, (Explore.settle target profile).run x solver = (.ok (), y, solver) ∧
      y.walk.stops = kept ++ [target] := by
  obtain ⟨z, hseek⟩ := h.seek hsig (Explore.left x + 1)
  obtain ⟨hbrowsed, hthere⟩ := Explore.of_seek_ok (Nat.lt_succ_self _) hseek
  have hz := hbrowses.browsed hbrowsed
  have hrenumbered := hz.renumber hids
  refine ⟨recorded { z with walk := z.walk.renumber target.id } [], ?_,
    congrArg Walk.stops (hz.renumber_eq hthere)⟩
  have hhas : ∀ stop ∈ (z.walk.renumber target.id).current?, z.store.Has stop.id :=
    fun stop hstop => hrenumbered.has (List.mem_of_getElem? hstop)
  have hrecord : (Explore.recordRoutes []).run { z with walk := z.walk.renumber target.id } solver =
      (.ok (), recorded { z with walk := z.walk.renumber target.id } [], solver) :=
    Explore.run_recordRoutes (by simp) hhas solver
  have hseek' : (Explore.seek target.state profile
      ((x.alternatives.top?.map Solution.remaining).getD 0 + 1)).run x solver =
        (.ok (), z, solver) := hseek
  rw [Explore.settle]
  simp only [Op.run_get_bind]
  rw [Op.run_bind, hseek']
  simp only [Op.run_bind, Op.run_update]
  exact hrecord

end Exploration

/-! ### What is found again -/

/-- Where a walk retreats, the stop that lies so many steps back is the current one. -/
theorem Walk.current?_retreat {walk : Walk} {steps : Nat} {stop : Stop}
    (h : walk.stops[walk.cursor - steps]? = some stop) :
    (walk.retreat steps false).current? = some stop := by
  simp only [retreat, current?, Bool.false_eq_true, if_false]
  rw [List.getElem?_take_of_lt (Nat.lt_succ_self _), h]

/-- Tuples carry the sets of a state that suits a system, unless its transition field is odd. -/
theorem State.Suits.carries {schema : Schema} {transitionField : String} {state : State}
    (h : state.Suits schema transitionField)
    (hodd : ¬TransitionSystem.Odd transitionField state.fields) : schema.Carries state.sets := by
  refine ⟨fun name => ?_, fun name values hvalues v hv => ?_⟩
  · rw [State.get?_sets, Option.isSome_map]
    exact h.fields name
  · rw [State.get?_sets] at hvalues
    obtain ⟨own, hown, rfl⟩ := Option.map_eq_some_iff.1 hvalues
    rw [mem_valueSet] at hv
    refine Tuple.readBack_of_isName (Text.isName_of_isPlain ?_)
    by_cases hname : name = transitionField
    · by_contra hplain
      refine hodd ⟨v, ?_, by simpa using hplain⟩
      rw [← hname, show state.fields.get? name = some own from hown]
      exact hv
    · exact h.plain name own hname hown v hv

namespace Explore

variable {solver : ExplicitSolver} {profile : Profile} {x : Exploration} {model : Model}

/-- The initial state is shown anew if the initial query is answered. -/
theorem run_reset {solution : Solution} {schema : Schema} {first : State} {rest : List State}
    (hready : x.walk.stops ≠ []) (hexploring : x.replaying = false) (hmodel : x.model = some model)
    (hanswers : Exploration.Answers solver (x.vocabulary profile.settings) model.initialQuery solution
      schema (first :: rest)) :
    (reset profile).run x solver = (.ok (), { x with
      walk := Walk.empty.extend [⟨1, first⟩]
      alternatives := .only solution }, solver) := by
  obtain ⟨hread, hsatisfiable, hchain⟩ := hanswers
  have hstops : x.walk.stops.isEmpty = false := by simpa using hready
  rw [Model.initialQuery] at hread
  generalize hshown : ({ x with
    walk := Walk.empty.extend [⟨1, first⟩]
    alternatives := .only _ } : Exploration) = shown
  rw [reset, Op.run_bind, requireReady, Op.run_get_bind, Op.run_require, hstops]
  simp only [Bool.not_false, if_true, Op.run_get_bind, hexploring, Bool.false_eq_true, if_false]
  rw [Op.run_bind, hmodel, Op.run_ofOption]
  dsimp only
  rw [Op.run_bind, askInitial, Op.run_ask, ExplicitSolver.run_eq, hread]
  dsimp only [Except.mapError, Except.map]
  rw [Op.run_bind, Op.run_require, if_pos hsatisfiable]
  dsimp only
  rw [Op.run_bind, run_chainOf hchain, ← hshown]
  rfl

end Explore

namespace Exploration

variable {solver : ExplicitSolver} {model : Model} {profile : Profile} {x y z : Exploration}

/-- A walk begins at an origin. -/
theorem Based.exists_origin (h : x.Based solver model) {target : Stop}
    (htarget : x.walk.stops[0]? = some target) :
    ∃ leg ∈ solver.origins model, target.state = State.ofFields leg.view := by
  have hstop := List.mem_of_getElem? htarget
  have hdescends := h.structured.walk.resolve_left (List.ne_nil_of_mem hstop)
  obtain ⟨root, hroot, hisRoot⟩ := hdescends.root
  obtain rfl : target.id = root := by
    simpa [Walk.ids, List.head?_eq_getElem?, htarget] using hroot
  obtain ⟨leg, hleg, hstate⟩ := h.originates target.id hisRoot
  exact ⟨leg, hleg, Option.some.inj ((h.faithful.shows target hstop).2.symm.trans hstate)⟩

/-- From the initial state that is shown anew, further alternatives lead to where the walk begins. -/
theorem Based.promises_restarted (h : x.Based solver model) (hsolver : solver.Serves model)
    (hprofile : profile.settings.vocabulary = solver.vocabulary) {target : Stop}
    (htarget : x.walk.stops[0]? = some target) :
    ∃ y, (Explore.reset profile).run x solver = (.ok (), y, solver) ∧
      y.Promises solver profile target.state := by
  obtain ⟨leg, hleg, hstate⟩ := h.exists_origin htarget
  obtain ⟨start, hread, hstarts⟩ := hsolver.initial
  obtain ⟨solution, schema, first, rest, hanswers, -⟩ := h.faithful.loaded
  have hready := List.ne_nil_of_mem (List.mem_of_getElem? htarget)
  have hvocabulary := h.faithful.vocabulary hprofile
  have hrun := Explore.run_reset hready h.faithful.exploring h.faithful.model_eq
    (hvocabulary.symm ▸ hanswers)
  refine ⟨_, hrun, ?_⟩
  have hrestarted : x.Restarted solver profile _ :=
    .intro hready h.faithful.model_eq (hvocabulary.symm ▸ hanswers)
  obtain ⟨hdepth, document, hbrowsable⟩ := hrestarted.browsable hsolver.plain.endsCommand
  obtain rfl := hbrowsable.document_eq rfl
  obtain ⟨hasked, -, -⟩ := hanswers
  obtain rfl := Except.ok.inj (hasked.symm.trans hread)
  -- Every origin has an instance of its own, which tells its state.
  obtain ⟨index, hviews, -⟩ := TransitionSystem.exists_chain_of_mem_starts
    (hsolver.roomy _ _ hread (Nat.zero_le 1)) (hstarts ▸ hleg)
  have hword : 1 ≤ Text.maxWord := by decide
  have hchain := ExplicitSolver.chain_eq hsolver.plain.stateSig hsolver.distinct hviews
    (by simpa using hsolver.carries leg hleg) hword
  rw [← show _ = solver.vocabulary from hvocabulary] at hchain
  refine ⟨(h.structured.restarted h.faithful.exploring hrestarted).1, h.faithful.exploring,
    by simp [Walk.extend], hdepth, _, index, _, _, hbrowsable, Nat.succ_le_succ (Nat.zero_le index),
    hchain, ?_⟩
  rw [hstate]
  rfl

/-- A query that resumes from a stop asks for all chains from where its fields are held. -/
theorem Based.read_resumed (h : x.Based solver model) (hsolver : solver.Serves model)
    {anchor : Stop} (hanchor : anchor ∈ x.walk.stops) :
    solver.read (Query.render solver.vocabulary ⟨model.base, anchor.state.constraint
        solver.system.fields solver.vocabulary.initPredicate solver.vocabulary.stateSig, .path [], 1⟩) =
      .ok (.free (.fixed anchor.state.sets) 1) := by
  have hword : 1 < Text.maxWord := by decide
  have hodd := h.faithful.not_odd hsolver.settles
    (List.mem_of_getElem? (h.faithful.shows anchor hanchor).2)
  exact Problem.read_resumed (.path []) 1 hsolver.vocabulary hsolver.plain.isName_of_mem
    h.faithful.base ((h.faithful.suits hanchor).fits hodd) rfl hword

/-- A step of the walk is among the chains of one transition from the state it leaves. -/
theorem Based.exists_chain (h : x.Based solver model) (hsolver : solver.Serves model) {i : Nat}
    {anchor target : Stop} (hanchor : x.walk.stops[i]? = some anchor)
    (htarget : x.walk.stops[i + 1]? = some target) :
    ∃ next : Leg, target.state = State.ofFields next.view ∧
      solver.system.fields.Carries next.view ∧
      [anchor.state.sets, next.view] ∈
        solver.chains (.free (.fixed anchor.state.sets) 1) := by
  have hstop := List.mem_of_getElem? hanchor
  have hdescends := h.structured.walk.resolve_left (List.ne_nil_of_mem hstop)
  have hlinked : x.store.Linked anchor.id target.id := by
    obtain ⟨hi, hithere⟩ := List.getElem?_eq_some_iff.1 hanchor
    obtain ⟨hj, hjthere⟩ := List.getElem?_eq_some_iff.1 htarget
    have hnext := List.isChain_iff_getElem.1 hdescends.linked i (by simpa [Walk.ids] using hj)
    simpa [Walk.ids, hithere, hjthere] using hnext
  obtain ⟨source, hsource, hcontent, henters⟩ := h.faithful.declared hsolver.plain hsolver.settles
    hlinked (h.faithful.shows anchor hstop).2
    (h.faithful.shows target (List.mem_of_getElem? htarget)).2
  obtain ⟨next, hnext, hholds⟩ := henters.exists_leg solver.wellFormed
  refine ⟨next, ?_, (hsolver.plain.system.sees hnext).carries hsolver.plain.system.relational, ?_⟩
  · rw [← hholds.fields_eq hsolver.distinct, State.ofFields_fields]
  · have hstart : (⟨source, anchor.state.sets⟩ : Leg) ∈ solver.system.starts
        solver.vocabulary.transitionField (.fixed anchor.state.sets) :=
      List.mem_map.2 ⟨source, List.mem_filter.2 ⟨hsource, beq_iff_eq.2 hcontent.sets_eq.symm⟩, rfl⟩
    have hrun : [next] ∈ solver.system.runs solver.vocabulary.transitionField 1 source :=
      List.mem_flatMap.2 ⟨next, hnext, List.mem_singleton_self _⟩
    exact Problem.mem_chains_free
      (hsolver.roomy _ _ (h.read_resumed hsolver hstop) (Nat.le_refl 1)) hstart hrun

/-- An instance that answers the query for a step of the walk tells where the step leads. -/
theorem Based.exists_instance (h : x.Based solver model) (hsolver : solver.Serves model) {i : Nat}
    {anchor target : Stop} (hanchor : x.walk.stops[i]? = some anchor)
    (htarget : x.walk.stops[i + 1]? = some target) :
    ∃ index schema chain, (⟨solver.answer (.free (.fixed anchor.state.sets) 1), index⟩ :
        Solution).chain solver.vocabulary.stateSig = .ok (schema, chain) ∧
      shownOf chain = [target.state] := by
  have hstop := List.mem_of_getElem? hanchor
  obtain ⟨next, hstate, hcarries, hmem⟩ := h.exists_chain hsolver hanchor htarget
  obtain ⟨index, hviews⟩ := List.mem_iff_getElem?.1 hmem
  have hodd := h.faithful.not_odd hsolver.settles
    (List.mem_of_getElem? (h.faithful.shows anchor hstop).2)
  have hword : 2 ≤ Text.maxWord := by decide
  have hchain := ExplicitSolver.chain_eq hsolver.plain.stateSig hsolver.distinct hviews
    (by simpa using ⟨(h.faithful.suits hstop).carries hodd, hcarries⟩) hword
  refine ⟨index, _, _, hchain, ?_⟩
  rw [hstate]
  rfl

/-- From a step that is taken again, further alternatives lead to where the walk went. -/
theorem Based.promises_extended (h : x.Based solver model) (hsolver : solver.Serves model)
    (hprofile : profile.settings.vocabulary = solver.vocabulary) {steps : Nat}
    (hlong : steps < x.walk.cursor) {target : Stop}
    (htarget : x.walk.stops[x.walk.cursor - steps]? = some target) :
    ∃ y, (Explore.step 1 [] profile).run { x with walk := x.walk.retreat (steps + 1) false } solver =
        (.ok (), y, solver) ∧ y.Promises solver profile target.state := by
  have hready := List.ne_nil_of_mem (List.mem_of_getElem? htarget)
  have hvocabulary := h.faithful.vocabulary hprofile
  have hlength := (List.getElem?_eq_some_iff.1 htarget).1
  have hplace : x.walk.cursor - (steps + 1) + 1 = x.walk.cursor - steps := by omega
  -- The stop before the target is the current one after the retreat.
  obtain ⟨anchor, hanchor⟩ : ∃ anchor, x.walk.stops[x.walk.cursor - (steps + 1)]? = some anchor :=
    ⟨_, List.getElem?_eq_getElem (by omega)⟩
  have hstop := List.mem_of_getElem? hanchor
  obtain ⟨index, schema, told, hchain, hshown⟩ :=
    h.exists_instance hsolver hanchor (hplace.symm ▸ htarget)
  have hcurrent := Walk.current?_retreat hanchor
  have hresumes : Resumes profile model { x with walk := x.walk.retreat (steps + 1) false }
      (anchor.state.constraint solver.system.fields solver.vocabulary.initPredicate
        solver.vocabulary.stateSig) := by
    have hmany := h.structured.many (by omega)
    rw [← h.faithful.schema_eq, ← hvocabulary]
    exact .current hmany hcurrent
  have hread := h.read_resumed hsolver hstop
  generalize anchor.state.constraint _ _ _ = text at hresumes hread
  obtain ⟨next, -, -, hmem⟩ := h.exists_chain hsolver hanchor (hplace.symm ▸ htarget)
  obtain ⟨chain, hanswers, htwo⟩ := exists_answers
    (Tuple.not_arrow_of_isName hsolver.plain.stateSig) hread (List.ne_nil_of_mem hmem)
  obtain ⟨first, second, rfl⟩ := List.length_eq_two.1 htwo
  rw [← hvocabulary] at hanswers
  obtain ⟨y, hrun, hattaches⟩ := Explore.exists_run_step
    (x := { x with walk := x.walk.retreat (steps + 1) false }) h.faithful.exploring
    h.faithful.model_eq hresumes hcurrent (h.structured.has hstop) hanswers
  refine ⟨y, hrun, ?_⟩
  have hextended : Extended solver profile (.path []) 1
      { x with walk := x.walk.retreat (steps + 1) false } y :=
    .intro h.faithful.model_eq hresumes hanswers hcurrent hattaches
  obtain ⟨hbrowses, -⟩ := h.foundAgain hsolver hprofile hready
    (.extended h.faithful.exploring hlong hextended)
  obtain ⟨hdepth, document, hbrowsable⟩ := hextended.browsable
  obtain ⟨-, -, -, honly, hown⟩ := hattaches.tail_eq
  obtain rfl := hbrowsable.document_eq honly
  have hsame : y.vocabulary profile.settings = solver.vocabulary := by
    rw [vocabulary, hown]
    exact hvocabulary
  refine ⟨hbrowses.structured, hbrowses.exploring, ?_, hdepth, _, index, schema, told, hbrowsable, ?_,
    hsame ▸ hchain, hshown⟩
  · obtain ⟨shown, hstops⟩ := hbrowses.stops
    simp [hstops]
  · rw [honly]
    exact Nat.succ_le_succ (Nat.zero_le index)

/-- What lies some steps back is found again. -/
theorem Based.findAgain (h : x.Based solver model) (hsolver : solver.Serves model)
    (hprofile : profile.settings.vocabulary = solver.vocabulary) {steps : Nat} {target : Stop}
    (htarget : x.walk.stops[x.walk.cursor - steps]? = some target) :
    ∃ y, (Explore.findAgain steps profile).run x solver = (.ok (), y, solver) ∧
      y.Promises solver profile target.state := by
  rw [Explore.findAgain]
  simp only [Op.run_get_bind]
  by_cases hshort : x.walk.cursor ≤ steps
  · rw [if_pos hshort]
    rw [Nat.sub_eq_zero_of_le hshort] at htarget
    exact h.promises_restarted hsolver hprofile htarget
  · have hretreat : x.walk.retreat (steps + 1) x.replaying = x.walk.retreat (steps + 1) false := by
      rw [h.faithful.exploring]
    rw [if_neg hshort, Op.run_bind, Op.run_set, hretreat]
    exact h.promises_extended hsolver hprofile (by omega) htarget

/-- Going back never gets stuck: the walk then ends at the stop that lies so many steps back. -/
theorem Based.reverseStep (h : x.Based solver model) (hsolver : solver.Serves model)
    (hprofile : profile.settings.vocabulary = solver.vocabulary) {steps : Nat}
    (hready : x.walk.stops ≠ []) (hsteps : steps ≠ 0) :
    ∃ y, (Explore.reverseStep steps profile).run x solver = (.ok (), y, solver) ∧
      y.walk.stops = x.walk.stops.take (x.walk.cursor - steps + 1) := by
  have hcursor := h.structured.cursor h.faithful.exploring hready
  obtain ⟨target, htarget⟩ : ∃ target, x.walk.stops[x.walk.cursor - steps]? = some target :=
    ⟨_, List.getElem?_eq_getElem (by omega)⟩
  obtain ⟨y, hfind, hpromises⟩ := h.findAgain hsolver hprofile htarget
  obtain ⟨hbrowses, -⟩ :=
    h.foundAgain hsolver hprofile hready (Explore.of_findAgain_ok hfind)
  have htake : (x.walk.stops.take (x.walk.cursor - steps)) ++ [target] =
      x.walk.stops.take (x.walk.cursor - steps + 1) := by
    rw [List.take_add_one, htarget]
    rfl
  have hids : x.store.Descends
      ((x.walk.stops.take (x.walk.cursor - steps)).map (·.id) ++ [target.id]) := by
    have hprefix := (h.structured.walk.resolve_left hready).take
      (Nat.succ_ne_zero (x.walk.cursor - steps))
    rwa [Walk.ids, ← List.map_take, Nat.succ_eq_add_one, ← htake, List.map_append] at hprefix
  obtain ⟨z, hsettle, hstops⟩ :=
    hpromises.settle (Tuple.not_arrow_of_isName hsolver.plain.stateSig) hbrowses hids
  have hretrace : (Explore.retrace steps profile).run x solver = (.ok (), z, solver) := by
    rw [Explore.retrace, Op.run_get_bind, htarget, Op.run_bind, Op.run_ofOption]
    dsimp only
    rw [Op.run_bind, hfind]
    exact hsettle
  have hstops' : x.walk.stops.isEmpty = false := by simpa using hready
  refine ⟨z, ?_, hstops.trans htake⟩
  rw [Explore.reverseStep, Op.run_bind, Explore.requireReady, Op.run_get_bind, Op.run_require,
    hstops']
  simp only [Bool.not_false, Op.run_bind, Op.run_require, bne_iff_ne, ne_eq, hsteps,
    not_false_eq_true, if_true, Op.run_restoring, hretrace]

end Exploration

/-- Something is stored where a model is gone by. -/
theorem Exploration.Based.size_ne_zero {solver : ExplicitSolver} {model : Model} {x : Exploration}
    (h : x.Based solver model) : x.store.size ≠ 0 := by
  obtain ⟨solution, schema, first, rest, -, hfirst⟩ := h.faithful.loaded
  have hlength := (List.getElem?_eq_some_iff.1 hfirst).1
  rw [Store.length_states] at hlength
  omega

/-! ### Every session that loaded a model -/

/-- Where a query gives all fields, the states that chains start at hold the same apart from the
transition field. -/
theorem TransitionSystem.content_eq_of_fixed {system : TransitionSystem} {transitionField : String}
    {given : View} {leg other : Leg} (hleg : leg ∈ system.starts transitionField (.fixed given))
    (hother : other ∈ system.starts transitionField (.fixed given)) :
    content transitionField leg.view = content transitionField other.view := by
  rw [(shows_of_mem_starts hleg).content_eq, (shows_of_mem_starts hother).content_eq,
    content_of_mem_starts hleg, content_of_mem_starts hother]

namespace Session

variable {solver : ExplicitSolver} {model : Model} {session : Session ExplicitSolver}

/-- Whether going back so many steps leads to where the walk was then. -/
def GoesBack (session : Session ExplicitSolver) (steps : Nat) : Prop :=
  (session.exec (.reverseStep steps)).1 = .ok .done ∧
    (session.exec (.reverseStep steps)).2.exploration.walk.stops =
      session.exploration.walk.stops.take (session.exploration.walk.cursor - steps + 1)

/-- Whether a session that shares the vocabulary of its solver can load a model over a plain system,
of which the initial states that the model admits hold the same apart from the transition field. -/
structure Departs (session : Session ExplicitSolver) (text : String) (model : Model) : Prop where
  plain : session.solver.Plain
  distinct : session.solver.system.fields.names.Nodup
  roomy : session.solver.Roomy
  vocabulary_eq : session.profile.settings.vocabulary = session.solver.vocabulary
  keeps : (Command.loadModel text).KeepsTo session.solver.vocabulary
  parse_eq : Model.parse text session.solver.vocabulary = .ok model
  loads : (session.exec (.loadModel text)).1 = .ok .done
  agree : ∀ problem condition,
    session.solver.read (model.initialQuery.render session.solver.vocabulary) = .ok problem →
      problem.start = .matching condition →
        ∀ leg ∈ session.solver.system.starts session.solver.vocabulary.transitionField
          (.matching condition),
        ∀ other ∈ session.solver.system.starts session.solver.vocabulary.transitionField
          (.matching condition),
          TransitionSystem.content session.solver.vocabulary.transitionField leg.view =
            TransitionSystem.content session.solver.vocabulary.transitionField other.view

/-- The solver serves the model once it is loaded, unless the state signature is mistaken for the
predicate of a step or the model prescribes something odd for the transition field. -/
theorem Departs.serves {text : String} (h : session.Departs text model)
    (hpath : ¬Query.pathName.toList <:+: session.solver.vocabulary.stateSig.toList)
    (hplain : ∀ leg ∈ session.solver.origins model,
      ¬TransitionSystem.Odd session.solver.vocabulary.transitionField leg.view) :
    session.solver.Serves model := by
  obtain ⟨hguided, -⟩ :=
    guided_of_loaded h.plain rfl h.vocabulary_eq h.keeps h.loads h.parse_eq
  obtain ⟨hvocabulary, start, hread, horigins, hgiven⟩ :=
    hguided.faithful.exists_start h.plain hpath
  refine ⟨h.plain, h.distinct, h.roomy, hvocabulary, ⟨fun leg hleg other hother => ?_, hplain⟩,
    fun leg hleg => ?_, start, hread, horigins⟩
  · rw [horigins] at hleg hother
    cases start with
    | matching condition => exact h.agree _ condition hread rfl leg hleg other hother
    | fixed given => exact TransitionSystem.content_eq_of_fixed hleg hother
  · refine h.plain.system.relational.carries_of_mem_starts hgiven (horigins ▸ hleg) fun v hv => ?_
    refine Tuple.readBack_of_isName (Text.isName_of_isPlain ?_)
    by_contra hnot
    exact hplain leg hleg ⟨v, hv, by simpa using hnot⟩

/-- Where a solver serves the model that is gone by, going back never gets stuck. -/
theorem goesBack_of_based (h : session.exploration.Based session.solver model)
    (hserves : session.solver.Serves model)
    (hvocabulary : session.profile.settings.vocabulary = session.solver.vocabulary)
    (hready : session.exploration.walk.stops ≠ []) {steps : Nat} (hsteps : 1 ≤ steps) :
    session.GoesBack steps := by
  obtain ⟨y, hrun, hstops⟩ :=
    h.reverseStep hserves hvocabulary hready (Nat.one_le_iff_ne_zero.1 hsteps)
  have hexec : session.exec (.reverseStep steps) =
      (.ok .done, { session with exploration := y }) := perform_eq_ok hrun
  rw [GoesBack, hexec]
  exact ⟨rfl, hstops⟩

/-- After a model was loaded, going back never gets stuck, whatever was done since, as long as the
state signature is not mistaken for the predicate of a step and the model prescribes nothing odd
for the transition field. -/
theorem goesBack_of_departs {text : String} (h : session.Departs text model)
    (hpath : ¬Query.pathName.toList <:+: session.solver.vocabulary.stateSig.toList)
    (hplain : ∀ leg ∈ session.solver.origins model,
      ¬TransitionSystem.Odd session.solver.vocabulary.transitionField leg.view)
    {commands : List Command} (hcommands : ∀ command ∈ commands, command.loads = false)
    (hfixed : ∀ vocabulary, .setVocabulary vocabulary ∉ commands) {steps : Nat}
    (hsteps : 1 ≤ steps) :
    (execAll (session.exec (.loadModel text)).2 commands).GoesBack steps := by
  have hserves := h.serves hpath hplain
  obtain ⟨hguided, hsize, -⟩ :=
    guided_of_loaded h.plain rfl h.vocabulary_eq h.keeps h.loads h.parse_eq
  have hbased : (session.exec (.loadModel text)).2.exploration.Based session.solver model :=
    ⟨hguided.structured, hguided.faithful, hguided.offers, hguided.faithful.originates hserves hsize⟩
  obtain ⟨hprofile, hloaded⟩ := modelLoaded_of_ok rfl h.loads
  have hsolver := exec_solver session (.loadModel text)
  obtain ⟨⟨hafter, htruthful⟩, hprofile, hkept⟩ := execAll_preserves
    (P := fun x => x.Based session.solver model ∧ x.Truthful session.solver session.profile)
    (Q := (· = session.profile)) hprofile
    (fun vocabulary hmem => absurd hmem (hfixed vocabulary))
    ⟨hbased, Exploration.truthful_of_modelLoaded hloaded⟩
    fun p hp command hcommand x y hx hchange => by
      rw [hsolver, show p = session.profile from hp] at hchange
      exact ⟨hx.1.change hserves h.vocabulary_eq (hcommands command hcommand) hchange,
        hx.2.change hchange⟩
  have hsame := hkept.trans hsolver
  exact goesBack_of_based (hsame ▸ hafter) (hsame ▸ hserves)
    (by rw [hsame, hprofile]; exact h.vocabulary_eq) (htruthful.ready hafter.size_ne_zero) hsteps

/-- The initial states that a model admits agree if all states do that exploring can start at. -/
theorem agree_of_origins (h : ∀ leg ∈ solver.origins model, ∀ other ∈ solver.origins model,
      TransitionSystem.content solver.vocabulary.transitionField leg.view =
        TransitionSystem.content solver.vocabulary.transitionField other.view)
    (problem : Problem) (condition : Condition)
    (hread : solver.read (model.initialQuery.render solver.vocabulary) = .ok problem)
    (hstart : problem.start = .matching condition) :
    ∀ leg ∈ solver.system.starts solver.vocabulary.transitionField (.matching condition),
      ∀ other ∈ solver.system.starts solver.vocabulary.transitionField (.matching condition),
        TransitionSystem.content solver.vocabulary.transitionField leg.view =
          TransitionSystem.content solver.vocabulary.transitionField other.view := by
  rwa [← hstart, ← ExplicitSolver.origins_eq hread]

/-- Commands that go on from green in both ways, back to green, and to red and on again. -/
def roundTrip : List Command :=
  [.step 2 [], .alternate false, .reverseStep 1, .step 1 [], .moveTo 1, .step 1 []]

/-- Over the traffic light, going back does not get stuck after the round trip. -/
theorem goesBack_of_departs_traffic :
    atTheLight.Departs emptyModel emptyParts ∧
      ¬Query.pathName.toList <:+: atTheLight.solver.vocabulary.stateSig.toList ∧
      (∀ leg ∈ atTheLight.solver.origins emptyParts,
        ¬TransitionSystem.Odd atTheLight.solver.vocabulary.transitionField leg.view) ∧
      (∀ command ∈ roundTrip, command.loads = false) ∧
      (∀ vocabulary, .setVocabulary vocabulary ∉ roundTrip) ∧ 1 ≤ 2 ∧
      (execAll (atTheLight.exec (.loadModel emptyModel)).2 roundTrip).GoesBack 2 := by
  have hdeparts : atTheLight.Departs emptyModel emptyParts :=
    { plain := ⟨by decide +kernel, by decide +kernel, by decide +kernel⟩
      distinct := by decide
      roomy := ExplicitSolver.roomy_of_lt (by decide)
      vocabulary_eq := rfl
      keeps := keepsTo_emptyModel
      parse_eq := parse_emptyModel
      loads := loads_emptyModel
      agree := agree_of_origins (by simp [origins_emptyParts]) }
  have hpath : ¬Query.pathName.toList <:+: atTheLight.solver.vocabulary.stateSig.toList := by
    decide +kernel
  have hplain : ∀ leg ∈ atTheLight.solver.origins emptyParts,
      ¬TransitionSystem.Odd atTheLight.solver.vocabulary.transitionField leg.view := by
    rw [origins_emptyParts]
    unfold TransitionSystem.Odd
    decide +kernel
  have hcommands : ∀ command ∈ roundTrip, command.loads = false := by decide
  have hfixed : ∀ vocabulary, .setVocabulary vocabulary ∉ roundTrip := by simp [roundTrip]
  exact ⟨hdeparts, hpath, hplain, hcommands, hfixed, by decide,
    goesBack_of_departs hdeparts hpath hplain hcommands hfixed (by decide)⟩

/-- The model that prescribes braces in its parts. -/
def bracedParts : Model :=
  ⟨"\npred next[s, t: State] \x7b\x7d",
    "pred init[s: State] \x7b\n s.transTaken = \x7bb + a\x7d\n s.z = R\n\x7d"⟩

/-- A session over the two rooms. -/
def atTheDoor : Session ExplicitSolver :=
  .start roomSolver ⟨.default, .plain⟩

/-- The model with the predicate of a step in its parts. -/
def twoLetterParts : Model :=
  ⟨"pred trellis_path_0\x7bs.f=A\x7dpred n\x7b\x7d", "pred i\x7b\x7d"⟩

/-- A session over the two letters whose vocabulary can be mistaken. -/
def atTheLetters : Session ExplicitSolver :=
  .start twoLetterSolver ⟨{ Settings.default with vocabulary := stepNamed }, .plain⟩

/-- The model that prescribes braces is loaded, and after two steps one cannot go back. -/
theorem stuck_braced :
    (atTheDoor.exec (.loadModel bracedModel)).1 = .ok .done ∧
      ((execAll (atTheDoor.exec (.loadModel bracedModel)).2 [.step 2 []]).exec
        (.reverseStep 1)).1.isOk = false := by
  decide +kernel

/-- Nothing is wrong with the model that prescribes braces but what it prescribes. -/
theorem departs_braced : atTheDoor.Departs bracedModel bracedParts := by
  have hmodel : Model.parse bracedModel .default = .ok bracedParts := by
    decide +kernel
  exact
    { plain := ⟨by decide +kernel, by decide +kernel, by decide +kernel⟩
      distinct := by decide
      roomy := ExplicitSolver.roomy_of_lt (by decide)
      vocabulary_eq := rfl
      keeps := Command.keepsTo_of_parse (by decide +kernel) hmodel (by decide +kernel)
      parse_eq := hmodel
      loads := stuck_braced.1
      agree := agree_of_origins (by decide +kernel) }

/-- The model over the two letters is loaded, and after three steps one cannot go back. -/
theorem stuck_twoLetters :
    (atTheLetters.exec (.loadModel twoLetterModel)).1 = .ok .done ∧
      ((execAll (atTheLetters.exec (.loadModel twoLetterModel)).2 [.step 3 []]).exec
        (.reverseStep 1)).1.isOk = false := by
  decide +kernel

/-- Nothing is wrong with the model over the two letters but the vocabulary. -/
theorem departs_twoLetters : atTheLetters.Departs twoLetterModel twoLetterParts := by
  have hmodel : Model.parse twoLetterModel stepNamed = .ok twoLetterParts := by
    decide +kernel
  exact
    { plain := ⟨by decide +kernel, by decide +kernel, by decide +kernel⟩
      distinct := by decide
      roomy := ExplicitSolver.roomy_of_lt (by decide)
      vocabulary_eq := rfl
      keeps := Command.keepsTo_of_parse (by decide +kernel) hmodel (by decide +kernel)
      parse_eq := hmodel
      loads := stuck_twoLetters.1
      agree := agree_of_origins (by decide +kernel) }

/-- Where a model prescribes something odd for the transition field, the states found anew are not
those that follow the state before them; and where the state signature is called like the predicate
of a step, only some of these are found. Going back gets stuck then. -/
theorem not_goesBack_stuck :
    (atTheDoor.Departs bracedModel bracedParts ∧
      ¬(execAll (atTheDoor.exec (.loadModel bracedModel)).2 [.step 2 []]).GoesBack 1) ∧
    atTheLetters.Departs twoLetterModel twoLetterParts ∧
      ¬(execAll (atTheLetters.exec (.loadModel twoLetterModel)).2
        [.step 3 []]).GoesBack 1 := by
  have hdoor := stuck_braced.2
  have hletters := stuck_twoLetters.2
  refine ⟨⟨departs_braced, fun hback => ?_⟩, departs_twoLetters, fun hback => ?_⟩
  · rw [hback.1] at hdoor
    cases hdoor
  · rw [hback.1] at hletters
    cases hletters

end Session

end StateExplorer
