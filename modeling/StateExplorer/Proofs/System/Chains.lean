import Mathlib.Data.List.Chain
import Mathlib.Data.List.Forall2
import Mathlib.Data.List.Nodup
import StateExplorer.Proofs.Condition.Equations
import StateExplorer.Proofs.Solution.Decoding

/-!
# Chains of declared transitions

A system is plain if its names, values and labels are plain words. The chains that such a system
answers with follow its transitions, and so do the states that come back from them: the first state
of a decoded chain is where the query let it start, apart from the transition field, and each
further one is entered by a declared transition from a state of the system that the one before it
shows. The transition field of the first state is left open, since a query can prescribe it.
-/

namespace StateExplorer

/-- Whether the names of fields, the values of states and the labels of transitions are plain
words. -/
structure TransitionSystem.Plain (system : TransitionSystem) : Prop where
  fields : ∀ name ∈ system.fields.names, Text.isPlain name = true
  values : ∀ state ∈ system.states, ∀ entry ∈ state.values.entries, ∀ v ∈ entry.2,
    Text.isPlain v = true
  labels : ∀ t ∈ system.transitions, ∀ label ∈ t.label, Text.isPlain label = true

instance (system : TransitionSystem) : Decidable system.Plain :=
  decidable_of_iff
    ((∀ name ∈ system.fields.names, Text.isPlain name = true) ∧
      (∀ state ∈ system.states, ∀ entry ∈ state.values.entries, ∀ v ∈ entry.2,
        Text.isPlain v = true) ∧
      ∀ t ∈ system.transitions, ∀ label ∈ t.label, Text.isPlain label = true)
    ⟨fun ⟨hfields, hvalues, hlabels⟩ => ⟨hfields, hvalues, hlabels⟩,
      fun ⟨hfields, hvalues, hlabels⟩ => ⟨hfields, hvalues, hlabels⟩⟩

namespace TransitionSystem

variable {system : TransitionSystem} {transitionField : String}

/-! ### Views -/

/-- What a view holds apart from the transition field. -/
theorem get?_content (view : View) (name : String) : (content transitionField view).get? name =
    if name = transitionField then none else view.get? name := by
  rw [content, NameMap.get?_filter]
  by_cases hname : name = transitionField
  · rw [if_pos hname, Option.filter_eq_none_iff]
    simp [hname]
  · rw [if_neg hname]
    cases view.get? name with
    | none => rfl
    | some values => simp [hname]

/-- Views agree apart from the transition field if they give every other field the same. -/
theorem content_eq_iff {a b : View} : content transitionField a = content transitionField b ↔
    ∀ name, name ≠ transitionField → a.get? name = b.get? name := by
  constructor
  · intro h name hname
    have hget := congrArg (·.get? name) h
    simpa only [get?_content, if_neg hname] using hget
  · intro h
    refine NameMap.ext_get? fun name => ?_
    rw [get?_content, get?_content]
    split
    · rfl
    · rename_i hname
      exact h name hname

/-- A view has no other fields than the system. -/
theorem get?_view_of_not_mem {state : SystemState} {label : Option String} {name : String}
    (h : name ∉ system.fields.names) : (system.view transitionField state label).get? name = none := by
  rw [view, NameMap.get?_ofList_map, if_neg h]

/-- A view has the fields of the system. -/
theorem isSome_get?_view {state : SystemState} {label : Option String} {name : String} :
    ((system.view transitionField state label).get? name).isSome = true ↔
      name ∈ system.fields.names := by
  rw [view, NameMap.get?_ofList_map]
  by_cases hname : name ∈ system.fields.names
  · simp [hname]
  · simp [hname]

/-- A label changes the transition field only. -/
theorem content_view (state : SystemState) (label : Option String) :
    content transitionField (system.view transitionField state label) =
      content transitionField (system.view transitionField state none) := by
  refine content_eq_iff.2 fun name hname => ?_
  rw [view, view, NameMap.get?_ofList_map, NameMap.get?_ofList_map]
  cases label with
  | none => rfl
  | some label => simp [hname]

/-- A view gives every field a set of values that the state or the label has. -/
theorem exists_get?_view {P : String → Prop} {state : SystemState}
    (hvalues : ∀ entry ∈ state.values.entries, ∀ v ∈ entry.2, P v) {label : Option String}
    (hlabel : ∀ l ∈ label, P l) {name : String} (hname : name ∈ system.fields.names) :
    ∃ values, (system.view transitionField state label).get? name = some (valueSet values) ∧
      ∀ v ∈ values, P v := by
  have hown : ∀ v ∈ (state.values.get? name).getD [], P v := by
    cases hget : state.values.get? name with
    | none => simp
    | some values => exact hvalues (name, values) (NameMap.mem_entries_iff.2 hget)
  rw [view, NameMap.get?_ofList_map, if_pos hname]
  refine ⟨_, rfl, ?_⟩
  cases label with
  | none => exact hown
  | some label =>
    by_cases hfield : name = transitionField
    · simpa [hfield] using hlabel label rfl
    · simpa [hfield] using hown

/-- In a plain system a view gives every field a set of plain words. -/
theorem Plain.exists_get?_view (h : system.Plain) {state : SystemState}
    (hstate : state ∈ system.states) {label : Option String}
    (hlabel : ∀ l ∈ label, Text.isPlain l = true) {name : String}
    (hname : name ∈ system.fields.names) :
    ∃ values, (system.view transitionField state label).get? name = some (valueSet values) ∧
      ∀ v ∈ values, Text.isPlain v = true :=
  TransitionSystem.exists_get?_view (h.values state hstate) hlabel hname

/-- Whether a view gives the transition field something else than plain words. -/
def Odd (transitionField : String) (view : View) : Prop :=
  ∃ v ∈ (view.get? transitionField).getD [], Text.isPlain v = false

/-! ### Legs -/

/-- A state is entered by a transition from the state before it. -/
theorem mem_moves_iff {source : SystemState} {leg : Leg} :
    leg ∈ system.moves transitionField source ↔
      ∃ t ∈ system.transitions, t.source = source.name ∧ system.state? t.target = some leg.state ∧
        leg.view = system.view transitionField leg.state t.label := by
  simp only [moves, List.mem_filterMap, List.mem_filter, beq_iff_eq, Option.map_eq_some_iff]
  constructor
  · rintro ⟨t, ⟨ht, hsource⟩, target, htarget, rfl⟩
    exact ⟨t, ht, hsource, htarget, rfl⟩
  · rintro ⟨t, ht, hsource, htarget, hview⟩
    refine ⟨t, ⟨ht, hsource⟩, leg.state, htarget, ?_⟩
    rw [← hview]

/-- A named state is one of the system. -/
theorem mem_states_of_state? {name : String} {state : SystemState}
    (h : system.state? name = some state) : state ∈ system.states :=
  List.mem_of_find?_eq_some h

/-- A leg shows a state of the system, apart from the transition field. -/
structure Shows (system : TransitionSystem) (transitionField : String) (leg : Leg) : Prop where
  mem : leg.state ∈ system.states
  content_eq : content transitionField leg.view =
    content transitionField (system.view transitionField leg.state none)

/-- Chains start at states of the system. -/
theorem shows_of_mem_starts {start : Start} {leg : Leg}
    (h : leg ∈ system.starts transitionField start) : system.Shows transitionField leg := by
  cases start with
  | matching condition =>
    obtain ⟨state, hstate, rfl⟩ := List.mem_map.1 (List.mem_filter.1 h).1
    obtain ⟨name, -, hname⟩ := List.mem_filterMap.1 hstate
    exact ⟨mem_states_of_state? hname, rfl⟩
  | fixed given =>
    obtain ⟨state, hstate, rfl⟩ := List.mem_map.1 h
    obtain ⟨hmem, hcontent⟩ := List.mem_filter.1 hstate
    exact ⟨hmem, (beq_iff_eq.1 hcontent).symm⟩

/-- Where the fields are given, chains start at states that hold them. -/
theorem content_of_mem_starts {given : View} {leg : Leg}
    (h : leg ∈ system.starts transitionField (.fixed given)) :
    content transitionField (system.view transitionField leg.state none) =
      content transitionField given := by
  obtain ⟨state, hstate, rfl⟩ := List.mem_map.1 h
  exact beq_iff_eq.1 (List.mem_filter.1 hstate).2

/-- The legs of a run follow each other. -/
theorem isChain_of_mem_runs {n : Nat} {leg : Leg} {legs : List Leg}
    (h : legs ∈ system.runs transitionField n leg.state) :
    (leg :: legs).IsChain fun a b => b ∈ system.moves transitionField a.state := by
  induction n generalizing leg legs with
  | zero =>
    obtain rfl : legs = [] := by simpa [runs] using h
    exact List.isChain_singleton leg
  | succ n ih =>
    simp only [runs, List.mem_flatMap, List.mem_map] at h
    obtain ⟨next, hnext, rest, hrest, rfl⟩ := h
    exact List.isChain_cons_cons.2 ⟨hnext, ih hrest⟩

end TransitionSystem

/-- A chain that solves a problem starts where the problem says and follows the transitions. -/
theorem Problem.of_mem_chains {problem : Problem} {system : TransitionSystem}
    {transitionField : String} {cap : Nat} {views : List View}
    (h : views ∈ problem.chains system transitionField cap) :
    ∃ leg legs, leg ∈ system.starts transitionField problem.start ∧
      (leg :: legs).IsChain (fun a b => b ∈ system.moves transitionField a.state) ∧
      views = (leg :: legs).map (·.view) := by
  rw [chains_eq_take] at h
  obtain ⟨leg, hleg, hsolution⟩ := List.mem_flatMap.1 (List.mem_of_mem_take h)
  obtain ⟨legs, hlegs, rfl⟩ := List.mem_map.1 hsolution
  exact ⟨leg, legs, hleg, TransitionSystem.isChain_of_mem_runs (List.mem_filter.1 hlegs).1, rfl⟩

/-! ### States that come back -/

namespace State

/-- Whether a state holds a view: as sets, and exactly if no field is declared twice. -/
structure Holds (schema : Schema) (state : State) (view : View) : Prop where
  sets_eq : state.sets = view
  fields_eq : schema.names.Nodup → state.fields = view

/-- Whether a state holds a view apart from the transition field. -/
structure HoldsContent (schema : Schema) (transitionField : String) (state : State)
    (view : View) : Prop where
  sets_eq : TransitionSystem.content transitionField state.sets =
    TransitionSystem.content transitionField view
  fields_eq : schema.names.Nodup → TransitionSystem.content transitionField state.fields =
    TransitionSystem.content transitionField view

instance (schema : Schema) (state : State) (view : View) : Decidable (state.Holds schema view) :=
  decidable_of_iff (state.sets = view ∧ (schema.names.Nodup → state.fields = view))
    ⟨fun ⟨hsets, hfields⟩ => ⟨hsets, hfields⟩, fun ⟨hsets, hfields⟩ => ⟨hsets, hfields⟩⟩

instance (schema : Schema) (transitionField : String) (state : State) (view : View) :
    Decidable (state.HoldsContent schema transitionField view) :=
  decidable_of_iff
    (TransitionSystem.content transitionField state.sets =
        TransitionSystem.content transitionField view ∧
      (schema.names.Nodup → TransitionSystem.content transitionField state.fields =
        TransitionSystem.content transitionField view))
    ⟨fun ⟨hsets, hfields⟩ => ⟨hsets, hfields⟩, fun ⟨hsets, hfields⟩ => ⟨hsets, hfields⟩⟩

/-- Whether two states hold the same apart from the transition field: as sets, and exactly if no
field is declared twice. -/
structure SameContent (schema : Schema) (transitionField : String) (a b : State) : Prop where
  sets_eq : TransitionSystem.content transitionField a.sets =
    TransitionSystem.content transitionField b.sets
  fields_eq : schema.names.Nodup → TransitionSystem.content transitionField a.fields =
    TransitionSystem.content transitionField b.fields

/-- Whether a state has the fields of a schema, in all of them but the transition field plain words
only, and none of them twice unless a field is declared twice. -/
structure Suits (schema : Schema) (transitionField : String) (state : State) : Prop where
  fields : ∀ field, state.hasField field = true ↔ field ∈ schema.names
  plain : ∀ field values, field ≠ transitionField → state.values? field = some values →
    ∀ v ∈ values, Text.isPlain v = true
  distinct : schema.names.Nodup → TransitionSystem.content transitionField state.fields =
    TransitionSystem.content transitionField state.sets

/-- A field that a state has not got has no values. -/
theorem values?_eq_none {state : State} {field : String} (h : state.hasField field ≠ true) :
    state.values? field = none :=
  Option.not_isSome_iff_eq_none.1 h

/-- A copy is odd only if what was copied is. -/
theorem Copies.odd {schema : Schema} {view : View} {state : State} (h : state.Copies schema view)
    {transitionField : String} (hodd : TransitionSystem.Odd transitionField state.fields) :
    TransitionSystem.Odd transitionField view := by
  by_contra hplain
  have hwords : ∀ v ∈ (view.get? transitionField).getD [], Text.isPlain v = true := by
    intro v hv
    by_contra hnot
    exact hplain ⟨v, hv, by simpa using hnot⟩
  obtain ⟨v, hv, hnot⟩ := hodd
  by_cases hfield : transitionField ∈ schema.names
  · obtain ⟨own, hown, hperm⟩ := h.exists_perm hfield fun w hw =>
      Tuple.readBack_of_isName (Text.isName_of_isPlain (hwords w hw))
    rw [values?] at hown
    rw [hown, Option.getD_some, hperm.mem_iff, List.mem_flatten] at hv
    obtain ⟨copy, hcopy, hv⟩ := hv
    rw [List.eq_of_mem_replicate hcopy] at hv
    rw [hwords v hv] at hnot
    cases hnot
  · have hnone := values?_eq_none (mt (h.fields transitionField).1 hfield)
    rw [values?] at hnone
    rw [hnone] at hv
    cases hv

/-- What is copied from a set of plain words is this set, however often it was added. -/
theorem Copies.exists_values {schema : Schema} {view : View} {state : State}
    (h : state.Copies schema view) {name : String} (hname : name ∈ schema.names)
    {values : List String} (hview : view.get? name = some (valueSet values))
    (hplain : ∀ v ∈ values, Text.isPlain v = true) :
    ∃ own, state.values? name = some own ∧ valueSet own = valueSet values ∧
      (schema.names.Nodup → own = valueSet values) ∧ ∀ v ∈ own, Text.isPlain v = true := by
  have hget : (view.get? name).getD [] = valueSet values := by
    rw [hview]
    rfl
  obtain ⟨own, hown, hperm⟩ := h.exists_perm hname (by
    rw [hget]
    exact fun v hv =>
      Tuple.readBack_of_isName (Text.isName_of_isPlain (hplain v (mem_valueSet.1 hv))))
  rw [hget] at hperm
  have hmem : ∀ v, v ∈ own ↔ v ∈ values := by
    intro v
    have hcount : schema.names.count name ≠ 0 := (List.count_pos_iff.2 hname).ne'
    rw [hperm.mem_iff, List.mem_flatten]
    constructor
    · rintro ⟨set, hset, hv⟩
      rw [List.eq_of_mem_replicate hset] at hv
      exact mem_valueSet.1 hv
    · exact fun hv => ⟨valueSet values, List.mem_replicate.2 ⟨hcount, rfl⟩, mem_valueSet.2 hv⟩
  refine ⟨own, hown, valueSet_congr hmem, fun hnodup => ?_, fun v hv => hplain v ((hmem v).1 hv)⟩
  have hone : schema.names.count name = 1 := List.count_eq_one_of_mem hnodup hname
  rw [hone, List.replicate_one, List.flatten_singleton] at hperm
  have hsorted : own.Pairwise (· ≤ ·) := state.sorted (name, own) (NameMap.mem_entries_iff.2 hown)
  exact hperm.eq_of_pairwise (fun v w _ _ hle hge => String.le_antisymm hle hge) hsorted
    ((valueSet_strict values).imp fun hlt => String.not_lt.1 (String.lt_asymm hlt))

end State

namespace TransitionSystem

variable {system : TransitionSystem} {transitionField : String}

/-- A field that a state copies from a view of a plain system holds there what it holds in the
view. -/
theorem Plain.agrees (h : system.Plain) {source : SystemState} (hsource : source ∈ system.states)
    {label : Option String} (hlabel : ∀ l ∈ label, Text.isPlain l = true) {view : View}
    {state : State} (hcopies : state.Copies system.fields view) {name : String}
    (hview : view.get? name = (system.view transitionField source label).get? name) :
    state.sets.get? name = (system.view transitionField source label).get? name ∧
      (system.fields.names.Nodup →
        state.fields.get? name = (system.view transitionField source label).get? name) ∧
      ∀ values, state.values? name = some values → ∀ v ∈ values, Text.isPlain v = true := by
  by_cases hname : name ∈ system.fields.names
  · obtain ⟨values, hvalues, hplain⟩ : ∃ values,
        (system.view transitionField source label).get? name = some (valueSet values) ∧
          ∀ v ∈ values, Text.isPlain v = true := h.exists_get?_view hsource hlabel hname
    rw [hvalues] at hview
    obtain ⟨own, hown, hset, hsame, hwords⟩ := hcopies.exists_values hname hview hplain
    refine ⟨?_, fun hnodup => ?_, fun found hfound => ?_⟩
    · rw [State.get?_sets, hown, hvalues, Option.map_some, hset]
    · rw [hvalues, ← hsame hnodup]
      exact hown
    · obtain rfl : own = found := Option.some.inj (hown.symm.trans hfound)
      exact hwords
  · have hnone := State.values?_eq_none (mt (hcopies.fields name).1 hname)
    rw [get?_view_of_not_mem hname, State.get?_sets, hnone]
    exact ⟨rfl, fun _ => hnone, fun values hvalues => by cases hvalues⟩

/-- A state that copies a view of a plain system holds it. -/
theorem Plain.holds_of_copies (h : system.Plain) {source : SystemState}
    (hsource : source ∈ system.states) {label : Option String}
    (hlabel : ∀ l ∈ label, Text.isPlain l = true) {state : State}
    (hcopies : state.Copies system.fields (system.view transitionField source label)) :
    state.Holds system.fields (system.view transitionField source label) := by
  have hagrees (name : String) := h.agrees hsource hlabel hcopies
    (rfl : (system.view transitionField source label).get? name = _)
  refine ⟨NameMap.ext_get? fun name => (hagrees name).1, fun hnodup => ?_⟩
  exact NameMap.ext_get? fun name => (hagrees name).2.1 hnodup

/-- A state that copies what a leg shows holds it apart from the transition field, and suits the
system. -/
theorem Plain.holdsContent_of_copies (h : system.Plain) {leg : Leg}
    (hleg : system.Shows transitionField leg) {state : State}
    (hcopies : state.Copies system.fields leg.view) :
    state.HoldsContent system.fields transitionField
        (system.view transitionField leg.state none) ∧
      state.Suits system.fields transitionField := by
  have hagrees (name : String) (hname : name ≠ transitionField) :=
    h.agrees hleg.mem (by simp) hcopies (content_eq_iff.1 hleg.content_eq name hname)
  have hsets := content_eq_iff.2 fun name hname => (hagrees name hname).1
  have hfields (hnodup : system.fields.names.Nodup) :=
    content_eq_iff.2 fun name hname => (hagrees name hname).2.1 hnodup
  refine ⟨⟨hsets, hfields⟩, hcopies.fields, fun name values hname => ?_, fun hnodup => ?_⟩
  · exact (hagrees name hname).2.2 values
  · rw [hfields hnodup, hsets]

/-- Whether a declared transition from a state of the system leads to what a state holds. -/
def Enters (system : TransitionSystem) (transitionField : String) (source : SystemState)
    (state : State) : Prop :=
  ∃ t ∈ system.transitions, t.source = source.name ∧ ∃ target ∈ system.states,
    target.name = t.target ∧ state.Holds system.fields (system.view transitionField target t.label)

instance (source : SystemState) (state : State) :
    Decidable (system.Enters transitionField source state) :=
  inferInstanceAs (Decidable (∃ t ∈ system.transitions, t.source = source.name ∧
    ∃ target ∈ system.states, target.name = t.target ∧
      state.Holds system.fields (system.view transitionField target t.label)))

/-- States without faults have names that differ from each other and from those that were seen. -/
theorem nodup_of_stateFaults {fields : Schema} {seen : List String} {states : List SystemState}
    (h : stateFaults fields seen states = []) :
    (states.map (·.name)).Nodup ∧ ∀ state ∈ states, state.name ∉ seen := by
  induction states generalizing seen with
  | nil => simp
  | cons state rest ih =>
    simp only [stateFaults, List.append_eq_nil_iff] at h
    obtain ⟨⟨hfresh, -⟩, hrest⟩ := h
    obtain ⟨hnodup, hnew⟩ := ih hrest
    have hseen : state.name ∉ seen := by
      simpa using hfresh
    refine ⟨List.nodup_cons.2 ⟨fun hmem => ?_, hnodup⟩, List.forall_mem_cons.2 ⟨hseen, ?_⟩⟩
    · obtain ⟨other, hother, hsame⟩ := List.mem_map.1 hmem
      exact hnew other hother (hsame ▸ List.mem_cons_self)
    · exact fun other hother hmem => hnew other hother (List.mem_cons_of_mem _ hmem)

/-- In a well-formed system every state is found by its name. -/
theorem state?_eq_some {system : TransitionSystem} (h : system.faults = []) {state : SystemState}
    (hstate : state ∈ system.states) : system.state? state.name = some state := by
  obtain ⟨hnodup, -⟩ := nodup_of_stateFaults (List.append_eq_nil_iff.1 h).1
  obtain ⟨found, hfound⟩ : ∃ found, system.state? state.name = some found :=
    Option.isSome_iff_exists.1 (List.find?_isSome.2 ⟨state, hstate, beq_self_eq_true _⟩)
  rw [hfound, List.inj_on_of_nodup_map hnodup (List.mem_of_find?_eq_some hfound) hstate
    (name_of_state? hfound)]

/-- In a well-formed system what is entered is what a leg shows that is moved to. -/
theorem Enters.exists_leg (h : system.faults = []) {source : SystemState} {state : State}
    (henters : system.Enters transitionField source state) :
    ∃ leg ∈ system.moves transitionField source, state.Holds system.fields leg.view := by
  obtain ⟨t, ht, hsource, target, htarget, hname, hholds⟩ := henters
  have hstate := state?_eq_some h htarget
  rw [hname] at hstate
  exact ⟨⟨target, system.view transitionField target t.label⟩,
    mem_moves_iff.2 ⟨t, ht, hsource, hstate, rfl⟩, hholds⟩

/-- Whether a step from one state to another is declared: what the first one holds apart from the
transition field is held by a state of the system from which a transition leads to what the second
one holds. -/
def Declared (system : TransitionSystem) (transitionField : String) (a b : State) : Prop :=
  ∃ source ∈ system.states,
    a.HoldsContent system.fields transitionField (system.view transitionField source none) ∧
      system.Enters transitionField source b

instance (a b : State) : Decidable (system.Declared transitionField a b) :=
  inferInstanceAs (Decidable (∃ source ∈ system.states,
    a.HoldsContent system.fields transitionField (system.view transitionField source none) ∧
      system.Enters transitionField source b))

/-- In a plain system no view is odd. -/
theorem Plain.not_odd_view (h : system.Plain) {state : SystemState} (hstate : state ∈ system.states)
    {label : Option String} (hlabel : ∀ l ∈ label, Text.isPlain l = true) :
    ¬Odd transitionField (system.view transitionField state label) := by
  rintro ⟨v, hv, hnot⟩
  by_cases hfield : transitionField ∈ system.fields.names
  · obtain ⟨values, hvalues, hplain⟩ : ∃ values,
        (system.view transitionField state label).get? transitionField = some (valueSet values) ∧
          ∀ v ∈ values, Text.isPlain v = true := h.exists_get?_view hstate hlabel hfield
    rw [hvalues, Option.getD_some, mem_valueSet] at hv
    rw [hplain v hv] at hnot
    cases hnot
  · rw [get?_view_of_not_mem hfield] at hv
    cases hv

/-- A state that copies a leg is entered from the state of the leg before it. -/
theorem Plain.enters_of_copies (h : system.Plain) {source : SystemState} {leg : Leg}
    (hleg : leg ∈ system.moves transitionField source) {state : State}
    (hcopies : state.Copies system.fields leg.view) :
    system.Enters transitionField source state ∧ ¬Odd transitionField state.fields := by
  obtain ⟨t, ht, hsource, htarget, hview⟩ := mem_moves_iff.1 hleg
  have hmem := mem_states_of_state? htarget
  rw [hview] at hcopies
  exact ⟨⟨t, ht, hsource, leg.state, hmem, name_of_state? htarget,
    h.holds_of_copies hmem (h.labels t ht) hcopies⟩,
    fun hodd => h.not_odd_view hmem (h.labels t ht) (hcopies.odd hodd)⟩

/-- A leg that is moved to shows a state of the system. -/
theorem shows_of_mem_moves {source : SystemState} {leg : Leg}
    (h : leg ∈ system.moves transitionField source) : system.Shows transitionField leg := by
  obtain ⟨t, -, -, htarget, hview⟩ := mem_moves_iff.1 h
  refine ⟨mem_states_of_state? htarget, ?_⟩
  rw [hview, content_view]

/-- States that copy legs which follow each other are entered by declared transitions. -/
theorem Plain.isChain_of_copies (h : system.Plain) {leg : Leg} {legs : List Leg}
    (hleg : system.Shows transitionField leg)
    (hlegs : (leg :: legs).IsChain fun a b => b ∈ system.moves transitionField a.state)
    {state : State} {states : List State}
    (hcopies : List.Forall₂ (fun (leg : Leg) (state : State) =>
      state.Copies system.fields leg.view) (leg :: legs) (state :: states)) :
    (state :: states).IsChain (system.Declared transitionField) ∧
      (∀ s ∈ state :: states, s.Suits system.fields transitionField) ∧
      (∀ s ∈ states, ¬Odd transitionField s.fields) ∧
      ∀ next ∈ states.head?, system.Enters transitionField leg.state next := by
  induction legs generalizing leg state states with
  | nil =>
    obtain ⟨hfirst, hnil⟩ := List.forall₂_cons.1 hcopies
    obtain rfl := List.forall₂_nil_left_iff.1 hnil
    obtain ⟨-, hsuits⟩ := h.holdsContent_of_copies hleg hfirst
    exact ⟨List.isChain_singleton state, by simpa using hsuits, by simp, by simp⟩
  | cons next rest ih =>
    obtain ⟨hfirst, htail⟩ := List.forall₂_cons.1 hcopies
    cases htail with
    | @cons _ second _ states hsecond hrest =>
      obtain ⟨hmoves, hchain⟩ := List.isChain_cons_cons.1 hlegs
      obtain ⟨hdeclared, hothers, hplain, -⟩ :=
        ih (shows_of_mem_moves hmoves) hchain (List.Forall₂.cons hsecond hrest)
      obtain ⟨henters, hnot⟩ := h.enters_of_copies hmoves hsecond
      obtain ⟨hcontent, hsuits⟩ := h.holdsContent_of_copies hleg hfirst
      refine ⟨List.isChain_cons_cons.2 ⟨⟨leg.state, hleg.mem, hcontent, henters⟩, hdeclared⟩,
        ?_, ?_, ?_⟩
      · rintro state (_ | ⟨_, hstate⟩)
        · exact hsuits
        · exact hothers state hstate
      · rintro state (_ | ⟨_, hstate⟩)
        · exact hnot
        · exact hplain state hstate
      · rintro state hstate
        obtain rfl : second = state := by simpa using hstate
        exact henters

end TransitionSystem

/-- Whether a chain of states comes from an answer to a problem: its first state shows a state where
the problem lets chains start, and the others are entered by declared transitions. -/
structure ExplicitSolver.Follows (solver : ExplicitSolver) (problem : Problem) (leg : Leg)
    (first : State) (rest : List State) : Prop where
  start : leg ∈ solver.system.starts solver.vocabulary.transitionField problem.start
  content : first.HoldsContent solver.system.fields solver.vocabulary.transitionField
    (solver.system.view solver.vocabulary.transitionField leg.state none)
  suits : ∀ state ∈ first :: rest,
    state.Suits solver.system.fields solver.vocabulary.transitionField
  odd : TransitionSystem.Odd solver.vocabulary.transitionField first.fields →
    TransitionSystem.Odd solver.vocabulary.transitionField leg.view
  plain : ∀ state ∈ rest,
    ¬TransitionSystem.Odd solver.vocabulary.transitionField state.fields
  declared : (first :: rest).IsChain
    (solver.system.Declared solver.vocabulary.transitionField)
  enters : ∀ next ∈ rest.head?,
    solver.system.Enters solver.vocabulary.transitionField leg.state next

/-- An instance of an answer is written for the chain at its place. -/
theorem ExplicitSolver.tells_of_getElem? {solver : ExplicitSolver} {s : Solution} {problem : Problem}
    (hdocument : s.document = solver.answer problem) {views : List View}
    (hviews : (solver.chains problem)[s.index]? = some views) :
    s.Tells solver.vocabulary.stateSig views := by
  refine ⟨solver.instanceOf views, ?_, ?_, ?_⟩
  · rw [hdocument, answer, List.getElem?_map, hviews]
    rfl
  · simp [instanceOf, Instance.ofChain]
  · rw [hdocument]
    rfl

/-- A solution to a problem is decoded as copies of legs that follow each other from a start. -/
theorem ExplicitSolver.copies_of_chain {solver : ExplicitSolver}
    (hname : Text.isName solver.vocabulary.stateSig = true) {s : Solution} {problem : Problem}
    (hdocument : s.document = solver.answer problem) {sig : String} {schema : Schema}
    {chain : List State} (h : s.chain sig = .ok (schema, chain)) :
    schema = solver.system.fields ∧ ∃ leg legs,
      leg ∈ solver.system.starts solver.vocabulary.transitionField problem.start ∧
      (leg :: legs).IsChain (fun a b =>
        b ∈ solver.system.moves solver.vocabulary.transitionField a.state) ∧
      List.Forall₂ (fun (leg : Leg) (state : State) => state.Copies solver.system.fields leg.view)
        (leg :: legs) chain := by
  obtain ⟨hsig, -, i, hi, -⟩ := Solution.of_chain_eq_ok h
  obtain rfl : solver.vocabulary.stateSig = sig := by
    rw [hdocument] at hsig
    exact hsig
  have hinstance : ((solver.chains problem).map solver.instanceOf)[s.index]? = some i := by
    rw [hdocument] at hi
    exact hi
  rw [List.getElem?_map, Option.map_eq_some_iff] at hinstance
  obtain ⟨views, hviews, -⟩ := hinstance
  have htells := tells_of_getElem? hdocument hviews
  obtain ⟨rfl, hlength, hcopies⟩ := htells.copies (Tuple.not_arrow_of_isName hname) h
  obtain ⟨leg, legs, hstart, hlegs, rfl⟩ := Problem.of_mem_chains (List.mem_of_getElem? hviews)
  have hfields : s.document.fields = solver.system.fields := by
    rw [hdocument]
    rfl
  rw [hfields] at hcopies
  refine ⟨hfields, leg, legs, hstart, hlegs,
    List.forall₂_iff_get.2 ⟨by simpa using hlength.symm, fun k hk hk' => ?_⟩⟩
  refine hcopies k _ _ (List.getElem?_eq_getElem hk') ?_
  rw [List.getElem?_map, List.getElem?_eq_getElem hk]
  rfl

/-- A solution to a problem over a plain system is decoded as a chain that follows its
transitions. -/
theorem ExplicitSolver.follows_of_chain {solver : ExplicitSolver} (hplain : solver.system.Plain)
    (hname : Text.isName solver.vocabulary.stateSig = true) {s : Solution} {problem : Problem}
    (hdocument : s.document = solver.answer problem) {sig : String} {schema : Schema}
    {chain : List State} (h : s.chain sig = .ok (schema, chain)) :
    schema = solver.system.fields ∧ ∃ leg first rest, chain = first :: rest ∧
      solver.Follows problem leg first rest := by
  obtain ⟨hschema, leg, legs, hstart, hlegs, hcopies⟩ := copies_of_chain hname hdocument h
  cases hcopies with
  | @cons _ first _ rest hfirst hrest =>
    have hleg := TransitionSystem.shows_of_mem_starts hstart
    obtain ⟨hdeclared, hsuits, hwords, henters⟩ :=
      hplain.isChain_of_copies hleg hlegs (List.Forall₂.cons hfirst hrest)
    obtain ⟨hcontent, -⟩ := hplain.holdsContent_of_copies hleg hfirst
    exact ⟨hschema, leg, first, rest, rfl, hstart, hcontent, hsuits, fun hodd => hfirst.odd hodd,
      hwords, hdeclared, henters⟩

end StateExplorer
