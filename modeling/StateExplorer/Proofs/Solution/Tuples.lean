import Mathlib.Data.List.Nodup
import StateExplorer.Proofs.Results
import StateExplorer.Proofs.State.Adding
import StateExplorer.Solution.Chain

/-!
# Where the values of a chain come from

A chain is decoded by adding the value of each tuple to the state that the tuple belongs to. This
succeeds exactly if each tuple of a declared field belongs to a state, and then a field of a state
holds the values of the tuples that belong there, in ascending order. So it does not matter in which
order the tuples of a field are listed.
-/

namespace StateExplorer

namespace Tuple

/-- Whether a tuple belongs to one of so many states. -/
def Belongs (count : Nat) (tuple : String) : Prop :=
  ∃ index value, parse tuple = .ok (index, value) ∧ index < count

instance (count : Nat) (tuple : String) : Decidable (Belongs count tuple) :=
  decidable_of_iff (((parse tuple).toOption.any fun found => found.1 < count) = true) (by
    unfold Belongs
    cases parse tuple with
    | error e => simp [Except.toOption]
    | ok found =>
      obtain ⟨index, value⟩ := found
      constructor
      · exact fun h => ⟨index, value, rfl, by simpa [Except.toOption] using h⟩
      · rintro ⟨_, _, hfound, hlt⟩
        obtain ⟨rfl, rfl⟩ := Prod.mk.inj (Except.ok.inj hfound)
        simpa [Except.toOption] using hlt)

/-- The value of a tuple, if it belongs to the state of a number. -/
def valueAt? (index : Nat) (tuple : String) : Option String :=
  match parse tuple with
  | .ok (own, value) => if own = index then some value else none
  | .error _ => none

/-- The values of the tuples that belong to the state of a number, in the order of the tuples. -/
def valuesAt (index : Nat) (tuples : List String) : List String :=
  tuples.filterMap (valueAt? index)

/-- Each tuple adds to the values by itself. -/
theorem valuesAt_cons (index : Nat) (tuple : String) (rest : List String) :
    valuesAt index (tuple :: rest) = valuesAt index [tuple] ++ valuesAt index rest := by
  rw [← List.singleton_append]
  exact List.filterMap_append

end Tuple

/-! ### The states of an instance -/

namespace Instance

/-- The tuples of a field. -/
def tuplesFor (i : Instance) (field : String) : List String :=
  (i.tuples.get? field).getD []

/-- A state of a number with the values that the tuples of a field give it. -/
def fill (i : Instance) (index : Nat) (state : State) (field : Field) : State :=
  state.addAll field.name (Tuple.valuesAt index (i.tuplesFor field.name))

/-- The state of a number with the values that the tuples of all fields give it. -/
def stateAt (i : Instance) (schema : Schema) (index : Nat) : State :=
  schema.foldl (i.fill index) (State.blank schema)

/-- A field holds the values of its tuples, as many times as it is listed. -/
theorem values?_foldl_fill (i : Instance) (index : Nat) (fields : Schema) (state : State)
    (name : String) :
    (fields.foldl (i.fill index) state).values? name = (state.values? name).map fun own =>
      sortValues ((List.replicate (fields.names.count name)
        (Tuple.valuesAt index (i.tuplesFor name))).flatten ++ own) := by
  induction fields generalizing state with
  | nil =>
    cases hown : state.values? name with
    | none => exact hown
    | some own =>
      have hsame := sortValues_eq_self (State.sorted_of_values? hown)
      simp [hown, Schema.names, hsame]
  | cons field rest ih =>
    rw [List.foldl_cons, ih, fill, State.values?_addAll, Option.map_map]
    refine Option.map_congr fun own _ => ?_
    by_cases hname : name = field.name
    · subst hname
      have hcount : (Schema.names (field :: rest)).count field.name =
          (Schema.names rest).count field.name + 1 := List.count_cons_self
      rw [hcount, List.replicate_succ, List.flatten_cons, Function.comp_apply, if_pos rfl]
      -- The last addition comes first, which makes no difference to what the field holds.
      refine sortValues_congr (((sortValues_perm _).append_left _).trans ?_)
      rw [← List.append_assoc]
      exact List.perm_append_comm.append_right own
    · have hcount : (Schema.names (field :: rest)).count name = (Schema.names rest).count name :=
        List.count_cons_of_ne (Ne.symm hname)
      rw [hcount, Function.comp_apply, if_neg hname]

/-- A state holds, in each field of the schema, the values of the tuples that belong there. -/
theorem values?_stateAt (i : Instance) (schema : Schema) (index : Nat) (name : String) :
    (i.stateAt schema index).values? name =
      if name ∈ schema.names then
        some (sortValues (List.replicate (schema.names.count name)
          (Tuple.valuesAt index (i.tuplesFor name))).flatten)
      else none := by
  rw [stateAt, values?_foldl_fill, State.values?_blank]
  split
  · rw [Option.map_some, List.append_nil]
  · rfl

/-- A state has the fields of the schema. -/
theorem over_stateAt (i : Instance) (schema : Schema) (index : Nat) :
    (i.stateAt schema index).Over schema := by
  intro name
  have hvalues := i.values?_stateAt schema index name
  rw [State.values?] at hvalues
  rw [State.hasField, NameMap.contains, hvalues]
  split <;> simp_all

/-- The order in which the tuples of each field are listed does not matter. -/
theorem stateAt_congr {i j : Instance} {schema : Schema}
    (h : ∀ field ∈ schema, (i.tuplesFor field.name).Perm (j.tuplesFor field.name)) :
    i.stateAt schema = j.stateAt schema := by
  funext index
  refine List.foldl_ext _ _ _ fun state field hfield => ?_
  exact state.addAll_congr field.name ((h field hfield).filterMap _)

end Instance

namespace Solution

/-- A tuple is added exactly if it belongs to a state, and its value goes there. -/
theorem addTuple_eq_ok_iff {field tuple : String} {chain chain' : List State} :
    addTuple field chain tuple = .ok chain' ↔ Tuple.Belongs chain.length tuple ∧
      chain' = chain.mapIdx fun k state => state.addAll field (Tuple.valuesAt k [tuple]) := by
  have hmodify {index : Nat} {value : String} (hparse : Tuple.parse tuple = .ok (index, value)) :
      (chain.modify index fun state => state.add field value) =
        chain.mapIdx fun k state => state.addAll field (Tuple.valuesAt k [tuple]) := by
    refine List.ext_getElem? fun k => ?_
    rw [List.getElem?_modify, List.getElem?_mapIdx]
    refine Option.map_congr fun state _ => ?_
    by_cases hk : index = k
    · simp [Tuple.valuesAt, Tuple.valueAt?, hparse, hk, State.addAll]
    · simp [Tuple.valuesAt, Tuple.valueAt?, hparse, hk, State.addAll]
  unfold addTuple Tuple.Belongs
  cases hparse : Tuple.parse tuple with
  | error e => simp
  | ok found =>
    obtain ⟨index, value⟩ := found
    simp only [Except.ok.injEq, Prod.mk.injEq, hmodify hparse]
    by_cases hindex : index < chain.length
    · rw [if_pos hindex, Except.ok.injEq]
      exact ⟨fun h => ⟨⟨_, _, ⟨rfl, rfl⟩, hindex⟩, h.symm⟩, fun h => h.2.symm⟩
    · rw [if_neg hindex]
      constructor
      · intro h
        cases h
      · rintro ⟨⟨_, _, ⟨rfl, rfl⟩, hlt⟩, -⟩
        exact absurd hlt hindex

/-- Tuples are added one after another exactly if each belongs to a state, and then a state gets the
values of those that belong to it. -/
theorem foldlM_addTuple_eq_ok_iff {field : String} {tuples : List String}
    {chain chain' : List State} :
    tuples.foldlM (addTuple field) chain = .ok chain' ↔
      (∀ tuple ∈ tuples, Tuple.Belongs chain.length tuple) ∧
        chain' = chain.mapIdx fun k state => state.addAll field (Tuple.valuesAt k tuples) := by
  induction tuples generalizing chain with
  | nil =>
    have hsame : (chain.mapIdx fun k state => state.addAll field (Tuple.valuesAt k [])) = chain :=
      List.ext_getElem? fun k => by simp [Tuple.valuesAt, State.addAll]
    rw [hsame]
    simp [pure, Except.pure, eq_comm]
  | cons tuple rest ih =>
    have hboth : (chain.mapIdx fun k state => state.addAll field (Tuple.valuesAt k (tuple :: rest))) =
        (chain.mapIdx fun k state => state.addAll field (Tuple.valuesAt k [tuple])).mapIdx
          fun k state => state.addAll field (Tuple.valuesAt k rest) := by
      rw [List.mapIdx_mapIdx]
      refine congrArg (List.mapIdx · chain) (funext fun k => funext fun state => ?_)
      rw [Tuple.valuesAt_cons, State.addAll_append]
      rfl
    rw [foldlM_cons_eq_ok_iff, List.forall_mem_cons, hboth]
    constructor
    · rintro ⟨next, hnext, hrest⟩
      obtain ⟨hbelongs, rfl⟩ := addTuple_eq_ok_iff.1 hnext
      rw [ih, List.length_mapIdx] at hrest
      exact ⟨⟨hbelongs, hrest.1⟩, hrest.2⟩
    · rintro ⟨⟨hbelongs, hrest⟩, rfl⟩
      refine ⟨_, addTuple_eq_ok_iff.2 ⟨hbelongs, rfl⟩, ih.2 ⟨?_, rfl⟩⟩
      rwa [List.length_mapIdx]

variable {s : Solution} {i : Instance}

/-- The tuples of a declared field are those of the instance. -/
theorem tuples_eq_ok (hi : s.document.instances[s.index]? = some i) {name : String}
    (hname : name ∈ s.document.fields.names) : s.tuples name = .ok (i.tuplesFor name) := by
  rw [tuples, if_pos (Schema.declares_iff.2 hname), instance?, hi]
  rfl

/-- A declared field is added exactly if each of its tuples belongs to a state. -/
theorem addField_eq_ok_iff (hi : s.document.instances[s.index]? = some i) {field : Field}
    (hfield : field ∈ s.document.fields) {chain chain' : List State} :
    s.addField chain field = .ok chain' ↔
      (∀ tuple ∈ i.tuplesFor field.name, Tuple.Belongs chain.length tuple) ∧
        chain' = chain.mapIdx fun k state => i.fill k state field := by
  rw [addField, tuples_eq_ok hi (List.mem_map.2 ⟨field, hfield, rfl⟩)]
  exact foldlM_addTuple_eq_ok_iff

/-- Declared fields are added one after another exactly if each of their tuples belongs to a
state. -/
theorem foldlM_addField_eq_ok_iff (hi : s.document.instances[s.index]? = some i) {fields : Schema}
    (hfields : fields ⊆ s.document.fields) {chain chain' : List State} :
    fields.foldlM s.addField chain = .ok chain' ↔
      (∀ field ∈ fields, ∀ tuple ∈ i.tuplesFor field.name, Tuple.Belongs chain.length tuple) ∧
        chain' = chain.mapIdx fun k state => fields.foldl (i.fill k) state := by
  induction fields generalizing chain with
  | nil =>
    have hsame : (chain.mapIdx fun k state => ([] : Schema).foldl (i.fill k) state) = chain :=
      List.ext_getElem? fun k => by simp
    rw [hsame]
    simp [pure, Except.pure, eq_comm]
  | cons field rest ih =>
    obtain ⟨hfield, hrest⟩ := List.cons_subset.1 hfields
    have hboth : (chain.mapIdx fun k state => (field :: rest).foldl (i.fill k) state) =
        (chain.mapIdx fun k state => i.fill k state field).mapIdx
          fun k state => rest.foldl (i.fill k) state := by
      rw [List.mapIdx_mapIdx]
      rfl
    rw [foldlM_cons_eq_ok_iff, List.forall_mem_cons, hboth]
    constructor
    · rintro ⟨next, hnext, hmore⟩
      obtain ⟨hbelongs, rfl⟩ := (addField_eq_ok_iff hi hfield).1 hnext
      rw [ih hrest, List.length_mapIdx] at hmore
      exact ⟨⟨hbelongs, hmore.1⟩, hmore.2⟩
    · rintro ⟨⟨hbelongs, hmore⟩, rfl⟩
      refine ⟨_, (addField_eq_ok_iff hi hfield).2 ⟨hbelongs, rfl⟩, (ih hrest).2 ⟨?_, rfl⟩⟩
      rwa [List.length_mapIdx]

/-- The chain of an instance is decoded exactly if the signature is the one asked for and each tuple
of a declared field belongs to a state. -/
theorem chain_eq_ok_iff (hi : s.document.instances[s.index]? = some i) {sig : String}
    {schema : Schema} {chain : List State} :
    s.chain sig = .ok (schema, chain) ↔ s.document.stateSig = sig ∧
      (∀ field ∈ s.document.fields, ∀ tuple ∈ i.tuplesFor field.name,
        Tuple.Belongs i.stateCount tuple) ∧
      schema = s.document.fields ∧
      chain = (List.range i.stateCount).map (i.stateAt s.document.fields) := by
  have hblank : ((List.replicate i.stateCount (State.blank s.document.fields)).mapIdx
      fun k state => s.document.fields.foldl (i.fill k) state) =
        (List.range i.stateCount).map (i.stateAt s.document.fields) := by
    refine List.ext_getElem (by simp) fun k _ _ => ?_
    simp [Instance.stateAt]
  rw [Solution.chain, stateCount, fields, instance?, hi]
  by_cases hsig : s.document.stateSig = sig
  · rw [if_pos hsig]
    simp only [bind_eq_ok_iff, Except.ok.injEq, exists_eq_left', pure, Except.pure,
      foldlM_addField_eq_ok_iff hi (List.Subset.refl _), List.length_replicate, hblank,
      Prod.mk.injEq, hsig, true_and]
    constructor
    · rintro ⟨_, ⟨hbelongs, rfl⟩, rfl, rfl⟩
      exact ⟨hbelongs, rfl, rfl⟩
    · rintro ⟨hbelongs, rfl, rfl⟩
      exact ⟨_, ⟨hbelongs, rfl⟩, rfl, rfl⟩
  · simp [hsig, bind, Except.bind]

/-- A decoded chain belongs to an instance of the document, whose signature was asked for, and has
the states of the instance, as many as it says. -/
theorem of_chain_eq_ok {sig : String} {schema : Schema} {chain : List State}
    (h : s.chain sig = .ok (schema, chain)) :
    s.document.stateSig = sig ∧ schema = s.document.fields ∧
      ∃ i, s.document.instances[s.index]? = some i ∧ chain.length = i.stateCount ∧
        chain = (List.range i.stateCount).map (i.stateAt s.document.fields) := by
  cases hi : s.document.instances[s.index]? with
  | none =>
    simp only [Solution.chain, stateCount, instance?, hi, bind_eq_ok_iff] at h
    obtain ⟨_, -, _, ⟨_, -, _, hinstance, -⟩, -⟩ := h
    cases hinstance
  | some i =>
    obtain ⟨hsig, -, hschema, hchain⟩ := (chain_eq_ok_iff hi).1 h
    exact ⟨hsig, hschema, i, rfl, by simp [hchain], hchain⟩

/-- The states of a decoded chain have the fields of its schema. -/
theorem over_of_chain {sig : String} {schema : Schema} {chain : List State}
    (h : s.chain sig = .ok (schema, chain)) : ∀ state ∈ chain, state.Over schema := by
  obtain ⟨-, rfl, i, -, -, rfl⟩ := of_chain_eq_ok h
  intro state hstate
  obtain ⟨index, -, rfl⟩ := List.mem_map.1 hstate
  exact i.over_stateAt _ index

end Solution

/-- The first solution of a document is at its first instance. -/
theorem Document.instance_first {document : Document} {i : Instance} {rest : List Instance}
    (h : document.instances = i :: rest) :
    document.first.document.instances[document.first.index]? = some i := by
  change document.instances[0]? = some i
  rw [h]
  rfl

/-- The first instance of a document is decoded exactly if each tuple of a declared field belongs to
one of its states. Then each state has the declared fields, and holds in each of them the values of
the tuples that belong to it, as often as there are such tuples. The order in which the tuples of a
field are listed does not matter. -/
theorem Document.chain_first {document : Document} {i : Instance} {rest : List Instance}
    (hinstances : document.instances = i :: rest) (hnodup : document.fields.names.Nodup) :
    ((∃ found, document.first.chain document.stateSig = .ok found) ↔
      ∀ field ∈ document.fields, ∀ tuple ∈ i.tuplesFor field.name,
        Tuple.Belongs i.stateCount tuple) ∧
    (∀ schema chain, document.first.chain document.stateSig = .ok (schema, chain) →
      schema = document.fields ∧ chain.length = i.stateCount ∧
      ∀ (k : Nat) (state : State), chain[k]? = some state → state.Over document.fields ∧
        ∀ field ∈ document.fields, state.values? field.name =
          some (sortValues (Tuple.valuesAt k (i.tuplesFor field.name)))) ∧
    ∀ (other : Document) (j : Instance) (more : List Instance),
      other.stateSig = document.stateSig → other.fields = document.fields →
      other.instances = j :: more → j.stateCount = i.stateCount →
      (∀ field ∈ document.fields, (j.tuplesFor field.name).Perm (i.tuplesFor field.name)) →
      (other.first.chain document.stateSig).toOption =
        (document.first.chain document.stateSig).toOption := by
  have hi := instance_first hinstances
  refine ⟨?_, fun schema chain h => ?_, ?_⟩
  · constructor
    · rintro ⟨⟨schema, chain⟩, h⟩
      exact ((Solution.chain_eq_ok_iff hi).1 h).2.1
    · intro hbelongs
      exact ⟨_, (Solution.chain_eq_ok_iff hi).2 ⟨rfl, hbelongs, rfl, rfl⟩⟩
  · obtain ⟨-, -, rfl, rfl⟩ := (Solution.chain_eq_ok_iff hi).1 h
    refine ⟨rfl, by simp, fun k state hstate => ?_⟩
    rw [List.getElem?_map] at hstate
    obtain ⟨index, hindex, rfl⟩ := Option.map_eq_some_iff.1 hstate
    obtain ⟨_, hrange⟩ := List.getElem?_eq_some_iff.1 hindex
    obtain rfl : k = index := by simpa using hrange
    refine ⟨i.over_stateAt _ k, fun field hfield => ?_⟩
    have hname : field.name ∈ document.fields.names := List.mem_map.2 ⟨field, hfield, rfl⟩
    have hcount := List.count_eq_one_of_mem hnodup hname
    rw [Instance.values?_stateAt]
    simp [Document.first, hname, hcount]
  · intro other j more hsig hfields hother hcount hperm
    have hj := instance_first hother
    have hbelongs : (∀ field ∈ other.fields, ∀ tuple ∈ j.tuplesFor field.name,
        Tuple.Belongs j.stateCount tuple) ↔ ∀ field ∈ document.fields,
          ∀ tuple ∈ i.tuplesFor field.name, Tuple.Belongs i.stateCount tuple := by
      rw [hfields, hcount]
      refine forall₂_congr fun field hfield => ?_
      simp only [(hperm field hfield).mem_iff]
    have hstates : j.stateAt other.fields = i.stateAt document.fields := by
      rw [hfields]
      exact Instance.stateAt_congr hperm
    refine Option.ext fun ⟨schema, chain⟩ => ?_
    rw [toOption_eq_some_iff, toOption_eq_some_iff, Solution.chain_eq_ok_iff hj,
      Solution.chain_eq_ok_iff hi]
    change (other.stateSig = _ ∧ (∀ field ∈ other.fields, _) ∧ schema = other.fields ∧
      chain = (List.range j.stateCount).map (j.stateAt other.fields)) ↔ _
    rw [hbelongs, hstates, hcount, hfields, hsig]
    rfl

/-- A document whose tuples are out of order, and that tells of a field it does not declare. -/
def Document.shuffled : Document :=
  ⟨"State", [⟨"lamp", 1⟩, ⟨"door", 1⟩],
    [⟨2, .ofList [("lamp", ["State$1->Green$0", "State$0->Red$0", "State$1->Amber$0",
      "State$1->Green$0"]), ("hidden", ["State"])], .empty⟩]⟩

/-- The document is decoded, and its second state holds three values of the lamp in order. -/
theorem Document.chain_first_shuffled :
    shuffled.fields.names.Nodup ∧ ∃ schema chain,
      shuffled.first.chain "State" = .ok (schema, chain) ∧
        ∃ state, chain[1]? = some state ∧
          state.values? "lamp" = some ["Amber", "Green", "Green"] := by
  have hnodup : shuffled.fields.names.Nodup := by decide +kernel
  have hinstances : shuffled.instances = shuffled.instances.head (by decide) :: [] := rfl
  obtain ⟨hdecoded, hchain, -⟩ := chain_first hinstances hnodup
  obtain ⟨⟨schema, chain⟩, h⟩ := hdecoded.2 (by decide +kernel)
  obtain ⟨-, hlength, hstates⟩ := hchain schema chain h
  have hlong : 1 < chain.length := by
    rw [hlength]
    decide
  have hsecond : chain[1]? = some chain[1] := List.getElem?_eq_getElem hlong
  obtain ⟨-, hvalues⟩ := hstates 1 _ hsecond
  refine ⟨hnodup, schema, chain, h, _, hsecond, ?_⟩
  exact (hvalues ⟨"lamp", 1⟩ (by decide)).trans (by decide +kernel)

end StateExplorer
