import Mathlib.Data.List.Nodup
import StateExplorer.Proofs.Solution.Decoding

/-!
# Answers are decoded

An instance that was written for a chain of states is always decoded, if no arrow is in the state
signature: each of its tuples belongs to a state of the chain. The states that come back are those
it was written for, if no field is declared twice and every value comes back as it was written.
-/

namespace StateExplorer

/-- An instance that was written for a chain is decoded. -/
theorem Solution.Tells.exists_chain {s : Solution} {sig : String}
    (hsig : ¬Tuple.arrow <:+: sig.toList) (hdocument : s.document.stateSig = sig)
    {views : List View} (htells : s.Tells sig views) (hlength : views.length ≤ Text.maxWord) :
    ∃ chain, s.chain sig = .ok (s.document.fields, chain) := by
  obtain ⟨i, hi, hcount, htuples⟩ := htells
  refine ⟨_, (chain_eq_ok_iff hi).2 ⟨hdocument, fun field hfield => ?_, rfl, rfl⟩⟩
  rw [Instance.tuplesFor_eq htuples (List.mem_map.2 ⟨field, hfield, rfl⟩), hcount,
    ← List.length_map (f := State.ofFields), Tuple.forall_belongs_tuplesOf_iff hsig]
  intro k state hk hstate
  have hshort := (List.getElem?_eq_some_iff.1 hstate).1
  rw [List.length_map] at hshort
  omega

/-- Whether tuples over a schema carry a view: it has the fields of the schema, and each of its
values comes back as it was written. -/
structure Schema.Carries (schema : Schema) (view : View) : Prop where
  fields : ∀ name, (view.get? name).isSome = true ↔ name ∈ schema.names
  values : ∀ name values, view.get? name = some values → ∀ v ∈ values, Tuple.readBack v = v

/-- What copies a view that tuples carry is the state of the view, if no field is declared twice. -/
theorem State.Copies.eq_ofFields {schema : Schema} (hnodup : schema.names.Nodup) {view : View}
    (hview : schema.Carries view) {state : State} (h : state.Copies schema view) :
    state = State.ofFields view := by
  refine State.ext (NameMap.ext_get? fun name => ?_)
  by_cases hname : name ∈ schema.names
  · obtain ⟨values, hvalues⟩ := Option.isSome_iff_exists.1 ((hview.fields name).2 hname)
    obtain ⟨own, hown, hperm⟩ := h.exists_perm hname (by
      rw [hvalues]
      exact hview.values name values hvalues)
    rw [hvalues, List.count_eq_one_of_mem hnodup hname, List.replicate_one, List.flatten_singleton,
      Option.getD_some] at hperm
    rw [State.ofFields, NameMap.get?_map, hvalues, Option.map_some]
    exact hown.trans (congrArg some (eq_sortValues (sorted_of_values? hown) hperm))
  · have hnone := mt (hview.fields name).1 hname
    rw [Option.not_isSome_iff_eq_none] at hnone
    have hstate : state.fields.get? name = none :=
      Option.not_isSome_iff_eq_none.1 (mt (h.fields name).1 hname)
    rw [hstate, State.ofFields, NameMap.get?_map, hnone]
    rfl

/-- If an instance that was written for views which tuples carry is decoded, then as the states of
these views, if no field is declared twice. -/
theorem Solution.Tells.eq_of_chain {s : Solution} {sig : String}
    (hsig : ¬Tuple.arrow <:+: sig.toList) {views : List View} (htells : s.Tells sig views)
    (hnodup : s.document.fields.names.Nodup)
    (hviews : ∀ view ∈ views, s.document.fields.Carries view) {schema : Schema}
    {chain : List State} (h : s.chain sig = .ok (schema, chain)) :
    chain = views.map State.ofFields := by
  obtain ⟨rfl, hsame, hcopies⟩ := htells.copies hsig h
  refine List.ext_getElem (by simpa using hsame) fun k hk hview => ?_
  rw [List.length_map] at hview
  rw [List.getElem_map]
  exact (hcopies k chain[k] views[k] (List.getElem?_eq_getElem hk)
    (List.getElem?_eq_getElem hview)).eq_ofFields hnodup (hviews _ (List.getElem_mem hview))

/-- An instance that was written for views which tuples carry is decoded as the states of these
views, if no field is declared twice. -/
theorem Solution.Tells.chain_eq {s : Solution} {sig : String} (hsig : ¬Tuple.arrow <:+: sig.toList)
    (hdocument : s.document.stateSig = sig) {views : List View} (htells : s.Tells sig views)
    (hlength : views.length ≤ Text.maxWord) (hnodup : s.document.fields.names.Nodup)
    (hviews : ∀ view ∈ views, s.document.fields.Carries view) :
    s.chain sig = .ok (s.document.fields, views.map State.ofFields) := by
  obtain ⟨chain, hchain⟩ := htells.exists_chain hsig hdocument hlength
  rw [hchain, htells.eq_of_chain hsig hnodup hviews hchain]

/-! ### One chain alone -/

namespace Document

/-- The document that tells one chain. -/
def ofChain (sig : String) (schema : Schema) (chain : List State) : Document :=
  ⟨sig, schema, [Instance.ofChain sig schema chain]⟩

variable {sig : String} {schema : Schema} {chain : List State}

/-- A chain that was told is decoded as it was exactly if no state has values whose number fits no
word. -/
theorem chain_ofChain_eq_ok_iff (hsig : ¬Tuple.arrow <:+: sig.toList) (hnodup : schema.names.Nodup)
    (hover : ∀ state ∈ chain, state.Over schema)
    (hback : ∀ state ∈ chain, ∀ name values, state.values? name = some values →
      ∀ v ∈ values, Tuple.readBack v = v) :
    (ofChain sig schema chain).first.chain sig = .ok (schema, chain) ↔
      ∀ (k : Nat) (state : State), Text.maxWord < k → chain[k]? = some state →
        ∀ name values, state.values? name = some values → values = [] := by
  have hi : (ofChain sig schema chain).first.document.instances[(ofChain sig schema
      chain).first.index]? = some (Instance.ofChain sig schema chain) := instance_first rfl
  have htuples {name : String} (hname : name ∈ schema.names) :
      (Instance.ofChain sig schema chain).tuplesFor name = Instance.tuplesOf sig name chain :=
    Instance.tuplesFor_eq rfl hname
  constructor
  · intro h k state hk hstate name values hvalues
    have hname : name ∈ schema.names :=
      (hover state (List.mem_of_getElem? hstate) name).1 (Option.isSome_iff_exists.2 ⟨_, hvalues⟩)
    obtain ⟨field, hfield, rfl⟩ := List.mem_map.1 hname
    have hbelongs := ((Solution.chain_eq_ok_iff hi).1 h).2.1 field hfield
    rw [htuples hname] at hbelongs
    have hnil := (Tuple.forall_belongs_tuplesOf_iff hsig).1 hbelongs k state hk hstate
    rwa [hvalues] at hnil
  · intro h
    obtain ⟨found, hfound⟩ : ∃ found, (ofChain sig schema chain).first.chain sig = .ok found := by
      refine ⟨_, (Solution.chain_eq_ok_iff hi).2 ⟨rfl, fun field hfield => ?_, rfl, rfl⟩⟩
      rw [htuples (List.mem_map.2 ⟨field, hfield, rfl⟩)]
      refine (Tuple.forall_belongs_tuplesOf_iff hsig).2 fun k state hk hstate => ?_
      cases hvalues : state.values? field.name with
      | none => rfl
      | some values => exact h k state hk hstate field.name values hvalues
    have hviews : (chain.map State.fields).map State.ofFields = chain := by
      simp [Function.comp_def, State.ofFields_fields]
    have htells : (ofChain sig schema chain).first.Tells sig (chain.map State.fields) :=
      ⟨Instance.ofChain sig schema chain, hi, by simp [Instance.ofChain], by rw [hviews]; rfl⟩
    have hcarries : ∀ view ∈ chain.map State.fields, schema.Carries view := by
      intro view hview
      obtain ⟨state, hstate, rfl⟩ := List.mem_map.1 hview
      exact ⟨hover state hstate, hback state hstate⟩
    obtain ⟨rfl, -⟩ := htells.copies hsig hfound
    have heq := htells.eq_of_chain hsig hnodup hcarries hfound
    rw [hviews] at heq
    rw [hfound, ← heq]

/-- A chain that was told is decoded as it was, if its states have exactly the fields of the schema,
no field is declared twice, and every value comes back as it was written. -/
theorem chain_ofChain (hsig : ¬Tuple.arrow <:+: sig.toList) (hnodup : schema.names.Nodup)
    (hlength : chain.length ≤ Text.maxWord) (hover : ∀ state ∈ chain, state.Over schema)
    (hback : ∀ state ∈ chain, ∀ name values, state.values? name = some values →
      ∀ v ∈ values, Tuple.readBack v = v) :
    (ofChain sig schema chain).first.chain sig = .ok (schema, chain) := by
  refine (chain_ofChain_eq_ok_iff hsig hnodup hover hback).2 fun k state hk hstate => ?_
  have hshort := (List.getElem?_eq_some_iff.1 hstate).1
  omega

/-- A chain is decoded as it was told, whatever its length, if its states have exactly the fields of
the schema, no field is declared twice, and no column of a value has blanks around it or the mark of
an atom in it. Only a state whose number fits no word cannot be told to have values; a chain that
long fits into no memory. -/
theorem chain_ofChain_of_columns (hsig : ¬Tuple.arrow <:+: sig.toList)
    (hnodup : schema.names.Nodup) (hover : ∀ state ∈ chain, state.Over schema)
    (hcolumns : ∀ state ∈ chain, ∀ name values, state.values? name = some values →
      ∀ v ∈ values, ∀ column ∈ Text.columns v.toList,
        Text.trim column = column ∧ ¬Tuple.atomMark <:+: column) :
    (ofChain sig schema chain).first.chain sig = .ok (schema, chain) ↔
      ∀ (k : Nat) (state : State), Text.maxWord < k → chain[k]? = some state →
        ∀ name values, state.values? name = some values → values = [] :=
  chain_ofChain_eq_ok_iff hsig hnodup hover fun state hstate name values hvalues v hv =>
    Tuple.readBack_eq_self (hcolumns state hstate name values hvalues v hv)

/-- A chain of three states with a value twice, pairs, and no values at all. -/
def wires : List State :=
  [.ofFields (.ofList [("lamp", ["Red", "Red"]), ("wire", ["B->A", "A->B - C"])]),
    .ofFields (.ofList [("lamp", ["$ 0", ""]), ("wire", [])]),
    .ofFields (.ofList [("lamp", []), ("wire", [])])]

/-- The three states are decoded as they were told, also under a signature whose name looks like an
atom. -/
theorem chain_ofChain_of_columns_wires :
    (∀ state ∈ wires, state.Over [⟨"wire", 2⟩, ⟨"lamp", 1⟩]) ∧
      (ofChain "State$1-" [⟨"wire", 2⟩, ⟨"lamp", 1⟩] wires).first.chain "State$1-" =
        .ok ([⟨"wire", 2⟩, ⟨"lamp", 1⟩], wires) := by
  have hover : ∀ state ∈ wires, state.Over [⟨"wire", 2⟩, ⟨"lamp", 1⟩] := by decide +kernel
  have hentries : ∀ state ∈ wires, ∀ entry ∈ state.fields.entries, ∀ v ∈ entry.2,
      ∀ column ∈ Text.columns v.toList, Text.trim column = column ∧ ¬Tuple.atomMark <:+: column := by
    decide +kernel
  refine ⟨hover, (chain_ofChain_of_columns (by decide +kernel) (by decide +kernel) hover
    fun state hstate name values hvalues =>
      hentries state hstate (name, values) (NameMap.mem_entries_iff.2 hvalues)).2 ?_⟩
  intro k state hk hstate
  have hshort := (List.getElem?_eq_some_iff.1 hstate).1
  have hthree : wires.length = 3 := rfl
  have hword : 3 < Text.maxWord := by decide +kernel
  omega

end Document

end StateExplorer
