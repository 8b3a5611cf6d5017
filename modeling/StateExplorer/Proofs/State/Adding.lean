import StateExplorer.Proofs.State.Sets
import StateExplorer.Proofs.Text.Utf8

/-!
# Values are added in any order

A field of a state holds the values that were added to it, in ascending order, and a pair with a field
that the state does not have adds nothing. So two sequences of pairs make the same state of a blank one
exactly if they add the same values to each field of the schema, equally often.
-/

namespace StateExplorer.State

/-- The state with several more values, each in the field it is paired with. -/
def addPairs (state : State) (pairs : List (String × String)) : State :=
  pairs.foldl (fun state pair => state.add pair.1 pair.2) state

/-- The values that are paired with a field, in the order of the pairs. -/
def pairedWith (field : String) (pairs : List (String × String)) : List String :=
  (pairs.filter (·.1 = field)).map Prod.snd

/-- The values that are paired with a field are paired with no other. -/
theorem pairedWith_map (field name : String) (values : List String) :
    pairedWith field (values.map (name, ·)) = if name = field then values else [] := by
  by_cases h : name = field <;> simp [pairedWith, List.filter_map, Function.comp_def, h]

/-- What is paired with a field in two sequences is so in one after the other. -/
theorem pairedWith_append (field : String) (pairs more : List (String × String)) :
    pairedWith field (pairs ++ more) = pairedWith field pairs ++ pairedWith field more := by
  simp [pairedWith]

/-- One more value changes its field only. -/
theorem values?_add (state : State) (field value other : String) :
    (state.add field value).values? other = (state.values? other).map fun own =>
      if other = field then insertValue value own else own :=
  NameMap.get?_modify state.fields field (insertValue value) other

/-- A field gets all further values that are paired with it, and keeps its order. -/
theorem values?_addPairs (state : State) (pairs : List (String × String)) (field : String) :
    (state.addPairs pairs).values? field =
      (state.values? field).map fun own => sortValues (pairedWith field pairs ++ own) := by
  induction pairs generalizing state with
  | nil =>
    cases hown : state.values? field with
    | none => exact hown
    | some own =>
      have hsame := sortValues_eq_self (sorted_of_values? hown)
      simp [addPairs, pairedWith, hown, hsame]
  | cons pair rest ih =>
    obtain ⟨name, value⟩ := pair
    have hadd : state.addPairs ((name, value) :: rest) = (state.add name value).addPairs rest := rfl
    rw [hadd, ih, values?_add, Option.map_map]
    refine Option.map_congr fun own _ => ?_
    by_cases hname : field = name
    · subst hname
      have hperm : (pairedWith field rest ++ insertValue value own).Perm
          (value :: pairedWith field rest ++ own) :=
        ((insertValue_perm value own).append_left _).trans List.perm_middle
      simpa [pairedWith] using sortValues_congr hperm
    · simp [pairedWith, hname, Ne.symm hname]

/-! ### Several values of one field -/

/-- The state with several more values in a field. -/
def addAll (state : State) (field : String) (values : List String) : State :=
  values.foldl (fun state value => state.add field value) state

/-- Values are added one list after the other. -/
theorem addAll_append (state : State) (field : String) (values more : List String) :
    state.addAll field (values ++ more) = (state.addAll field values).addAll field more :=
  List.foldl_append

/-- The values of one field are pairs with that field. -/
theorem addAll_eq_addPairs (state : State) (field : String) (values : List String) :
    state.addAll field values = state.addPairs (values.map (field, ·)) := by
  rw [addAll, addPairs, List.foldl_map]

/-- A field gets all further values, and keeps its order; the other fields are left. -/
theorem values?_addAll (state : State) (field : String) (values : List String) (other : String) :
    (state.addAll field values).values? other = (state.values? other).map fun own =>
      if other = field then sortValues (values ++ own) else own := by
  rw [addAll_eq_addPairs, values?_addPairs]
  refine Option.map_congr fun own hown => ?_
  rw [pairedWith_map]
  by_cases hother : other = field
  · rw [if_pos hother, if_pos hother.symm]
  · rw [if_neg hother, if_neg (Ne.symm hother), List.nil_append,
      sortValues_eq_self (sorted_of_values? hown)]

/-- The order in which values are added does not matter. -/
theorem addAll_congr (state : State) (field : String) {values others : List String}
    (h : values.Perm others) : state.addAll field values = state.addAll field others := by
  refine ext_values? fun other => ?_
  rw [values?_addAll, values?_addAll]
  refine Option.map_congr fun own _ => ?_
  rw [sortValues_congr (h.append_right own)]

/-! ### From a blank state -/

/-- A state without values has the fields of its schema, each of them empty. -/
theorem values?_blank (schema : Schema) (name : String) :
    (blank schema).values? name = if name ∈ schema.names then some [] else none := by
  rw [values?, blank, ofFields, NameMap.get?_map, NameMap.get?_ofList_map]
  split <;> rfl

/-- Whether a state has exactly the fields of a schema. -/
def Over (schema : Schema) (state : State) : Prop :=
  ∀ field, state.hasField field = true ↔ field ∈ schema.names

instance (schema : Schema) (state : State) : Decidable (state.Over schema) :=
  decidable_of_iff ((∀ entry ∈ state.fields.entries, entry.1 ∈ schema.names) ∧
      ∀ name ∈ schema.names, state.hasField name = true) (by
    constructor
    · rintro ⟨hentries, hnames⟩ field
      refine ⟨fun h => ?_, hnames field⟩
      obtain ⟨values, hvalues⟩ := Option.isSome_iff_exists.1 h
      exact hentries (field, values) (NameMap.mem_entries_iff.2 hvalues)
    · refine fun h => ⟨fun entry hentry => (h entry.1).1 ?_, fun name hname => (h name).2 hname⟩
      exact Option.isSome_iff_exists.2 ⟨entry.2, NameMap.mem_entries_iff.1 hentry⟩)

/-- A field of the schema holds what is paired with it, in order, and there are no other fields. -/
theorem values?_addPairs_blank (schema : Schema) (pairs : List (String × String)) (name : String) :
    ((blank schema).addPairs pairs).values? name =
      if name ∈ schema.names then some (sortValues (pairedWith name pairs)) else none := by
  rw [values?_addPairs, values?_blank]
  split
  · rw [Option.map_some, List.append_nil]
  · rfl

/-- Adding values adds no field and removes none. -/
theorem over_addPairs_blank (schema : Schema) (pairs : List (String × String)) :
    ((blank schema).addPairs pairs).Over schema := by
  intro name
  change (((blank schema).addPairs pairs).values? name).isSome = true ↔ name ∈ schema.names
  rw [values?_addPairs_blank]
  split <;> simp_all

/-- Sequences of pairs make the same state exactly if they pair the same values with each field of the
schema, equally often. -/
theorem addPairs_blank_eq_iff {schema : Schema} {pairs others : List (String × String)} :
    (blank schema).addPairs pairs = (blank schema).addPairs others ↔
      ∀ name ∈ schema.names, (pairedWith name pairs).Perm (pairedWith name others) := by
  constructor
  · intro h name hname
    have hvalues := congrArg (·.values? name) h
    simp only [values?_addPairs_blank, if_pos hname, Option.some.injEq] at hvalues
    exact (sortValues_perm _).symm.trans (hvalues ▸ sortValues_perm _)
  · intro h
    refine ext_values? fun name => ?_
    rw [values?_addPairs_blank, values?_addPairs_blank]
    split
    · rw [sortValues_congr (h name ‹_›)]
    · rfl

/-- Pairs with fields that are not declared pair nothing with those that are. -/
theorem pairedWith_filter_declares {schema : Schema} {name : String} (hname : name ∈ schema.names)
    (pairs : List (String × String)) :
    pairedWith name (pairs.filter fun pair => schema.declares pair.1) = pairedWith name pairs := by
  rw [pairedWith, pairedWith, List.filter_filter]
  refine congrArg (List.map Prod.snd) (List.filter_congr fun pair _ => ?_)
  by_cases hpair : pair.1 = name
  · simp [hpair, Schema.declares_iff.2 hname]
  · simp [hpair]

/-- The pairs of a map of fields: each name with each of its values. -/
def pairsOf (fields : NameMap (List String)) : List (String × String) :=
  fields.entries.flatMap fun entry => entry.2.map (entry.1, ·)

/-- The pairs of a map pair each name with its values. -/
theorem pairedWith_pairsOf (fields : NameMap (List String)) (name : String) :
    pairedWith name (pairsOf fields) = (fields.get? name).getD [] := by
  have hentries {entries : List (String × List String)} (h : (entries.map Prod.fst).Nodup) :
      pairedWith name (entries.flatMap fun entry => entry.2.map (entry.1, ·)) =
        (entries.lookup name).getD [] := by
    induction entries with
    | nil => rfl
    | cons entry rest ih =>
      obtain ⟨own, values⟩ := entry
      rw [List.map_cons, List.nodup_cons] at h
      rw [List.flatMap_cons, pairedWith_append, pairedWith_map, ih h.2, NameMap.lookup_cons_eq]
      by_cases hname : name = own
      · subst hname
        have hrest : rest.lookup name = none := by
          refine List.lookup_eq_none_iff.2 fun entry hentry => ?_
          simpa using fun heq => h.1 (List.mem_map.2 ⟨entry, hentry, heq.symm⟩)
        simp [hrest]
      · simp [hname, Ne.symm hname]
  exact hentries fields.nodup_names

/-- The state of a map is that of a blank one with the same fields after all pairs of the map. -/
theorem addPairs_pairsOf {schema : Schema} {fields : NameMap (List String)}
    (h : ∀ name, fields.contains name = true ↔ name ∈ schema.names) :
    (blank schema).addPairs (pairsOf fields) = ofFields fields := by
  refine ext_values? fun name => ?_
  rw [values?_addPairs_blank, values?_ofFields, pairedWith_pairsOf]
  have hname := h name
  rw [NameMap.contains] at hname
  cases hvalues : fields.get? name with
  | none =>
    rw [hvalues] at hname
    exact if_neg fun hmem => absurd (hname.2 hmem) (by simp)
  | some values =>
    rw [hvalues] at hname
    exact if_pos (hname.1 rfl)

/-- Two sequences of pairs make the same state of a blank one exactly if they pair the same values with
each field of the schema, equally often. The state has the fields of the schema, each with the values
that are paired with it in the order of their bytes, and pairs with other fields make no difference.
The pairs of a map, in any order, make the state of the map. -/
theorem addPairs_blank_canonical (schema : Schema) (pairs others : List (String × String)) :
    ((blank schema).addPairs pairs = (blank schema).addPairs others ↔
      ∀ name ∈ schema.names, (pairedWith name pairs).Perm (pairedWith name others)) ∧
    ((blank schema).addPairs pairs).Over schema ∧
    (∀ name ∈ schema.names, ∃ values, ((blank schema).addPairs pairs).values? name = some values ∧
      values.Pairwise (Text.bytes · ≤ Text.bytes ·) ∧ values.Perm (pairedWith name pairs)) ∧
    (blank schema).addPairs (pairs.filter fun pair => schema.declares pair.1) =
      (blank schema).addPairs pairs ∧
    ∀ fields : NameMap (List String), (∀ name, fields.contains name = true ↔ name ∈ schema.names) →
      pairs.Perm (pairsOf fields) → (blank schema).addPairs pairs = ofFields fields := by
  refine ⟨addPairs_blank_eq_iff, over_addPairs_blank schema pairs, ?_, ?_, ?_⟩
  · intro name hname
    refine ⟨sortValues (pairedWith name pairs), ?_, ?_, sortValues_perm _⟩
    · rw [values?_addPairs_blank, if_pos hname]
    · exact (sortValues_sorted _).imp Text.bytes_le_bytes_iff.2
  · refine addPairs_blank_eq_iff.2 fun name hname => ?_
    rw [pairedWith_filter_declares hname]
  · intro fields hfields hpairs
    rw [← addPairs_pairsOf hfields, addPairs_blank_eq_iff]
    exact fun name _ => (hpairs.filter _).map _

/-- A field of lamps and one of wires. -/
def panel : Schema :=
  [⟨"lamp", 1⟩, ⟨"wire", 2⟩]

/-- Values for both fields, one of them twice, and one for a field that the panel has not. -/
def panelPairs : List (String × String) :=
  [("lamp", "😀"), ("ghost", "x"), ("lamp", "\uffff"), ("wire", "A->B"), ("lamp", "\uffff")]

/-- The values for the fields of the panel. -/
def panelFields : NameMap (List String) :=
  .ofList [("wire", ["A->B"]), ("lamp", ["\uffff", "😀", "\uffff"])]

/-- The order of the values and the pair with the other field make no difference. -/
theorem addPairs_blank_canonical_panel :
    (blank panel).addPairs (pairsOf panelFields) = (blank panel).addPairs panelPairs ∧
      (blank panel).addPairs (pairsOf panelFields) = ofFields panelFields ∧
      ∃ values, ((blank panel).addPairs (pairsOf panelFields)).values? "lamp" = some values ∧
        values.Pairwise (Text.bytes · ≤ Text.bytes ·) := by
  obtain ⟨hsame, -, hvalues, -, hmap⟩ :=
    addPairs_blank_canonical panel (pairsOf panelFields) panelPairs
  refine ⟨hsame.2 (by decide +kernel), hmap panelFields (fun name => ?_) (.refl _), ?_⟩
  · rw [panelFields, NameMap.contains, NameMap.isSome_get?_ofList_iff]
    simp [panel, Schema.names, or_comm]
  · obtain ⟨values, hlamp, hsorted, -⟩ := hvalues "lamp" (by decide)
    exact ⟨values, hlamp, hsorted⟩

end StateExplorer.State
