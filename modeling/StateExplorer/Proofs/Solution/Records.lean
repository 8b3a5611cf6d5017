import StateExplorer.Proofs.Solution.Decoding

/-!
# What tuples record

A tuple tells the state it is written for and the columns of its value, without the blanks around
them, whatever the signature is. So instances of two chains of the same length have the same tuples
exactly if their states have, one after another and field by field, values with the same columns.
-/

namespace StateExplorer

namespace Text

/-- Columns do not have arrows in them. -/
theorem not_arrow_of_mem_columns (value : List Char) :
    ∀ column ∈ columns value, ¬['-', '>'] <:+: column := by
  fun_induction columns value with
  | case1 => decide
  | case2 rest ih => exact List.forall_mem_cons.2 ⟨by decide, ih⟩
  | case3 c rest _ hnil => exact absurd hnil (columns_ne_nil rest)
  | case4 c rest hhead first more hcolumns ih =>
    rw [hcolumns, List.forall_mem_cons] at ih
    refine List.forall_mem_cons.2 ⟨?_, ih.2⟩
    rw [List.infix_cons_iff, not_or]
    refine ⟨?_, ih.1⟩
    intro hprefix
    obtain ⟨hc, tail, rfl⟩ := List.cons_prefix_cons.1 hprefix
    -- The rest would begin with the second half of an arrow.
    have hrest := intercalate_columns rest
    rw [hcolumns] at hrest
    cases more with
    | nil => exact hhead tail hc.symm (by simpa [List.intercalate] using hrest.symm)
    | cons next more =>
      rw [List.intercalate_cons_cons] at hrest
      exact hhead _ hc.symm hrest.symm

end Text

namespace Tuple

/-- The columns of a value without the blanks around them. -/
def bareColumns (value : String) : List (List Char) :=
  (Text.columns value.toList).map Text.trim

/-- Bare columns do not have arrows in them. -/
theorem not_arrow_of_mem_bareColumns {value : String} {column : List Char}
    (h : column ∈ bareColumns value) : ¬arrow <:+: column := by
  obtain ⟨whole, hwhole, rfl⟩ := List.mem_map.1 h
  obtain ⟨before, after, htrim, -⟩ := Text.exists_append_trim_append whole
  exact fun harrow => Text.not_arrow_of_mem_columns _ whole hwhole (harrow.trans ⟨before, after, htrim⟩)

/-- Columns that were written with their marks are found again. -/
theorem columns_append_written {text : List Char} (htext : ¬arrow <:+: text)
    {columns : List (List Char)} (h : ∀ column ∈ columns, ¬arrow <:+: column) :
    Text.columns (text ++ columns.flatMap fun column => arrow ++ column ++ atomMark) =
      text :: columns.map (· ++ atomMark) := by
  induction columns generalizing text with
  | nil => rw [List.flatMap_nil, List.append_nil, Text.columns_of_not_arrow htext, List.map_nil]
  | cons column rest ih =>
    rw [List.forall_mem_cons] at h
    have hmarked : ¬arrow <:+: column ++ atomMark := by
      rw [atomMark, Text.infix_append_cons_iff (by decide), not_or]
      exact ⟨h.1, by decide⟩
    have hnext : text ++ (column :: rest).flatMap (fun column => arrow ++ column ++ atomMark) =
        text ++ '-' :: '>' :: (column ++ atomMark ++
          rest.flatMap fun column => arrow ++ column ++ atomMark) := by
      simp [arrow]
    rw [hnext, Text.columns_append_arrow htext, ih hmarked h.2, List.map_cons]

/-- A tuple tells its state and the bare columns of its value. -/
theorem write_eq_write_iff {sig : String} {i j : Nat} {v w : String} :
    write sig i v = write sig j w ↔ i = j ∧ bareColumns v = bareColumns w := by
  have htext (index : Nat) (value : String) : (write sig index value).toList =
      (sig.toList ++ ['$']) ++ (Text.decimal index ++
        (bareColumns value).flatMap fun column => arrow ++ column ++ atomMark) := by
    simp [write, stateAtom, bareColumns, Text.decimal, List.flatMap_map]
  have hcolumns (index : Nat) (value : String) : Text.columns (Text.decimal index ++
      (bareColumns value).flatMap fun column => arrow ++ column ++ atomMark) =
        Text.decimal index :: (bareColumns value).map (· ++ atomMark) := by
    refine columns_append_written ?_ fun column hcolumn => not_arrow_of_mem_bareColumns hcolumn
    exact Text.not_infix_of_not_mem (c := '-') (by decide) (Text.not_mem_decimal (by decide) index)
  constructor
  · intro h
    have hlists := congrArg String.toList h
    rw [htext, htext, List.append_cancel_left_eq] at hlists
    have hfound := congrArg Text.columns hlists
    rw [hcolumns, hcolumns] at hfound
    obtain ⟨hindex, hmarked⟩ := List.cons.inj hfound
    refine ⟨Text.decimal_injective hindex, ?_⟩
    exact List.map_injective_iff.2 (fun a b hab => List.append_cancel_right hab) hmarked
  · intro h
    obtain ⟨rfl, hbare⟩ := h
    rw [← String.toList_inj, htext, htext, hbare]

/-- The tuples of values in one state tell the bare columns of these values. -/
theorem map_write_eq_map_write_iff {sig : String} {i : Nat} {values others : List String} :
    values.map (write sig i) = others.map (write sig i) ↔
      values.map bareColumns = others.map bareColumns := by
  rw [← List.forall₂_eq_eq_eq, List.forall₂_map_left_iff, List.forall₂_map_right_iff]
  rw [← List.forall₂_eq_eq_eq, List.forall₂_map_left_iff, List.forall₂_map_right_iff]
  simp only [write_eq_write_iff, true_and]

end Tuple

/-- What is recorded of a field: the bare columns of its values. -/
def State.recorded (state : State) (field : String) : List (List (List Char)) :=
  ((state.values? field).getD []).map Tuple.bareColumns

/-- For each field and each of its values, the bare columns. -/
abbrev Record := List (List (List (List Char)))

/-- What is recorded of a state, field by field. -/
def Schema.record (schema : Schema) (state : State) : Record :=
  schema.names.map state.recorded

/-- The same is recorded of states one after another if it is for each field. -/
theorem Schema.map_record_eq_iff {schema : Schema} {chain other : List State}
    (hlength : chain.length = other.length) :
    chain.map schema.record = other.map schema.record ↔
      ∀ name ∈ schema.names, chain.map (·.recorded name) = other.map (·.recorded name) := by
  induction chain generalizing other with
  | nil =>
    rw [List.eq_nil_of_length_eq_zero hlength.symm]
    simp
  | cons state rest ih =>
    cases other with
    | nil => simp at hlength
    | cons state' rest' =>
      simp only [List.map_cons, List.cons.injEq, ih (Nat.succ.inj hlength), record,
        List.map_inj_left, ← forall₂_and]

/-- Where the items of two lists are told apart from those that follow, the lists end at the same
item. -/
theorem append_inj_of_forall {α : Type} {P : α → Prop} {a b more others : List α}
    (ha : ∀ x ∈ a, ¬P x) (hb : ∀ x ∈ b, ¬P x) (hmore : ∀ x ∈ more, P x) (hothers : ∀ x ∈ others, P x)
    (h : a ++ more = b ++ others) : a = b ∧ more = others := by
  have hnil {l : List α} (hnot : ∀ x ∈ l, ¬P x) (hall : ∀ x ∈ l, P x) : l = [] :=
    List.eq_nil_iff_forall_not_mem.2 fun x hx => hnot x hx (hall x hx)
  rcases List.append_eq_append_iff.1 h with ⟨l, rfl, rfl⟩ | ⟨l, rfl, rfl⟩
  · obtain rfl := hnil (fun x hx => hb x (List.mem_append_right a hx))
      fun x hx => hmore x (List.mem_append_left others hx)
    simp
  · obtain rfl := hnil (fun x hx => ha x (List.mem_append_right b hx))
      fun x hx => hothers x (List.mem_append_left more hx)
    simp

namespace Instance

/-- The tuples of the next state are told apart from those of the states before it. -/
theorem tuplesOf_append_write_injective {sig field : String} {chain other : List State}
    (hlength : chain.length = other.length) {values others : List String}
    (h : tuplesOf sig field chain ++ values.map (Tuple.write sig chain.length) =
      tuplesOf sig field other ++ others.map (Tuple.write sig other.length)) :
    tuplesOf sig field chain = tuplesOf sig field other ∧
      values.map Tuple.bareColumns = others.map Tuple.bareColumns := by
  have hbefore (states : List State) (hstates : states.length = chain.length) (tuple : String)
      (htuple : tuple ∈ tuplesOf sig field states) :
      ¬∃ value, tuple = Tuple.write sig chain.length value := by
    obtain ⟨index, state, hstate, v, -, rfl⟩ := mem_tuplesOf_iff.1 htuple
    have hindex := (List.getElem?_eq_some_iff.1 hstate).1
    intro hnext
    obtain ⟨w, hwritten⟩ := hnext
    exact absurd (Tuple.write_eq_write_iff.1 hwritten).1 (by omega)
  have hnext (values : List String) (tuple : String)
      (htuple : tuple ∈ values.map (Tuple.write sig chain.length)) :
      ∃ value, tuple = Tuple.write sig chain.length value := by
    obtain ⟨value, -, rfl⟩ := List.mem_map.1 htuple
    exact ⟨value, rfl⟩
  rw [← hlength] at h
  obtain ⟨htuples, hvalues⟩ := append_inj_of_forall (hbefore chain rfl) (hbefore other hlength.symm)
    (hnext values) (hnext others) h
  exact ⟨htuples, Tuple.map_write_eq_map_write_iff.1 hvalues⟩

/-- The tuples of a field tell what is recorded of it in each state. -/
theorem tuplesOf_eq_tuplesOf_iff {sig field : String} {chain other : List State}
    (hlength : chain.length = other.length) :
    tuplesOf sig field chain = tuplesOf sig field other ↔
      chain.map (·.recorded field) = other.map (·.recorded field) := by
  induction chain using List.reverseRecOn generalizing other with
  | nil =>
    rw [List.eq_nil_of_length_eq_zero hlength.symm]
    simp
  | append_singleton chain last ih =>
    obtain ⟨other, last', rfl⟩ : ∃ rest state, other = rest ++ [state] := by
      refine ⟨other.dropLast, other.getLast ?_, (List.dropLast_append_getLast _).symm⟩
      rintro rfl
      simp at hlength
    have hsame : chain.length = other.length := by simpa using hlength
    rw [tuplesOf_concat, tuplesOf_concat, List.map_append, List.map_append]
    constructor
    · intro h
      obtain ⟨htuples, hvalues⟩ := tuplesOf_append_write_injective hsame h
      have hrecorded : last.recorded field = last'.recorded field := hvalues
      rw [(ih hsame).1 htuples, List.map_singleton, List.map_singleton, hrecorded]
    · intro h
      obtain ⟨hrest, hlasts⟩ := List.append_inj h (by simpa using hsame)
      have hrecorded : last.recorded field = last'.recorded field := by simpa using hlasts
      rw [(ih hsame).2 hrest, Tuple.map_write_eq_map_write_iff.2 hrecorded, hsame]

/-- Instances of two chains of the same length have the same tuples exactly if the same is recorded
of their states. -/
theorem tuples_ofChain_eq_iff {sig : String} {schema : Schema} {chain other : List State}
    (hlength : chain.length = other.length) :
    (ofChain sig schema chain).tuples = (ofChain sig schema other).tuples ↔
      chain.map schema.record = other.map schema.record := by
  rw [Schema.map_record_eq_iff hlength]
  constructor
  · intro h name hname
    have hsame := congrArg (·.get? name) h
    simp only [get?_tuples_ofChain, if_pos hname, Option.some.injEq] at hsame
    exact (tuplesOf_eq_tuplesOf_iff hlength).1 hsame
  · intro h
    refine NameMap.ext_get? fun name => ?_
    rw [get?_tuples_ofChain, get?_tuples_ofChain]
    by_cases hname : name ∈ schema.names
    · rw [(tuplesOf_eq_tuplesOf_iff hlength).2 (h name hname)]
    · rw [if_neg hname, if_neg hname]

end Instance

end StateExplorer
