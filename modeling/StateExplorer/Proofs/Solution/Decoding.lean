import Mathlib.Algebra.Group.Nat.Defs
import StateExplorer.Proofs.Solution.Length
import StateExplorer.Proofs.State.Sets
import StateExplorer.Proofs.Text.Decimal
import StateExplorer.Proofs.Text.Infix

/-!
# What a decoded chain holds

A chain is answered as tuples, and its states are put together from the tuples again. Every tuple
goes to the state it was written for, also where its value does not come back as it was written. A
value comes back exactly if no column of it has blanks around it or marks of atoms in it, as names
never have. A field that is declared twice gets each of its values twice, so what a state holds is the
view it was written from as far as sets are concerned, and the very view if no field is declared twice.
-/

namespace StateExplorer

namespace Tuple

/-- What a value comes back as when it was written into a tuple. -/
def readBack (value : String) : String :=
  String.ofList (dropMarks (arrow.intercalate ((Text.columns value.toList).map fun column =>
    Text.trim column ++ atomMark)))

/-- A tuple belongs to the state it was written for, if the number of that state fits a word and no
arrow is in the signature. -/
theorem parse_write {sig : String} (hsig : ¬arrow <:+: sig.toList) (index : Nat) (value : String) :
    parse (write sig index value) =
      if index ≤ Text.maxWord then .ok (index, readBack value)
      else .error (.badIndex (write sig index value)) := by
  have hjoined {columns : List (List Char)} (hne : columns ≠ []) :
      columns.flatMap (fun column => arrow ++ Text.trim column ++ atomMark) =
        arrow ++ arrow.intercalate (columns.map fun column => Text.trim column ++ atomMark) := by
    induction columns with
    | nil => exact absurd rfl hne
    | cons column rest ih =>
      cases rest with
      | nil => simp [List.intercalate]
      | cons next rest =>
        rw [List.flatMap_cons, ih (List.cons_ne_nil _ _)]
        simp [List.intercalate_cons_cons]
  have hdollar : '$' ∉ Text.decimal index := Text.not_mem_decimal (by decide) index
  have hdash : '-' ∉ Text.decimal index := Text.not_mem_decimal (by decide) index
  have htext : (write sig index value).toList = sig.toList ++ '$' :: (Text.decimal index ++ arrow ++
      arrow.intercalate ((Text.columns value.toList).map fun column =>
        Text.trim column ++ atomMark)) := by
    rw [write, String.toList_append, String.toList_ofList, hjoined (Text.columns_ne_nil _)]
    simp [stateAtom, Text.decimal]
  have hcut : Text.cut? arrow (write sig index value).toList =
      some (sig.toList ++ '$' :: Text.decimal index, arrow.intercalate
        ((Text.columns value.toList).map fun column => Text.trim column ++ atomMark)) := by
    rw [htext, Text.cut?_append_cons (by decide) hsig, arrow, Text.cut?_append hdash]
    rfl
  rw [parse, hcut]
  simp only [Text.cutLast?_append _ hdollar,
    Text.trim_eq_self fun c hc => Text.isBlank_of_mem_decimal hc, Text.readNat?_decimal]
  split
  · rename_i hnone
    split at hnone
    · cases hnone
    · rw [if_neg ‹_›]
  · rename_i number hnumber
    split at hnumber
    · rw [if_pos ‹_›, ← Option.some.inj hnumber]
      rfl
    · cases hnumber

/-- A mark is dropped from between two texts, and joins nothing to another mark. -/
theorem dropMarks_append_atomMark (text rest : List Char) :
    dropMarks (text ++ (atomMark ++ rest)) = dropMarks text ++ dropMarks rest := by
  fun_induction dropMarks text with
  | case1 text ih => exact ih
  | case2 c text hmark ih =>
    rw [List.cons_append, dropMarks.eq_2, ih, List.cons_append]
    intro after hdollar hzero
    cases text with
    | nil => simp [atomMark] at hzero
    | cons d text =>
      obtain ⟨rfl, -⟩ := List.cons.inj hzero
      exact hmark text hdollar rfl
  | case3 => rfl

/-- Dropping marks adds nothing. -/
theorem dropMarks_sublist (text : List Char) : (dropMarks text).Sublist text := by
  fun_induction dropMarks text with
  | case1 text ih => exact (ih.cons '0').cons '$'
  | case2 c text _ ih => exact ih.cons_cons c
  | case3 => exact .slnil

/-- Nothing is dropped from a text exactly if it has no marks. -/
theorem dropMarks_eq_self_iff {text : List Char} :
    dropMarks text = text ↔ ¬atomMark <:+: text := by
  fun_induction dropMarks text with
  | case1 text =>
    have hshort := (dropMarks_sublist text).length_le
    refine iff_of_false (fun h => ?_) (not_not_intro (List.prefix_append atomMark text).isInfix)
    rw [h, List.length_cons, List.length_cons] at hshort
    omega
  | case2 c text hmark ih =>
    have hfirst : ¬atomMark <+: c :: text := by
      rintro ⟨rest, hrest⟩
      obtain ⟨hdollar, hzero⟩ := List.cons.inj hrest
      exact hmark rest hdollar.symm hzero.symm
    rw [List.cons.injEq, List.infix_cons_iff, or_iff_right hfirst, ← ih]
    exact and_iff_right rfl
  | case3 => exact iff_of_true rfl (by decide)

/-- A value comes back with its columns trimmed and rid of marks, each on its own. -/
theorem toList_readBack (value : String) :
    (readBack value).toList = arrow.intercalate
      ((Text.columns value.toList).map fun column => dropMarks (Text.trim column)) := by
  have hcolumns (columns : List (List Char)) :
      dropMarks (arrow.intercalate (columns.map fun column => Text.trim column ++ atomMark)) =
        arrow.intercalate (columns.map fun column => dropMarks (Text.trim column)) := by
    induction columns with
    | nil => rfl
    | cons column rest ih =>
      cases rest with
      | nil =>
        simpa [List.intercalate, dropMarks] using dropMarks_append_atomMark (Text.trim column) []
      | cons next rest =>
        have harrow : ∀ more, dropMarks (arrow ++ more) = arrow ++ dropMarks more := fun more => by
          simp [arrow, dropMarks]
        rw [List.map_cons, List.map_cons] at ih
        rw [List.map_cons, List.map_cons, List.map_cons, List.map_cons, List.intercalate_cons_cons,
          List.append_assoc, List.append_assoc, dropMarks_append_atomMark, harrow, ih,
          List.intercalate_cons_cons, List.append_assoc]
  rw [readBack, String.toList_ofList, hcolumns]

/-- A value comes back as it was written if no column of it has blanks around it or marks in it. -/
theorem readBack_eq_self {value : String}
    (h : ∀ column ∈ Text.columns value.toList,
      Text.trim column = column ∧ ¬atomMark <:+: column) : readBack value = value := by
  have hsame : (Text.columns value.toList).map (fun column => dropMarks (Text.trim column)) =
      (Text.columns value.toList).map id :=
    List.map_congr_left fun column hcolumn => by
      obtain ⟨htrim, hmark⟩ := h column hcolumn
      rw [htrim, dropMarks_eq_self_iff.2 hmark, id]
  rw [← String.toList_inj, toList_readBack, hsame, List.map_id, arrow, Text.intercalate_columns]

/-- Pieces of which each loses nothing but characters are together what they were only if none of them
loses any. -/
theorem intercalate_map_eq_iff {mark : List Char} {f : List Char → List Char}
    (hf : ∀ piece, (f piece).Sublist piece) {pieces : List (List Char)} :
    mark.intercalate (pieces.map f) = mark.intercalate pieces ↔ ∀ piece ∈ pieces, f piece = piece := by
  have hshort (pieces : List (List Char)) :
      (mark.intercalate (pieces.map f)).length ≤ (mark.intercalate pieces).length := by
    induction pieces with
    | nil => exact Nat.le_refl _
    | cons piece rest ih =>
      have hpiece := (hf piece).length_le
      cases rest with
      | nil => simpa [List.intercalate] using hpiece
      | cons next rest =>
        rw [List.map_cons] at ih
        simp only [List.map_cons, List.intercalate_cons_cons, List.length_append]
        omega
  induction pieces with
  | nil => simp
  | cons piece rest ih =>
    cases rest with
    | nil => simp [List.intercalate]
    | cons next rest =>
      have hrest := hshort (next :: rest)
      have hpiece := (hf piece).length_le
      rw [List.map_cons] at ih hrest
      rw [List.forall_mem_cons, List.map_cons, List.map_cons, List.intercalate_cons_cons,
        List.intercalate_cons_cons]
      constructor
      · intro h
        have hlength := congrArg List.length h
        simp only [List.length_append] at hlength
        have hsame := (hf piece).eq_of_length (by omega)
        rw [hsame] at h
        exact ⟨hsame, ih.1 (List.append_cancel_left h)⟩
      · rintro ⟨hsame, hmore⟩
        rw [hsame, ih.2 hmore]

/-- A value comes back as it was written exactly if no column of it has blanks around it or marks in
it. -/
theorem readBack_eq_self_iff {value : String} :
    readBack value = value ↔ ∀ column ∈ Text.columns value.toList,
      Text.trim column = column ∧ ¬atomMark <:+: column := by
  refine ⟨fun h column hcolumn => ?_, readBack_eq_self⟩
  have hlists := congrArg String.toList h
  rw [toList_readBack] at hlists
  have hkept : dropMarks (Text.trim column) = column := by
    refine (intercalate_map_eq_iff (fun column => ?_)).1
      (hlists.trans (Text.intercalate_columns value.toList).symm) column hcolumn
    exact (dropMarks_sublist _).trans (Text.trim_sublist column)
  -- What is left of the column is the whole of it, so neither step took anything away.
  have htrim : Text.trim column = column := by
    refine (Text.trim_sublist column).eq_of_length_le ?_
    rw [← congrArg List.length hkept]
    exact (dropMarks_sublist _).length_le
  rw [htrim] at hkept
  exact ⟨htrim, dropMarks_eq_self_iff.1 hkept⟩

/-- A value whose columns are names comes back as it was written. -/
theorem readBack_of_isNameChar {value : String}
    (h : ∀ column ∈ Text.columns value.toList, ∀ c ∈ column, Text.isNameChar c = true) :
    readBack value = value := by
  refine readBack_eq_self fun column hcolumn => ⟨?_, ?_⟩
  · exact Text.trim_eq_self fun c hc => Text.isBlank_of_isNameChar (h column hcolumn c hc)
  · exact Text.not_infix_of_not_mem (c := '$') (by decide) fun hmem =>
      absurd (h column hcolumn '$' hmem) (by decide)

/-- A name comes back as it was written. -/
theorem readBack_of_isName {value : String} (h : Text.isName value = true) :
    readBack value = value := by
  have hchars := Text.isNameChar_of_isName h
  have hdash : '-' ∉ value.toList := fun hmem => absurd (hchars '-' hmem) (by decide)
  refine readBack_of_isNameChar fun column hcolumn => ?_
  rw [Text.columns_eq_singleton hdash, List.mem_singleton] at hcolumn
  exact hcolumn ▸ hchars

/-- No arrow is in a name. -/
theorem not_arrow_of_isName {name : String} (h : Text.isName name = true) :
    ¬arrow <:+: name.toList :=
  Text.not_infix_of_not_mem (c := '-') (by decide) fun hmem =>
    absurd (Text.isNameChar_of_isName h '-' hmem) (by decide)

/-- Whether a column has no blank at its start, none at its end, and no mark of an atom in it. -/
structure Tidy (column : List Char) : Prop where
  start : ∀ c ∈ column.head?, Text.isBlank c = false
  stop : ∀ c ∈ column.getLast?, Text.isBlank c = false
  unmarked : ¬atomMark <:+: column

/-- A tidy column is one that trimming leaves as it is, and that has no marks. -/
theorem tidy_iff {column : List Char} :
    Tidy column ↔ Text.trim column = column ∧ ¬atomMark <:+: column := by
  rw [Text.trim_eq_self_iff]
  exact ⟨fun h => ⟨⟨h.start, h.stop⟩, h.unmarked⟩, fun h => ⟨h.1.1, h.1.2, h.2⟩⟩

instance (column : List Char) : Decidable (Tidy column) :=
  decidable_of_iff _ tidy_iff.symm

/-- The tuple of any value in the state of any number that fits a word is read as one of that state, if
no arrow is in the signature. The value comes back as it was written exactly if all its columns are
tidy. -/
theorem parse_write_eq_ok_iff {sig : String} (hsig : ¬arrow <:+: sig.toList) {index : Nat}
    (hindex : index < 2 ^ 64) (value : String) :
    (∃ found, parse (write sig index value) = .ok (index, found)) ∧
      (parse (write sig index value) = .ok (index, value) ↔
        ∀ column ∈ Text.columns value.toList, Tidy column) := by
  have hword : index ≤ Text.maxWord := Nat.le_of_lt_succ hindex
  have hparse := parse_write hsig index value
  rw [if_pos hword] at hparse
  refine ⟨⟨readBack value, hparse⟩, ?_⟩
  rw [hparse, Except.ok.injEq, Prod.mk.injEq, and_iff_right rfl, readBack_eq_self_iff]
  simp only [tidy_iff]

/-- Marks and arrows that only arise where columns meet do no harm, whatever the signature is, but a
mark in a column is lost. -/
theorem parse_write_eq_ok_iff_joints :
    ¬arrow <:+: "State$0-".toList ∧ 2 ^ 64 - 1 < 2 ^ 64 ∧
      parse (write "State$0-" (2 ^ 64 - 1) "->$->0 $->-") = .ok (2 ^ 64 - 1, "->$->0 $->-") ∧
      parse (write "State$0-" (2 ^ 64 - 1) "-$0>") ≠ .ok (2 ^ 64 - 1, "-$0>") := by
  have hsig : ¬arrow <:+: "State$0-".toList := by decide +kernel
  have hindex : 2 ^ 64 - 1 < 2 ^ 64 := by decide
  refine ⟨hsig, hindex, ?_, ?_⟩
  · exact (parse_write_eq_ok_iff hsig hindex "->$->0 $->-").2.2 (by decide +kernel)
  · exact mt (parse_write_eq_ok_iff hsig hindex "-$0>").2.1 (by decide +kernel)

end Tuple

namespace Instance

/-- The tuples of a chain are written for the values of its states. -/
theorem mem_tuplesOf_iff {sig field tuple : String} {chain : List State} :
    tuple ∈ tuplesOf sig field chain ↔ ∃ index state, chain[index]? = some state ∧
      ∃ value ∈ (state.values? field).getD [], tuple = Tuple.write sig index value := by
  simp only [tuplesOf, List.mem_flatMap, List.mem_map, Prod.exists,
    List.mk_mem_zipIdx_iff_getElem?]
  constructor
  · intro h
    obtain ⟨state, index, hstate, value, hvalue, rfl⟩ := h
    exact ⟨index, state, hstate, value, hvalue, rfl⟩
  · intro h
    obtain ⟨index, state, hstate, value, hvalue, rfl⟩ := h
    exact ⟨state, index, hstate, value, hvalue, rfl⟩

/-- Instances have tuples for the fields of the schema. -/
theorem get?_tuples_ofChain (sig : String) (schema : Schema) (chain : List State) (name : String) :
    (ofChain sig schema chain).tuples.get? name =
      if name ∈ schema.names then some (tuplesOf sig name chain) else none := by
  rw [ofChain, NameMap.get?_ofList_map]

/-- The tuples of the last state come last. -/
theorem tuplesOf_concat (sig field : String) (chain : List State) (last : State) :
    tuplesOf sig field (chain ++ [last]) = tuplesOf sig field chain ++
      ((last.values? field).getD []).map (Tuple.write sig chain.length) := by
  simp [tuplesOf, List.zipIdx_append]

end Instance

namespace Tuple

variable {sig : String}

/-- The tuples of some values in one state give them to that state only, if its number fits a
word. -/
theorem valuesAt_map_write (hsig : ¬arrow <:+: sig.toList) (k index : Nat) (values : List String) :
    valuesAt k (values.map (write sig index)) =
      if index = k ∧ k ≤ Text.maxWord then values.map readBack else [] := by
  have hvalue : valueAt? k ∘ write sig index = fun value =>
      if index = k ∧ k ≤ Text.maxWord then some (readBack value) else none := by
    funext value
    rw [Function.comp_apply, valueAt?, parse_write hsig]
    by_cases hword : index ≤ Text.maxWord
    · rw [if_pos hword]
      by_cases hindex : index = k
      · subst hindex
        simp [hword]
      · simp [hindex]
    · rw [if_neg hword, if_neg]
      rintro ⟨rfl, hk⟩
      exact hword hk
  rw [valuesAt, List.filterMap_map, hvalue]
  split
  · exact congrFun List.filterMap_eq_map' values
  · exact List.filterMap_eq_nil_iff.2 fun _ _ => rfl

/-- The tuples of a chain give each of its states what the values of the state come back as, if its
number fits a word. -/
theorem valuesAt_tuplesOf (hsig : ¬arrow <:+: sig.toList) (field : String) (chain : List State)
    (k : Nat) :
    valuesAt k (Instance.tuplesOf sig field chain) =
      if k ≤ Text.maxWord then
        (chain[k]?.elim [] fun state => ((state.values? field).getD []).map readBack)
      else [] := by
  induction chain using List.reverseRecOn with
  | nil => simp [Instance.tuplesOf, valuesAt]
  | append_singleton chain last ih =>
    have happend (tuples more : List String) :
        valuesAt k (tuples ++ more) = valuesAt k tuples ++ valuesAt k more :=
      List.filterMap_append
    rw [Instance.tuplesOf_concat, happend, ih, valuesAt_map_write hsig]
    rcases Nat.lt_trichotomy k chain.length with hlt | rfl | hgt
    · simp [List.getElem?_append_left hlt, Nat.ne_of_gt hlt]
    · simp
    · simp [List.getElem?_eq_none (Nat.le_of_lt hgt), Nat.ne_of_lt hgt,
        List.getElem?_append_right (Nat.le_of_lt hgt), Nat.sub_ne_zero_of_lt hgt]

/-- The tuples of a chain belong to its states, unless a state has values whose number fits no
word. -/
theorem forall_belongs_tuplesOf_iff (hsig : ¬arrow <:+: sig.toList) {field : String}
    {chain : List State} :
    (∀ tuple ∈ Instance.tuplesOf sig field chain, Belongs chain.length tuple) ↔
      ∀ (k : Nat) (state : State), Text.maxWord < k → chain[k]? = some state →
        (state.values? field).getD [] = [] := by
  constructor
  · intro h k state hk hstate
    refine List.eq_nil_iff_forall_not_mem.2 fun value hvalue => ?_
    obtain ⟨index, found, hparse, -⟩ :=
      h (write sig k value) (Instance.mem_tuplesOf_iff.2 ⟨k, state, hstate, value, hvalue, rfl⟩)
    rw [parse_write hsig, if_neg (Nat.not_le_of_lt hk)] at hparse
    cases hparse
  · intro h tuple htuple
    obtain ⟨index, state, hstate, value, hvalue, rfl⟩ := Instance.mem_tuplesOf_iff.1 htuple
    refine ⟨index, readBack value, ?_, (List.getElem?_eq_some_iff.1 hstate).1⟩
    rw [parse_write hsig, if_pos]
    refine Nat.le_of_not_lt fun hword => ?_
    rw [h index state hword hstate] at hvalue
    cases hvalue

/-- Where the tuples of a chain belong to its states, they give each of them what its values come
back as. -/
theorem valuesAt_tuplesOf_of_belongs (hsig : ¬arrow <:+: sig.toList) {field : String}
    {chain : List State}
    (h : ∀ tuple ∈ Instance.tuplesOf sig field chain, Belongs chain.length tuple) {k : Nat}
    {state : State} (hstate : chain[k]? = some state) :
    valuesAt k (Instance.tuplesOf sig field chain) =
      ((state.values? field).getD []).map readBack := by
  rw [valuesAt_tuplesOf hsig, hstate, Option.elim_some]
  split
  · rfl
  · rename_i hword
    rw [(forall_belongs_tuplesOf_iff hsig).1 h k state (Nat.lt_of_not_le hword) hstate]
    rfl

end Tuple

/-- An instance with the tuples that are written for a chain has those of each field. -/
theorem Instance.tuplesFor_eq {i : Instance} {sig : String} {schema : Schema} {chain : List State}
    (h : i.tuples = (ofChain sig schema chain).tuples) {name : String} (hname : name ∈ schema.names) :
    i.tuplesFor name = tuplesOf sig name chain := by
  rw [tuplesFor, h, get?_tuples_ofChain, if_pos hname, Option.getD_some]

/-- Whether the instance of a solution was written for a chain of views. -/
def Solution.Tells (s : Solution) (sig : String) (views : List View) : Prop :=
  ∃ i, s.document.instances[s.index]? = some i ∧ i.stateCount = views.length ∧
    i.tuples = (Instance.ofChain sig s.document.fields (views.map State.ofFields)).tuples

/-- Whether a state has the fields of a schema, and in each of them what the values that a view
gives the field come back as, as many times as the schema lists it. -/
structure State.Copies (schema : Schema) (view : View) (state : State) : Prop where
  fields : ∀ field, state.hasField field = true ↔ field ∈ schema.names
  values : ∀ name ∈ schema.names, ∃ own, state.values? name = some own ∧
    own.Perm (List.replicate (schema.names.count name)
      (((view.get? name).getD []).map Tuple.readBack)).flatten

/-- Values that come back as they were written are copied as they are. -/
theorem State.Copies.exists_perm {schema : Schema} {view : View} {state : State}
    (h : state.Copies schema view) {name : String} (hname : name ∈ schema.names)
    (hback : ∀ v ∈ (view.get? name).getD [], Tuple.readBack v = v) :
    ∃ own, state.values? name = some own ∧
      own.Perm (List.replicate (schema.names.count name) ((view.get? name).getD [])).flatten := by
  obtain ⟨own, hown, hperm⟩ := h.values name hname
  rw [List.map_congr_left hback, List.map_id'] at hperm
  exact ⟨own, hown, hperm⟩

/-- A decoded chain has a state for each view it was written from, which copies the view. -/
theorem Solution.Tells.copies {s : Solution} {sig : String} (hsig : ¬Tuple.arrow <:+: sig.toList)
    {views : List View} (htells : s.Tells sig views) {schema : Schema} {chain : List State}
    (h : s.chain sig = .ok (schema, chain)) :
    schema = s.document.fields ∧ chain.length = views.length ∧
      ∀ (k : Nat) state view, chain[k]? = some state → views[k]? = some view →
        state.Copies schema view := by
  obtain ⟨i, hi, hcount, htuples⟩ := htells
  obtain ⟨-, hbelongs, rfl, rfl⟩ := (chain_eq_ok_iff hi).1 h
  refine ⟨rfl, by simpa using hcount, fun k state view hstate hview => ?_⟩
  obtain rfl : i.stateAt s.document.fields k = state := by
    obtain ⟨_, hget⟩ := List.getElem?_eq_some_iff.1 hstate
    simpa using hget
  refine ⟨i.over_stateAt _ k, fun name hname =>
    ⟨_, (i.values?_stateAt _ k name).trans (if_pos hname), ?_⟩⟩
  obtain ⟨field, hfield, rfl⟩ := List.mem_map.1 hname
  have htuple := hbelongs field hfield
  rw [Instance.tuplesFor_eq htuples hname, hcount, ← List.length_map (f := State.ofFields)] at htuple
  have hwritten : (views.map State.ofFields)[k]? = some (State.ofFields view) := by
    rw [List.getElem?_map, hview]
    rfl
  have hback : (Tuple.valuesAt k (i.tuplesFor field.name)).Perm
      (((view.get? field.name).getD []).map Tuple.readBack) := by
    rw [Instance.tuplesFor_eq htuples hname,
      Tuple.valuesAt_tuplesOf_of_belongs hsig htuple hwritten, State.values?_ofFields]
    cases view.get? field.name with
    | none => exact .refl _
    | some values => exact (sortValues_perm values).map _
  refine (sortValues_perm _).trans ?_
  generalize (Schema.names s.document.fields).count field.name = n
  induction n with
  | zero => exact .refl _
  | succ n ih => exact hback.append ih

end StateExplorer
