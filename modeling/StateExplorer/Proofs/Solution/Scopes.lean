import StateExplorer.Model.Basic
import StateExplorer.Proofs.NameMap
import StateExplorer.Proofs.Results
import StateExplorer.Proofs.Text.Decimal
import StateExplorer.Solution.Scopes

/-!
# Signatures that are shown

Of the signatures that a solution reaches, those are shown whose bare name is neither that of the
universe nor read as that of an extra atom. The names of all extra atoms are read so, since a number
has no underscore, but so are names with the number of an extra atom in another spelling, such as
`Proc_01` beside `Proc_1`: a signature that a model declares under such a name is hidden as well.
-/

namespace StateExplorer

/-- The names of all extra atoms. -/
def Model.extraNames (counts : NameMap Nat) : List String :=
  counts.entries.flatMap fun (sig, count) => (List.range count).map (extraAtom sig)

/-- The extra atoms of a signature are numbered below their count. -/
theorem Model.mem_extraNames_iff {counts : NameMap Nat} {name : String} :
    name ∈ extraNames counts ↔
      ∃ sig count i, counts.get? sig = some count ∧ i < count ∧ name = extraAtom sig i := by
  simp only [extraNames, List.mem_flatMap, Prod.exists, NameMap.mem_entries_iff, List.mem_map,
    List.mem_range, ← exists_and_left, eq_comm (a := name)]

namespace Solution

open Text (Spells)

variable {extra : NameMap Nat} {name : String}

/-- The characters of the name of an extra atom. -/
theorem toList_extraAtom (sig : String) (i : Nat) :
    (Model.extraAtom sig i).toList = sig.toList ++ '_' :: Text.decimal i := by
  simp [Model.extraAtom, Text.decimal]

/-- Whether a name is that of an extra atom but for the spelling of its number. -/
def Respells (extra : NameMap Nat) (name : String) : Prop :=
  ∃ sig count i index, extra.get? sig = some count ∧ i < count ∧ Spells index i ∧
    index ≠ Text.decimal i ∧ name.toList = sig.toList ++ '_' :: index

/-- A name is taken for that of an extra atom if what follows its last underscore spells the number
of one. -/
theorem isExtraAtom_iff (hextra : ∀ sig count, extra.get? sig = some count → count ≤ Text.maxWord) :
    isExtraAtom extra name = true ↔ ∃ sig count i index, extra.get? sig = some count ∧ i < count ∧
      Spells index i ∧ name.toList = sig.toList ++ '_' :: index := by
  constructor
  · intro h
    unfold isExtraAtom at h
    split at h
    · cases h
    · rename_i sig index hcut
      split at h
      · rename_i count i hcount hindex
        refine ⟨String.ofList sig, count, i, index, hcount, of_decide_eq_true h,
          (Text.readNat?_eq_some_iff.1 hindex).1, ?_⟩
        rw [String.toList_ofList, Text.eq_of_cutLast? hcut]
      · cases h
  · rintro ⟨sig, count, i, index, hcount, hi, hspells, hname⟩
    have hmark : '_' ∉ index := hspells.not_mem (by decide) (by decide)
    have hread : Text.readNat? index = some i :=
      Text.readNat?_eq_some_iff.2 ⟨hspells, Nat.le_trans (Nat.le_of_lt hi) (hextra sig count hcount)⟩
    rw [isExtraAtom, hname, Text.cutLast?_append sig.toList hmark]
    simp only [String.ofList_toList, hcount, hread, decide_eq_true_eq]
    exact hi

/-- The names that are taken for those of extra atoms are these names and their other spellings. -/
theorem isExtraAtom_iff_mem_or_respells
    (hextra : ∀ sig count, extra.get? sig = some count → count ≤ Text.maxWord) :
    isExtraAtom extra name = true ↔ name ∈ Model.extraNames extra ∨ Respells extra name := by
  rw [isExtraAtom_iff hextra, Model.mem_extraNames_iff]
  constructor
  · rintro ⟨sig, count, i, index, hcount, hi, hspells, hname⟩
    by_cases hindex : index = Text.decimal i
    · subst hindex
      refine .inl ⟨sig, count, i, hcount, hi, String.toList_inj.1 ?_⟩
      rw [hname, toList_extraAtom]
    · exact .inr ⟨sig, count, i, index, hcount, hi, hspells, hindex, hname⟩
  · rintro (⟨sig, count, i, hcount, hi, rfl⟩ | ⟨sig, count, i, index, hcount, hi, hspells, -, hname⟩)
    · exact ⟨sig, count, i, Text.decimal i, hcount, hi, Text.spells_decimal i, toList_extraAtom sig i⟩
    · exact ⟨sig, count, i, index, hcount, hi, hspells, hname⟩

/-- The scopes of a solution with an instance: the atoms of each label that is shown, under its bare
name. -/
theorem scopes_eq_ok {s : Solution} {i : Instance} (h : s.document.instances[s.index]? = some i)
    (extra : NameMap Nat) : s.scopes extra = .ok (.ofList ((i.sigs.names.filter (isShown extra)).map
      fun label => (bareName label, ((i.sigs.get? label).getD []).map atomName))) := by
  have hinstance : s.instance? = .ok i := by rw [instance?, h]
  have hsigs : s.sigs = .ok i.sigs.names := by
    rw [sigs, hinstance]
    rfl
  have hatoms : ∀ label ∈ i.sigs.names.filter (isShown extra),
      ((s.atoms label).map fun atoms => (bareName label, atoms.map atomName)) =
        .ok (bareName label, ((i.sigs.get? label).getD []).map atomName) := by
    intro label hlabel
    obtain ⟨⟨name, atoms⟩, hentry, rfl⟩ := List.mem_map.1 (List.mem_filter.1 hlabel).1
    have hget := NameMap.mem_entries_iff.1 hentry
    simp [Solution.atoms, hinstance, hget, bind, Except.bind, Except.map]
  simp only [scopes, hsigs, bind, Except.bind, mapM_eq_ok_map hatoms]
  rfl

/-- A solution that can be satisfied shows its signatures: a reachable label has an entry under its
bare name exactly if this is neither the universe nor the name of an extra atom nor such a name with
its number in another spelling, and there are no other entries. -/
theorem contains_scopes_iff {s : Solution} (h : s.satisfiable = true)
    (hextra : ∀ sig count, extra.get? sig = some count → count ≤ Text.maxWord) :
    ∃ labels shown, s.sigs = .ok labels ∧ s.scopes extra = .ok shown ∧
      (∀ label ∈ labels, shown.contains (bareName label) = true ↔ bareName label ≠ univ ∧
        bareName label ∉ Model.extraNames extra ∧ ¬Respells extra (bareName label)) ∧
      ∀ name, shown.contains name = true → ∃ label ∈ labels, bareName label = name := by
  have hi := List.getElem?_eq_getElem (of_decide_eq_true h)
  refine ⟨_, _, by rw [sigs, instance?, hi]; rfl, scopes_eq_ok hi extra, ?_, ?_⟩
  all_goals simp only [NameMap.contains, NameMap.isSome_get?_ofList_iff, List.map_map, List.mem_map,
    List.mem_filter, Function.comp_def]
  · intro label hlabel
    have hshown : isShown extra label = true ↔ bareName label ≠ univ ∧
        bareName label ∉ Model.extraNames extra ∧ ¬Respells extra (bareName label) := by
      rw [isShown, Bool.and_eq_true, bne_iff_ne, Bool.not_eq_true', Bool.eq_false_iff, ne_eq, ne_eq,
        isExtraAtom_iff_mem_or_respells hextra, not_or]
    rw [← hshown]
    constructor
    · rintro ⟨other, ⟨-, hother⟩, hname⟩
      rwa [isShown, ← hname]
    · exact fun hlabelShown => ⟨label, ⟨hlabel, hlabelShown⟩, rfl⟩
  · rintro name ⟨label, ⟨hlabel, -⟩, hname⟩
    exact ⟨label, hlabel, hname⟩

/-- A process, the extra atom of it, and a signature that is named like that atom. -/
def processes : Solution :=
  (Document.mk "State" [] [⟨1, .empty, .ofList [("this/Proc", ["Proc_0$0", "Proc_01$0"]),
    ("this/Proc_0", ["Proc_0$0"]), ("this/Proc_00", ["Proc_01$0"])]⟩]).first

/-- Two extra atoms would be `Proc_0` and `Proc_1`. -/
def twoProcesses : NameMap Nat := .ofList [("Proc", 2)]

/-- Of the signatures of a process some are shown. -/
theorem contains_scopes_iff_processes :
    processes.satisfiable = true ∧
      (∀ sig count, twoProcesses.get? sig = some count → count ≤ Text.maxWord) ∧
      ∃ labels shown, processes.sigs = .ok labels ∧ processes.scopes twoProcesses = .ok shown ∧
        (∀ label ∈ labels, shown.contains (bareName label) = true ↔ bareName label ≠ univ ∧
          bareName label ∉ Model.extraNames twoProcesses ∧
            ¬Respells twoProcesses (bareName label)) ∧
        ∀ name, shown.contains name = true → ∃ label ∈ labels, bareName label = name := by
  have hcounts : ∀ e ∈ twoProcesses.entries, e.2 ≤ Text.maxWord := by decide +kernel
  have hextra (sig : String) (count : Nat) (h : twoProcesses.get? sig = some count) :
      count ≤ Text.maxWord := hcounts (sig, count) (NameMap.mem_entries_iff.2 h)
  exact ⟨by decide, hextra, contains_scopes_iff (by decide) hextra⟩

/-- The signature `Proc_00` is that of no extra atom, and it is hidden. -/
theorem not_shown_respelled :
    processes.satisfiable = true ∧ bareName "this/Proc_00" = "Proc_00" ∧ "Proc_00" ≠ univ ∧
      "Proc_00" ∉ Model.extraNames twoProcesses ∧
      ∃ labels shown, processes.sigs = .ok labels ∧ "this/Proc_00" ∈ labels ∧
        processes.scopes twoProcesses = .ok shown ∧ shown.contains "Proc_00" = false := by
  refine ⟨by decide, by decide +kernel, by decide, by decide +kernel, ?_⟩
  have hi : processes.document.instances[processes.index]? = some _ := rfl
  refine ⟨_, _, by rw [sigs, instance?, hi]; rfl, by decide +kernel, scopes_eq_ok hi twoProcesses, ?_⟩
  decide +kernel

end Solution

end StateExplorer
