import StateExplorer.NameMap

/-!
# Maps by what they bind

A map binds exactly its entries, so two maps that bind the same are equal. What is bound in a map
that was listed, mapped, filtered or modified follows from what was bound before.
-/

namespace StateExplorer.NameMap

variable {α β : Type}

/-- The names of a map are all different. -/
theorem nodup_names (m : NameMap α) : (m.entries.map Prod.fst).Nodup := by
  rw [List.Nodup, List.pairwise_map]
  refine m.ascending.imp fun {a b} hlt heq => ?_
  rw [heq] at hlt
  exact String.lt_irrefl b.1 hlt

/-- The first entry of a name counts. -/
theorem lookup_cons_eq (name n : String) (v : α) (rest : List (String × α)) :
    ((n, v) :: rest).lookup name = if name = n then some v else rest.lookup name := by
  by_cases hname : name = n
  · simp [hname]
  · rw [List.lookup_cons, beq_false_of_ne hname, if_neg hname]

/-- Among entries of different names, one is looked up exactly if it is there. -/
theorem lookup_eq_some_iff_mem {entries : List (String × α)} (h : (entries.map Prod.fst).Nodup)
    {name : String} {value : α} : entries.lookup name = some value ↔ (name, value) ∈ entries := by
  induction entries with
  | nil => simp
  | cons e rest ih =>
    obtain ⟨n, v⟩ := e
    rw [List.map_cons, List.nodup_cons] at h
    rw [lookup_cons_eq, List.mem_cons, Prod.mk.injEq]
    by_cases hname : name = n
    · subst hname
      have hrest : (name, value) ∉ rest := fun hmem => h.1 (List.mem_map.2 ⟨_, hmem, rfl⟩)
      simp [hrest, eq_comm]
    · simp [hname, ih h.2]

/-- A map binds exactly its entries. -/
theorem mem_entries_iff {m : NameMap α} {name : String} {value : α} :
    (name, value) ∈ m.entries ↔ m.get? name = some value :=
  (lookup_eq_some_iff_mem m.nodup_names).symm

/-- Maps that bind the same are equal. -/
theorem ext_get? {a b : NameMap α} (h : ∀ name, a.get? name = b.get? name) : a = b := by
  have hnodup (m : NameMap α) : m.entries.Nodup :=
    List.Pairwise.of_map _ (fun e f hne heq => hne (congrArg Prod.fst heq)) m.nodup_names
  have hperm : a.entries.Perm b.entries := by
    refine (List.perm_ext_iff_of_nodup (hnodup a) (hnodup b)).2 fun e => ?_
    obtain ⟨name, value⟩ := e
    rw [mem_entries_iff, mem_entries_iff, h]
  refine ext (hperm.eq_of_pairwise (fun e f _ _ hlt hgt => ?_) a.ascending b.ascending)
  exact absurd hgt (String.lt_asymm hlt)

/-- A name is bound to what the given function makes of its value. -/
@[simp] theorem get?_map (f : String → α → β) (m : NameMap α) (name : String) :
    (m.map f).get? name = (m.get? name).map (f name) := by
  obtain ⟨entries, hasc⟩ := m
  simp only [get?, map]
  clear hasc
  induction entries with
  | nil => rfl
  | cons e rest ih =>
    obtain ⟨n, v⟩ := e
    rw [List.map_cons, lookup_cons_eq, lookup_cons_eq, ih]
    by_cases hname : name = n
    · subst hname
      simp
    · simp [hname]

/-- A name stays bound if its value passes the test. -/
@[simp] theorem get?_filter (keep : String → α → Bool) (m : NameMap α) (name : String) :
    (m.filter keep).get? name = (m.get? name).filter (keep name) := by
  refine Option.ext fun value => ?_
  rw [← mem_entries_iff, Option.filter_eq_some_iff, ← mem_entries_iff, filter, List.mem_filter]

/-- Only the value of the one name is modified. -/
theorem get?_modify (m : NameMap α) (name : String) (f : α → α) (other : String) :
    (m.modify name f).get? other =
      (m.get? other).map fun value => if other = name then f value else value := by
  rw [modify, get?_map]

/-- Of entries of different names, each is bound in the map of them. -/
theorem get?_ofList {entries : List (String × α)} (h : (entries.map Prod.fst).Nodup)
    (name : String) : (ofList entries).get? name = entries.lookup name := by
  have hfold : ∀ m : NameMap α, (entries.foldl (fun m e => m.insert e.1 e.2) m).get? name =
      (entries.lookup name).or (m.get? name) := by
    induction entries with
    | nil => simp
    | cons e rest ih =>
      obtain ⟨n, v⟩ := e
      rw [List.map_cons, List.nodup_cons] at h
      intro m
      rw [List.foldl_cons, ih h.2, get?_insert, lookup_cons_eq]
      by_cases hname : name = n
      · subst hname
        have hnone : rest.lookup name = none := by
          refine Option.eq_none_iff_forall_ne_some.2 fun value hvalue => ?_
          exact h.1 (List.mem_map.2 ⟨_, (lookup_eq_some_iff_mem h.2).1 hvalue, rfl⟩)
        simp [hnone]
      · simp [hname]
  rw [ofList, hfold, get?_empty, Option.or_none]

/-- The map of the entries of a map is that map. -/
@[simp] theorem ofList_entries (m : NameMap α) : ofList m.entries = m :=
  ext_get? fun name => get?_ofList m.nodup_names name

/-- Where the value follows from the name, all listed names are bound, also those listed twice. -/
theorem get?_ofList_map (names : List String) (f : String → α) (name : String) :
    (ofList (names.map fun n => (n, f n))).get? name =
      if name ∈ names then some (f name) else none := by
  have hfold : ∀ m : NameMap α,
      ((names.map fun n => (n, f n)).foldl (fun m e => m.insert e.1 e.2) m).get? name =
        if name ∈ names then some (f name) else m.get? name := by
    induction names with
    | nil => simp
    | cons n rest ih =>
      intro m
      rw [List.map_cons, List.foldl_cons, ih, get?_insert]
      by_cases hrest : name ∈ rest
      · simp [hrest]
      · by_cases hname : name = n
        · subst hname
          simp
        · simp [hrest, hname]
  rw [ofList, hfold, get?_empty]

/-- What is listed is bound, and nothing else. -/
theorem isSome_get?_ofList_iff {entries : List (String × α)} {name : String} :
    ((ofList entries).get? name).isSome = true ↔ name ∈ entries.map Prod.fst := by
  have hfold (entries : List (String × α)) : ∀ m : NameMap α,
      ((entries.foldl (fun m e => m.insert e.1 e.2) m).get? name).isSome = true ↔
        name ∈ entries.map Prod.fst ∨ (m.get? name).isSome = true := by
    induction entries with
    | nil => simp
    | cons e rest ih =>
      intro m
      rw [List.foldl_cons, ih, get?_insert, List.map_cons, List.mem_cons]
      by_cases hname : name = e.1
      · simp [hname]
      · simp [hname]
  rw [ofList, hfold, get?_empty, Option.isSome_none, Bool.false_eq_true, or_false]

end StateExplorer.NameMap
