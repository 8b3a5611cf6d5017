/-!
# Maps keyed by names

A `NameMap` holds its entries in strictly ascending order of their names, so two maps with the
same entries are equal and every listing is in name order. Names compare character by character.
The view of a map is `get?`; each operation has one lemma on it.
-/

namespace StateExplorer

/-- Entries whose names ascend strictly. -/
def Ascending {α : Type} (entries : List (String × α)) : Prop :=
  entries.Pairwise fun a b => a.1 < b.1

/-- A finite map from names to values. -/
structure NameMap (α : Type) where
  entries : List (String × α)
  ascending : Ascending entries

namespace NameMap

variable {α β : Type}

/-- Two maps with the same entries are equal. -/
theorem ext {a b : NameMap α} (h : a.entries = b.entries) : a = b := by
  cases a; cases b; cases h; rfl

instance [DecidableEq α] : DecidableEq (NameMap α) := fun a b =>
  decidable_of_iff (a.entries = b.entries) ⟨ext, congrArg entries⟩

/-- The map without entries. -/
def empty : NameMap α := ⟨[], List.Pairwise.nil⟩

instance : Inhabited (NameMap α) := ⟨empty⟩

/-- Puts an entry into its place, over one of the same name. -/
def place (name : String) (value : α) : List (String × α) → List (String × α)
  | [] => [(name, value)]
  | (n, v) :: rest =>
    if name < n then (name, value) :: (n, v) :: rest
    else if name = n then (name, value) :: rest
    else (n, v) :: place name value rest

/-- Placing adds no name but the given one. -/
theorem mem_place {name : String} {value : α} {entries : List (String × α)} {e : String × α}
    (h : e ∈ place name value entries) : e = (name, value) ∨ e ∈ entries := by
  induction entries with
  | nil => simpa [place] using h
  | cons hd rest ih =>
    obtain ⟨n, v⟩ := hd
    simp only [place] at h
    split at h
    · simpa using h
    · split at h
      · simp only [List.mem_cons] at h ⊢
        exact h.imp id .inr
      · simp only [List.mem_cons] at h ⊢
        rcases h with h | h
        · exact .inr (.inl h)
        · exact (ih h).imp id .inr

/-- Placing keeps the order. -/
theorem ascending_place {name : String} {value : α} {entries : List (String × α)}
    (h : Ascending entries) : Ascending (place name value entries) := by
  induction entries with
  | nil => simp [place, Ascending]
  | cons hd rest ih =>
    obtain ⟨n, v⟩ := hd
    have hrest : Ascending rest := h.of_cons
    have hall : ∀ e ∈ rest, n < e.1 := (List.pairwise_cons.1 h).1
    simp only [place]
    split
    · rename_i hlt
      refine List.pairwise_cons.2 ⟨fun e he => ?_, h⟩
      rcases List.mem_cons.1 he with rfl | he
      · exact hlt
      · exact String.lt_trans hlt (hall e he)
    · split
      · rename_i heq
        subst heq
        exact List.pairwise_cons.2 ⟨hall, hrest⟩
      · rename_i hlt hne
        refine List.pairwise_cons.2 ⟨fun e he => ?_, ih hrest⟩
        rcases mem_place he with rfl | he
        · rcases Decidable.em (n < name) with hn | hn
          · exact hn
          · exact absurd (String.le_antisymm (String.not_lt.1 hn) (String.not_lt.1 hlt)) hne
        · exact hall e he

/-- The map with the name bound to the value. -/
def insert (map : NameMap α) (name : String) (value : α) : NameMap α :=
  ⟨place name value map.entries, ascending_place map.ascending⟩

/-- The value bound to the name. -/
def get? (map : NameMap α) (name : String) : Option α :=
  map.entries.lookup name

/-- Whether the name is bound. -/
def contains (map : NameMap α) (name : String) : Bool :=
  (map.get? name).isSome

/-- The bound names, ascending. -/
def names (map : NameMap α) : List String :=
  map.entries.map Prod.fst

/-- The bound values, in the order of their names. -/
def values (map : NameMap α) : List α :=
  map.entries.map Prod.snd

/-- The map of a list of entries; of two with one name the later counts. -/
def ofList (entries : List (String × α)) : NameMap α :=
  entries.foldl (fun map e => map.insert e.1 e.2) empty

/-- The same names with other values. -/
def map (f : String → α → β) (m : NameMap α) : NameMap β :=
  ⟨m.entries.map fun e => (e.1, f e.1 e.2), by
    simpa [Ascending, List.pairwise_map] using m.ascending⟩

/-- The entries that pass a test. -/
def filter (keep : String → α → Bool) (m : NameMap α) : NameMap α :=
  ⟨m.entries.filter fun e => keep e.1 e.2, m.ascending.filter _⟩

/-- The map with the value of one bound name changed. -/
def modify (m : NameMap α) (name : String) (f : α → α) : NameMap α :=
  m.map fun n v => if n = name then f v else v

/-- Whether the map has no entries. -/
def isEmpty (m : NameMap α) : Bool :=
  m.entries.isEmpty

@[simp] theorem get?_empty (name : String) : (empty : NameMap α).get? name = none := rfl

/-- A name is bound to what was last inserted under it. -/
theorem get?_insert (m : NameMap α) (name : String) (value : α) (other : String) :
    (m.insert name value).get? other = if other = name then some value else m.get? other := by
  obtain ⟨entries, hasc⟩ := m
  simp only [get?, insert]
  clear hasc
  have look (n : String) (v : α) (rest : List (String × α)) :
      List.lookup other ((n, v) :: rest) = if other = n then some v else rest.lookup other := by
    by_cases h : other = n
    · simp [h]
    · simp [List.lookup_cons, beq_false_of_ne h, h]
  induction entries with
  | nil => simp [place, look]
  | cons hd rest ih =>
    obtain ⟨n, v⟩ := hd
    simp only [place]
    split
    · simp only [look]
    · split
      · rename_i heq
        subst heq
        simp only [look]
        split <;> rfl
      · rename_i hne
        simp only [look, ih]
        by_cases h : other = n
        · subst h
          simp [Ne.symm hne]
        · simp [h]

end NameMap

end StateExplorer
