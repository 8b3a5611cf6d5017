import Mathlib.Data.List.Forall2
import StateExplorer.Datum.Basic
import StateExplorer.Proofs.NameMap

/-!
# Data is read as what it was made of

A reader finds in a tree what the tree was made of: the entries of a record by their names, the items
of a list, the bindings of a map, and a number that fits a word. An entry that holds a default may be
missing, and the default is read. `Plain` trees are those made of nothing else, so they can be written
down.
-/

namespace StateExplorer

namespace Datum

/-! ### Trees that can be written -/

/-- Whether a tree can be written down: its texts and keys are texts, and its numbers natural
ones. -/
inductive Plain : Datum → Prop
  | null : Plain .null
  | flag (value : Bool) : Plain (.flag value)
  | number (n : Nat) : Plain (.ofNat n)
  | text (s : String) : Plain (.ofString s)
  | list {items : List Datum} (h : ∀ d ∈ items, Plain d) : Plain (.list items)
  | record {entries : List (Option String × Datum)} (hkeys : ∀ e ∈ entries, e.1.isSome = true)
      (h : ∀ e ∈ entries, Plain e.2) : Plain (.record entries)

/-- A record of plain entries is plain. -/
theorem plain_ofEntries {entries : List (String × Datum)} (h : ∀ e ∈ entries, e.2.Plain) :
    (ofEntries entries).Plain := by
  refine .record ?_ ?_
  · rintro _ he
    obtain ⟨⟨name, value⟩, -, rfl⟩ := List.mem_map.1 he
    rfl
  · rintro _ he
    obtain ⟨⟨name, value⟩, hmem, rfl⟩ := List.mem_map.1 he
    exact h _ hmem

/-- A list of what is made plain is plain. -/
theorem plain_list_map {α : Type} {f : α → Datum} {items : List α} (h : ∀ a ∈ items, (f a).Plain) :
    (Datum.list (items.map f)).Plain := by
  refine .list fun d hd => ?_
  obtain ⟨a, ha, rfl⟩ := List.mem_map.1 hd
  exact h a ha

/-- A list of texts is plain. -/
theorem plain_ofStrings (items : List String) : (ofStrings items).Plain :=
  plain_list_map fun s _ => .text s

/-- A map of what is made plain is plain. -/
theorem plain_ofMap {α : Type} {f : α → Datum} (h : ∀ a, (f a).Plain) (m : NameMap α) :
    (ofMap f m).Plain := by
  refine plain_ofEntries ?_
  rintro _ he
  obtain ⟨⟨name, value⟩, -, rfl⟩ := List.mem_map.1 he
  exact h value

/-! ### Reading -/

/-- What is read one by one is read as a whole. -/
theorem mapM_map_eq_some {α β : Type} {f : β → Option α} {g : α → β} {items : List α}
    (h : ∀ a ∈ items, f (g a) = some a) : (items.map g).mapM f = some items := by
  induction items with
  | nil => rfl
  | cons a rest ih =>
    obtain ⟨ha, hrest⟩ := List.forall_mem_cons.1 h
    rw [List.map_cons, List.mapM_cons, ha, ih hrest]
    rfl

/-- A list is read as the items it was made of. -/
theorem list?_map {α : Type} {f : Datum → Option α} {g : α → Datum} {items : List α}
    (h : ∀ a ∈ items, f (g a) = some a) : list? f (.list (items.map g)) = some items :=
  mapM_map_eq_some h

/-- A list of texts is read as these. -/
@[simp] theorem strings?_ofStrings (items : List String) : strings? (ofStrings items) = some items :=
  list?_map fun _ _ => rfl

/-- A number that fits a word is read as it is. -/
theorem nat?_ofNat {n : Nat} (h : n ≤ Text.maxWord) : (ofNat n).nat? = some n := by
  have htext : (toString n).toList = Text.decimal n := by simp [Text.decimal]
  rw [ofNat, nat?, htext, Text.digits?_decimal, Option.filter_some, if_pos (by simpa using h)]

/-- A map is read as the map it was made of. -/
theorem map?_ofMap {α : Type} {f : Datum → Option α} {g : α → Datum} (h : ∀ a, f (g a) = some a)
    (m : NameMap α) : map? f (ofMap g m) = some m := by
  have hentries : ((m.entries.map fun e : String × α =>
      ((some e.1, g e.2) : Option String × Datum)).mapM fun e =>
        e.1.bind fun key => (f e.2).map fun value => (key, value)) = some m.entries :=
    mapM_map_eq_some fun e _ => by simp [h]
  have hrecord : ofMap g m = .record (m.entries.map fun e => (some e.1, g e.2)) := by
    simp [ofMap, ofEntries]
  rw [hrecord, map?, hentries, Option.bind_eq_bind, Option.bind_some, NameMap.ofList_entries]
  rfl

/-- The entries of a record are found by their names. -/
theorem entries?_ofEntries (form : Form) (keys : List String) {entries : List (String × Datum)}
    (h : (entries.map Prod.fst).Nodup) :
    entries? form keys (ofEntries entries) = some (keys.map fun key => entries.lookup key) := by
  have hnamed : ((entries.map fun e : String × Datum =>
      ((some e.1, e.2) : Option String × Datum)).mapM fun e =>
        e.1.map fun key => (key, e.2)) = some entries :=
    mapM_map_eq_some fun e _ => rfl
  have hrecord : ofEntries entries = .record (entries.map fun e => (some e.1, e.2)) := rfl
  have honce : (keys.all fun key => (entries.filter (·.1 == key)).length ≤ 1) = true := by
    simp only [List.all_eq_true, decide_eq_true_eq]
    intro key _
    have hcount := List.nodup_iff_count.1 h key
    rwa [List.count_eq_countP, List.countP_map, List.countP_eq_length_filter] at hcount
  rw [hrecord, entries?, hnamed, Option.bind_eq_bind, Option.bind_some, if_pos honce]

/-! ### Entries that may be missing -/

/-- Whether a record tells a value under a key: in data that tell it, or by leaving the key out where
the value is the default. -/
def TellsAt {α : Type} (told : α → Datum → Prop) (default : α) (entries : List (String × Datum))
    (key : String) (value : α) : Prop :=
  (∃ d, entries.lookup key = some d ∧ told value d) ∨ entries.lookup key = none ∧ value = default

/-- A value that a record tells is read from it, whether its key is there or not. -/
theorem TellsAt.orElse? {α : Type} {told : α → Datum → Prop} {default value : α}
    {entries : List (String × Datum)} {key : String} (h : TellsAt told default entries key value)
    {f : Datum → Option α} (hread : ∀ d, told value d → f d = some value) :
    Datum.orElse? default f (entries.lookup key) = some value := by
  rcases h with ⟨d, hfound, htold⟩ | ⟨hmissing, rfl⟩
  · rw [hfound]
    exact hread d htold
  · rw [hmissing]
    rfl

/-- Whether a list tells some items, one after another. -/
def TellsEach {α : Type} (told : α → Datum → Prop) (items : List α) (d : Datum) : Prop :=
  ∃ data, d = .list data ∧ List.Forall₂ told items data

/-- Items that a list tells are read from it. -/
theorem TellsEach.list? {α : Type} {told : α → Datum → Prop} {items : List α} {d : Datum}
    (h : TellsEach told items d) {f : Datum → Option α}
    (hread : ∀ a ∈ items, ∀ d, told a d → f d = some a) : Datum.list? f d = some items := by
  obtain ⟨data, rfl, htold⟩ := h
  change data.mapM f = some items
  induction htold with
  | nil => rfl
  | cons hfirst _ ih =>
    obtain ⟨ha, hrest⟩ := List.forall_mem_cons.1 hread
    rw [List.mapM_cons, ha _ hfirst, ih hrest]
    rfl

/-- Items are told by the data that each of them is written as. -/
theorem tellsEach_map {α : Type} {told : α → Datum → Prop} {f : α → Datum} {items : List α}
    (h : ∀ a ∈ items, told a (f a)) : TellsEach told items (.list (items.map f)) :=
  ⟨items.map f, rfl, List.forall₂_map_right_iff.2 (List.forall₂_same.2 h)⟩

end Datum

end StateExplorer
