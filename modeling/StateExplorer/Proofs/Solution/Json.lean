import StateExplorer.Proofs.Datum.Json
import StateExplorer.Solution.Json

/-!
# Documents are read as they were written

A document whose numbers fit a word is read from any data that tell it. Lists and maps that are empty
may be left out there, and so may an arity of one; the order of the entries makes no difference, nor
do entries of other names. What a document is written as tells it, so no two documents have one text.
-/

namespace StateExplorer

open Datum

/-- Whether a record tells a field. -/
def Field.Told (field : Field) (d : Datum) : Prop :=
  ∃ entries, (entries.map Prod.fst).Nodup ∧ d = .ofEntries entries ∧
    entries.lookup "name" = some (.ofString field.name) ∧
    TellsAt (fun n d => d = .ofNat n) 1 entries "arity" field.arity

/-- The data of a field can be written down. -/
theorem Field.plain_toDatum (field : Field) : field.toDatum.Plain :=
  plain_ofEntries (by simp [Plain.text, Plain.number])

/-- A field is told by its data. -/
theorem Field.told_toDatum (field : Field) : field.Told field.toDatum :=
  ⟨_, by simp, rfl, by simp, .inl ⟨_, by simp [List.lookup_cons], rfl⟩⟩

/-- A field is read from data that tell it. -/
theorem Field.Told.ofDatum? {field : Field} {d : Datum} (htold : field.Told d) (form : Form)
    (h : field.arity ≤ Text.maxWord) : Field.ofDatum? form d = some field := by
  obtain ⟨entries, hnodup, rfl, hname, harity⟩ := htold
  have hread := harity.orElse? (f := nat?) fun _ hd => hd ▸ nat?_ofNat h
  rw [Field.ofDatum?, entries?_ofEntries form _ hnodup]
  simp [hname, hread, string?, ofString]

/-- Whether a record tells an instance. -/
def Instance.Told (i : Instance) (d : Datum) : Prop :=
  ∃ entries, (entries.map Prod.fst).Nodup ∧ d = .ofEntries entries ∧
    entries.lookup "state_count" = some (.ofNat i.stateCount) ∧
    TellsAt (fun m d => d = .ofMap .ofStrings m) .empty entries "tuples" i.tuples ∧
    TellsAt (fun m d => d = .ofMap .ofStrings m) .empty entries "sigs" i.sigs

namespace Instance

/-- The data of an instance can be written down. -/
theorem plain_toDatum (i : Instance) : i.toDatum.Plain := by
  have hmap (m : NameMap (List String)) : (ofMap ofStrings m).Plain := plain_ofMap plain_ofStrings m
  refine plain_ofEntries ?_
  split <;> simp [hmap, Plain.number]

/-- An instance is told by its data, whether its signatures are left out there or not. -/
theorem told_toDatum (i : Instance) : i.Told i.toDatum := by
  unfold toDatum
  split
  · rename_i hnone
    have hempty : i.sigs = .empty := NameMap.ext (List.isEmpty_iff.1 hnone)
    exact ⟨_, by simp, rfl, by simp, .inl ⟨_, by simp [List.lookup_cons], rfl⟩,
      .inr ⟨by simp [List.lookup_cons], hempty⟩⟩
  · exact ⟨_, by simp, rfl, by simp, .inl ⟨_, by simp [List.lookup_cons], rfl⟩,
      .inl ⟨_, by simp [List.lookup_cons], rfl⟩⟩

/-- An instance is read from data that tell it. -/
theorem Told.ofDatum? {i : Instance} {d : Datum} (htold : i.Told d) (form : Form)
    (h : i.stateCount ≤ Text.maxWord) : Instance.ofDatum? form d = some i := by
  obtain ⟨entries, hnodup, rfl, hcount, htuples, hsigs⟩ := htold
  have hmap (m : NameMap (List String)) (d : Datum) (hd : d = ofMap ofStrings m) :
      map? strings? d = some m := hd ▸ map?_ofMap strings?_ofStrings m
  have htuples := htuples.orElse? (hmap i.tuples)
  have hsigs := hsigs.orElse? (hmap i.sigs)
  rw [Instance.ofDatum?, entries?_ofEntries form _ hnodup]
  simp [hcount, htuples, hsigs, nat?_ofNat h]

end Instance

namespace Document

/-- Whether the numbers of a document fit a word. -/
structure Fits (document : Document) : Prop where
  fields : ∀ field ∈ document.fields, field.arity ≤ Text.maxWord
  instances : ∀ i ∈ document.instances, i.stateCount ≤ Text.maxWord

/-- Whether a record tells a document. -/
def Told (document : Document) (d : Datum) : Prop :=
  ∃ entries, (entries.map Prod.fst).Nodup ∧ d = .ofEntries entries ∧
    entries.lookup "state_sig" = some (.ofString document.stateSig) ∧
    TellsAt (TellsEach Field.Told) [] entries "fields" document.fields ∧
    TellsAt (TellsEach Instance.Told) [] entries "instances" document.instances

/-- The data of a document can be written down. -/
theorem plain_toDatum (document : Document) : document.toDatum.Plain := by
  have hfields : (Datum.list (document.fields.map Field.toDatum)).Plain :=
    plain_list_map fun field _ => field.plain_toDatum
  have hinstances : (Datum.list (document.instances.map Instance.toDatum)).Plain :=
    plain_list_map fun i _ => i.plain_toDatum
  exact plain_ofEntries (by simp [Plain.text, hfields, hinstances])

/-- A document is told by its data. -/
theorem told_toDatum (document : Document) : document.Told document.toDatum :=
  ⟨_, by simp, rfl, by simp,
    .inl ⟨_, by simp [List.lookup_cons], tellsEach_map fun field _ => field.told_toDatum⟩,
    .inl ⟨_, by simp [List.lookup_cons], tellsEach_map fun i _ => i.told_toDatum⟩⟩

/-- A document is read from data that tell it. -/
theorem Told.ofDatum? {document : Document} {d : Datum} (htold : document.Told d) (form : Form)
    (h : document.Fits) : Document.ofDatum? form d = some document := by
  obtain ⟨entries, hnodup, rfl, hsig, hfields, hinstances⟩ := htold
  have hfields := hfields.orElse? (f := Schema.ofDatum? form) fun _ hd =>
    hd.list? fun field hfield _ htold => htold.ofDatum? form (h.fields field hfield)
  have hinstances := hinstances.orElse? (f := Datum.list? (Instance.ofDatum? form)) fun _ hd =>
    hd.list? fun i hi _ htold => htold.ofDatum? form (h.instances i hi)
  rw [Document.ofDatum?, entries?_ofEntries form _ hnodup]
  simp [hsig, hfields, hinstances, string?, ofString]

/-- A document is read from a text that tells it. -/
theorem Told.ofJson? {document : Document} {d : Datum} (htold : document.Told d) (hplain : d.Plain)
    (h : document.Fits) : Document.ofJson? d.toJson = some document := by
  rw [Document.ofJson?, Datum.ofJson?_toJson hplain]
  exact htold.ofDatum? Json.strict h

/-- A document is read from the text that it is written as. -/
theorem ofJson?_toJson {document : Document} (h : document.Fits) :
    ofJson? document.toJson = some document :=
  document.told_toDatum.ofJson? document.plain_toDatum h

/-- A document whose numbers fit a word is written as data that tell it, and is read from these and
from any other data that tell it, whichever entries with default values are left out there. So what one
document is told by is never read as another. -/
theorem ofJson?_eq_some_of_told {document : Document} (h : document.Fits) :
    (document.Told document.toDatum ∧ ofJson? document.toJson = some document) ∧
    (∀ d : Datum, d.Plain → document.Told d → ofJson? d.toJson = some document) ∧
    ∀ (other : Document) (d e : Datum), other.Fits → d.Plain → e.Plain → document.Told d →
      other.Told e → d.toJson = e.toJson → document = other := by
  refine ⟨⟨document.told_toDatum, ofJson?_toJson h⟩, fun d hplain htold => htold.ofJson? hplain h, ?_⟩
  intro other d e hother hplain hplain' htold htold' htext
  have hread := htold.ofJson? hplain h
  rw [htext, htold'.ofJson? hplain' hother] at hread
  exact (Option.some.inj hread).symm

/-- A document with an arity of one, the greatest number, control characters, and an instance that
tells nothing but its length. -/
def terse : Document :=
  ⟨"A \"\n\x07é", [⟨"f", 1⟩, ⟨"", Text.maxWord⟩], [⟨Text.maxWord, .empty, .empty⟩]⟩

/-- Data that tell the document, with everything left out that need not be there, in another order,
and with an entry that nobody asks for. -/
def terseDatum : Datum :=
  .ofEntries [("fields", .list [.ofEntries [("name", .ofString "f")],
      .ofEntries [("arity", .ofNat Text.maxWord), ("name", .ofString "")]]),
    ("comment", .null),
    ("instances", .list [.ofEntries [("state_count", .ofNat Text.maxWord)]]),
    ("state_sig", .ofString "A \"\n\x07é")]

/-- The document is read from both texts. -/
theorem ofJson?_eq_some_of_told_terse :
    terse.Fits ∧ terseDatum.Plain ∧ terse.Told terseDatum ∧
      ofJson? terse.toJson = some terse ∧ ofJson? terseDatum.toJson = some terse := by
  have hfits : terse.Fits := ⟨by decide, by decide⟩
  have hplain : terseDatum.Plain := by
    have hfield : (Datum.ofEntries [("name", .ofString "f")]).Plain :=
      plain_ofEntries (by simp [Plain.text])
    have hother : (Datum.ofEntries [("arity", .ofNat Text.maxWord), ("name", .ofString "")]).Plain :=
      plain_ofEntries (by simp [Plain.text, Plain.number])
    have hinstance : (Datum.ofEntries [("state_count", .ofNat Text.maxWord)]).Plain :=
      plain_ofEntries (by simp [Plain.number])
    have hfields := Plain.list (List.forall_mem_cons.2 ⟨hfield, List.forall_mem_singleton.2 hother⟩)
    have hinstances := Plain.list (List.forall_mem_singleton.2 hinstance)
    exact plain_ofEntries (by simp [Plain.null, Plain.text, hfields, hinstances])
  have htold : terse.Told terseDatum := by
    have hfield : Field.Told ⟨"f", 1⟩ (.ofEntries [("name", .ofString "f")]) :=
      ⟨_, by simp, rfl, rfl, .inr ⟨rfl, rfl⟩⟩
    have hother : Field.Told ⟨"", Text.maxWord⟩
        (.ofEntries [("arity", .ofNat Text.maxWord), ("name", .ofString "")]) :=
      ⟨_, by simp, rfl, rfl, .inl ⟨_, rfl, rfl⟩⟩
    have hinstance : Instance.Told ⟨Text.maxWord, .empty, .empty⟩
        (.ofEntries [("state_count", .ofNat Text.maxWord)]) :=
      ⟨_, by simp, rfl, rfl, .inr ⟨rfl, rfl⟩, .inr ⟨rfl, rfl⟩⟩
    exact ⟨_, by simp, rfl, rfl, .inl ⟨_, rfl, _, rfl, .cons hfield (.cons hother .nil)⟩,
      .inl ⟨_, rfl, _, rfl, .cons hinstance .nil⟩⟩
  obtain ⟨⟨-, hwritten⟩, htexts, -⟩ := ofJson?_eq_some_of_told hfits
  exact ⟨hfits, hplain, htold, hwritten, htexts terseDatum hplain htold⟩

end Document

end StateExplorer
