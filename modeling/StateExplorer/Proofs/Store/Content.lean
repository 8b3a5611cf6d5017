import StateExplorer.Proofs.State.Fingerprint
import StateExplorer.Proofs.Store.Writing

/-!
# States of equal content

A store takes states for equal if they have the same fingerprint. Where the digest keeps different
bytes apart, they are the states whose fields have the same bytes. These are the states of the same
fields only where the bytes tell the fields, as they do if no text holds the zero character.
-/

namespace StateExplorer.Store

open Fingerprint (encode Delimited)

variable {store : Store} {a b query : State}

/-- Whether some numbers are those of all states with the given fields, each once and in ascending
order. -/
structure Lists (store : Store) (ids : List Nat) (fields : NameMap (List String)) : Prop where
  ascending : ids.Pairwise (· < ·)
  mem_iff : ∀ id, id ∈ ids ↔ ∃ node, store.node? id = some node ∧ node.state.fields = fields

/-- Whether a store knows the states that equal one of its own, and those that equal the query. -/
structure Exact (store : Store) (query : State) : Prop where
  equivalents : ∀ id node, store.node? id = some node →
    ∃ ids, store.equivalents id = .ok ids ∧ store.Lists ids node.state.fields
  find : store.Lists (store.find query) query.fields

/-- Whether the digest keeps apart what is hashed for some states. -/
def DigestTells (states : List State) : Prop :=
  ∀ a ∈ states, ∀ b ∈ states,
    Sha256.digest (encode a.fields) = Sha256.digest (encode b.fields) →
      encode a.fields = encode b.fields

/-- Whether what is hashed for some states keeps them apart. -/
def BytesTell (states : List State) : Prop :=
  ∀ a ∈ states, ∀ b ∈ states, encode a.fields = encode b.fields → a = b

/-- States without the zero character are kept apart by what is hashed for them. -/
theorem bytesTell_of_delimited {states : List State}
    (h : ∀ state ∈ states, ∀ entry ∈ state.fields.entries, Delimited entry) : BytesTell states :=
  fun a ha b hb hbytes => State.ext (Fingerprint.encode_injective (h a ha) (h b hb) hbytes)

/-- Fingerprints are equal if the digests are. -/
theorem fingerprint_eq_iff :
    a.fingerprint = b.fingerprint ↔
      Sha256.digest (encode a.fields) = Sha256.digest (encode b.fields) := by
  simp [State.fingerprint, Fingerprint.ofFields]

/-- Where the digest keeps bytes apart, fingerprints are equal if the bytes are. -/
theorem DigestTells.fingerprint_eq_iff {states : List State} (h : DigestTells states)
    (ha : a ∈ states) (hb : b ∈ states) :
    a.fingerprint = b.fingerprint ↔ encode a.fields = encode b.fields := by
  rw [Store.fingerprint_eq_iff]
  exact ⟨h a ha b hb, congrArg Sha256.digest⟩

/-- The states of a store are those that its numbers have. -/
theorem mem_states_iff : a ∈ store.states ↔ ∃ id node, store.node? id = some node ∧ node.state = a := by
  constructor
  · intro ha
    obtain ⟨i, hi⟩ := List.mem_iff_getElem?.1 ha
    have hplace : store.states[i + 1 - 1]? = some a := hi
    obtain ⟨node, hnode, hstate⟩ := exists_node?_of_states (Nat.le_add_left 1 i) hplace
    exact ⟨i + 1, node, hnode, hstate⟩
  · intro h
    obtain ⟨id, node, hnode, rfl⟩ := h
    exact List.mem_of_getElem? (states_getElem?_of_node? hnode)

/-- What the index lists for a state are the states with its fields if no stored state of other
fields has the same fingerprint. -/
theorem Indexed.lists_iff (h : store.Indexed) (a : State) :
    store.Lists (store.index.numbers a.fingerprint) a.fields ↔
      ∀ b ∈ store.states, b.fingerprint = a.fingerprint → b = a := by
  rw [h.numbers]
  constructor
  · intro hlists b hb hprint
    obtain ⟨id, node, hnode, rfl⟩ := mem_states_iff.1 hb
    have hid := (hlists.mem_iff id).1 (mem_numbersOf_iff.2 ⟨node, hnode, hprint⟩)
    obtain ⟨other, hother, hfields⟩ := hid
    rw [hnode] at hother
    cases hother
    exact State.ext hfields
  · intro hapart
    refine ⟨numbersOf_strict store _, ?_⟩
    intro id
    rw [mem_numbersOf_iff]
    apply exists_congr
    intro node
    apply and_congr_right
    intro hnode
    constructor
    · intro hprint
      rw [hapart node.state (mem_states_iff.2 ⟨id, node, hnode, rfl⟩) hprint]
    · intro hfields
      rw [State.ext hfields]

/-- A store is exact if the index lists the right states for each of its own and for the query. -/
theorem exact_iff_lists (store : Store) (query : State) :
    store.Exact query ↔
      ∀ a ∈ query :: store.states, store.Lists (store.index.numbers a.fingerprint) a.fields := by
  have hequivalents (id : Nat) (node : Node) (hnode : store.node? id = some node) :
      store.equivalents id = .ok (store.index.numbers node.state.fingerprint) := by
    rw [equivalents, node_eq_ok hnode, ← node.fingerprint_eq]
    rfl
  rw [List.forall_mem_cons]
  constructor
  · intro h
    refine ⟨h.find, ?_⟩
    intro a ha
    obtain ⟨id, node, hnode, rfl⟩ := mem_states_iff.1 ha
    obtain ⟨ids, hids, hlists⟩ := h.equivalents id node hnode
    rw [hequivalents id node hnode] at hids
    rwa [Except.ok.inj hids]
  · intro h
    refine ⟨?_, h.1⟩
    intro id node hnode
    have hlists := h.2 node.state (mem_states_iff.2 ⟨id, node, hnode, rfl⟩)
    exact ⟨_, hequivalents id node hnode, hlists⟩

/-- A store with the right index is exact if the bytes keep its states and the query apart. -/
theorem Indexed.exact_iff (h : store.Indexed) (hdigest : DigestTells (query :: store.states)) :
    store.Exact query ↔ BytesTell (query :: store.states) := by
  have hstored (b : State) (hb : b ∈ store.states) : b ∈ query :: store.states :=
    List.mem_cons_of_mem query hb
  rw [exact_iff_lists]
  constructor
  · intro hlists a ha b hb hbytes
    -- Of two states one is stored, unless both are the query.
    rcases List.mem_cons.1 hb with rfl | hb'
    · rcases List.mem_cons.1 ha with rfl | ha'
      · rfl
      · exact (h.lists_iff b).1 (hlists b hb) a ha' ((hdigest.fingerprint_eq_iff ha hb).2 hbytes)
    · have hprint := (hdigest.fingerprint_eq_iff hb ha).2 hbytes.symm
      exact ((h.lists_iff a).1 (hlists a ha) b hb' hprint).symm
  · intro hbytes a ha
    rw [h.lists_iff]
    intro b hb hprint
    exact hbytes b (hstored b hb) a ha ((hdigest.fingerprint_eq_iff (hstored b hb) ha).1 hprint)

/-- After any writes to an empty store, and if the digest keeps apart what is hashed, the store knows
exactly the states of equal fields if and only if the bytes that are hashed keep them apart. They do
if no text holds the zero character. -/
theorem exact_writeAll_iff (transitionField : Option String) (writes : List Write) (query : State)
    (hdigest : DigestTells (query :: ((empty transitionField).writeAll writes).states)) :
    (((empty transitionField).writeAll writes).Exact query ↔
      BytesTell (query :: ((empty transitionField).writeAll writes).states)) ∧
    ((∀ state ∈ query :: ((empty transitionField).writeAll writes).states,
        ∀ entry ∈ state.fields.entries, Delimited entry) →
      ((empty transitionField).writeAll writes).Exact query) := by
  have hindexed := ((indexed_empty transitionField).writeAll writes).1
  have hiff := hindexed.exact_iff hdigest
  exact ⟨hiff, fun h => hiff.2 (bytesTell_of_delimited h)⟩

/-- The lamps are told apart, so the one red lamp is found. -/
theorem exact_writeAll_lamp :
    DigestTells (lamp "Red" :: ((empty none).writeAll lampWrites).states) ∧
      (∀ state ∈ lamp "Red" :: ((empty none).writeAll lampWrites).states,
        ∀ entry ∈ state.fields.entries, Delimited entry) ∧
      ((empty none).writeAll lampWrites).Exact (lamp "Red") := by
  have hstates : ((empty none).writeAll lampWrites).states = [lamp "Red", lamp "Green"] := rfl
  have hdifferent : (lamp "Red").fingerprint ≠ (lamp "Green").fingerprint := by decide +kernel
  have hdigest : DigestTells (lamp "Red" :: ((empty none).writeAll lampWrites).states) := by
    rw [hstates]
    intro a ha b hb hprint
    have heq := fingerprint_eq_iff.2 hprint
    simp only [List.mem_cons, List.not_mem_nil, or_false, or_self_left] at ha hb
    rcases ha with rfl | rfl <;> rcases hb with rfl | rfl
    · rfl
    · exact absurd heq hdifferent
    · exact absurd heq.symm hdifferent
    · rfl
  have hdelimited : ∀ state ∈ lamp "Red" :: ((empty none).writeAll lampWrites).states,
      ∀ entry ∈ state.fields.entries, Delimited entry := by
    rw [hstates]
    decide +kernel
  exact ⟨hdigest, hdelimited, (exact_writeAll_iff none lampWrites _ hdigest).2 hdelimited⟩

/-- A lamp with two values, of which the first holds a zero character. -/
def zeroFirst : State :=
  .ofFields (.ofList [("lamp", ["x\x00y", "z"])])

/-- A lamp with two values, of which the second holds a zero character. -/
def zeroSecond : State :=
  .ofFields (.ofList [("lamp", ["x", "y\x00z"])])

/-- The zero character reads as the end of a value, so the same bytes are hashed for two lamps of
different values, and each is taken for the other. -/
theorem not_exact_zero :
    DigestTells (zeroSecond :: ((empty none).writeAll [.start [zeroFirst, zeroSecond]]).states) ∧
      zeroFirst.fields ≠ zeroSecond.fields ∧
      ((empty none).writeAll [.start [zeroFirst, zeroSecond]]).equivalents 1 = .ok [1, 2] ∧
      ((empty none).writeAll [.start [zeroFirst, zeroSecond]]).find zeroSecond = [1, 2] ∧
      ¬((empty none).writeAll [.start [zeroFirst, zeroSecond]]).Exact zeroSecond := by
  have hbytes : encode zeroFirst.fields = encode zeroSecond.fields := by decide +kernel
  have hfields : zeroFirst.fields ≠ zeroSecond.fields := by decide +kernel
  have hstates : ((empty none).writeAll [.start [zeroFirst, zeroSecond]]).states =
      [zeroFirst, zeroSecond] := rfl
  have hdigest :
      DigestTells (zeroSecond :: ((empty none).writeAll [.start [zeroFirst, zeroSecond]]).states) := by
    rw [hstates]
    intro a ha b hb _
    have hall (c : State) (hc : c ∈ [zeroSecond, zeroFirst, zeroSecond]) :
        encode c.fields = encode zeroSecond.fields := by
      simp only [List.mem_cons, List.not_mem_nil, or_false] at hc
      rcases hc with rfl | rfl | rfl
      · rfl
      · exact hbytes
      · rfl
    rw [hall a ha, hall b hb]
  have hprint : zeroFirst.fingerprint = zeroSecond.fingerprint :=
    fingerprint_eq_iff.2 (congrArg Sha256.digest hbytes)
  have hindexed := ((indexed_empty none).writeAll [.start [zeroFirst, zeroSecond]]).1
  have hnumbers : ((empty none).writeAll [.start [zeroFirst, zeroSecond]]).numbersOf
      zeroSecond.fingerprint = [1, 2] := by
    rw [numbersOf, hstates]
    simp [List.zipIdx, hprint]
  refine ⟨hdigest, hfields, ?_, ?_, ?_⟩
  · have hone : ((empty none).writeAll [.start [zeroFirst, zeroSecond]]).equivalents 1 =
        .ok (((empty none).writeAll [.start [zeroFirst, zeroSecond]]).index.numbers
          zeroFirst.fingerprint) := rfl
    rw [hone, hprint, hindexed.numbers, hnumbers]
  · rw [find, hindexed.numbers, hnumbers]
  · rw [hindexed.exact_iff hdigest]
    intro hapart
    have hsame := hapart zeroFirst (by simp [hstates]) zeroSecond (by simp) hbytes
    exact hfields (congrArg State.fields hsame)

end StateExplorer.Store
