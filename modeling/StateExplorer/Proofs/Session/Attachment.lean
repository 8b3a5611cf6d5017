import StateExplorer.Proofs.Session.Operation
import StateExplorer.Proofs.Store.Recording

/-!
# Attaching a chain

The only way in which exploring enlarges a store is to attach a chain. Once its parent is known to
be stored, the chain to have a state and the alternatives to turn over, nothing can fail any more:
the new numbers are fresh, so they can be shown and have their routes recorded. What is attached is
stated here as one exploration, and an attachment either gives it or changes nothing.
-/

namespace StateExplorer

/-- The store once a walk is recorded as the route to the stop under its cursor. -/
def Store.recordCursor (walk : Walk) (store : Store) : Store :=
  match walk.current? with
  | none => store
  | some stop => (store.recordRoute stop.id (walk.ids.take (walk.cursor + 1))).2

/-- Recording a walk under its cursor changes nothing in a settled store. -/
theorem Store.Settled.recordCursor_eq_self {store : Store} (h : store.Settled) (walk : Walk) :
    store.recordCursor walk = store := by
  unfold recordCursor
  split
  · rfl
  · exact h.recordRoute_eq_self _ _

namespace Exploration

/-- The exploration once its walk is recorded as the route to the given numbers and to the one under
the cursor. -/
def recorded (x : Exploration) (ids : List Nat) : Exploration :=
  { x with store := (x.store.recordTo x.walk.ids ids).recordCursor x.walk }

/-- The exploration once a chain is stored below a parent and shown after what is kept of the walk. -/
def attached (x : Exploration) (parent : Option Nat) (chain : List State) (kept : Walk)
    (alternatives : Alternatives) (shown : List Stop) : Exploration :=
  { x with
    store := x.store.grow parent chain
    walk := kept.extend shown
    alternatives := alternatives }.recorded (List.range' (x.store.size + 1) chain.length)

/-- Whether one exploration comes from another by attaching a chain. -/
inductive Attaches (x : Exploration) (parent : Option Nat) (chain : List State) (kept : Walk)
    (alternatives : Alternatives) : Exploration → Prop
  | intro {shown : List Stop} (parent_has : ∀ p ∈ parent, x.store.Has p) (chain_ne : chain ≠ [])
      (stops_eq : (x.store.grow parent chain).stops
        (List.range' (x.store.size + 1) chain.length) = .ok shown) :
      Attaches x parent chain kept alternatives (x.attached parent chain kept alternatives shown)

end Exploration

namespace Store

/-- Recording a walk under its cursor leaves a store like it was. -/
theorem alike_recordCursor (walk : Walk) (store : Store) :
    store.Alike (store.recordCursor walk) := by
  unfold recordCursor
  split
  · exact .refl store
  · exact alike_recordRoute store _ _

end Store

namespace Walk

/-- After an extension the cursor is on the last of the new stops. -/
theorem current?_extend (walk : Walk) {shown : List Stop} (h : shown ≠ []) :
    (walk.extend shown).current? = shown.getLast? := by
  have hlength : 0 < shown.length := List.length_pos_iff.2 h
  simp only [extend, current?, List.isEmpty_iff, h, if_false, List.length_append]
  rw [List.getElem?_append_right (by omega), List.getLast?_eq_getElem?]
  congr 1
  omega

end Walk

namespace Explore

variable {σ : Type} {x y : Exploration} {s t : σ}

/-- Writing to the store keeps what was written, also where it was refused. -/
theorem run_writeStore {α : Type} (write : Store → Except StoreError α × Store) (x : Exploration)
    (s : σ) : (writeStore write).run x s =
      ((write x.store).1.mapError .ofStore, { x with store := (write x.store).2 }, s) := by
  rw [writeStore, Op.run_get_bind, Op.run_bind, Op.run_set]
  exact Op.run_ofExcept _ _ _ _

/-- The route to a number in use is recorded. -/
theorem run_recordRoute {id : Nat} (h : x.store.Has id) (length : Nat) (s : σ) :
    (recordRoute id length).run x s =
      (.ok (), { x with store := (x.store.recordRoute id (x.walk.ids.take length)).2 }, s) := by
  obtain ⟨fresh, hfresh⟩ := Store.recordRoute_eq_ok h (x.walk.ids.take length)
  rw [recordRoute, Op.run_get_bind, Op.run_bind, run_writeStore, hfresh]
  rfl

/-- The routes to numbers in use are recorded. -/
theorem run_recordRoutesTo {ids : List Nat} (h : ∀ id ∈ ids, x.store.Has id) (s : σ) :
    (recordRoutesTo ids).run x s =
      (.ok (), { x with store := x.store.recordTo x.walk.ids ids }, s) := by
  induction ids generalizing x with
  | nil => rfl
  | cons id rest ih =>
    have hrest (i : Nat) (hi : i ∈ rest) : x.store.Has i := h i (List.mem_cons_of_mem _ hi)
    rw [recordRoutesTo, Op.run_bind, recordOnWalk, Op.run_get_bind, Store.recordTo_cons]
    by_cases hwalk : x.walk.ids.contains id
    · have halike := Store.alike_recordRoute x.store id (x.walk.ids.take (x.walk.ids.idxOf id + 1))
      rw [if_pos hwalk, if_pos hwalk, run_recordRoute (h id List.mem_cons_self)]
      exact ih fun i hi => (halike.has_iff i).2 (hrest i hi)
    · rw [if_neg hwalk, if_neg hwalk]
      exact ih hrest

/-- The routes to numbers in use and to the one under the cursor are recorded. -/
theorem run_recordRoutes {ids : List Nat} (h : ∀ id ∈ ids, x.store.Has id)
    (hcurrent : ∀ stop ∈ x.walk.current?, x.store.Has stop.id) (s : σ) :
    (recordRoutes ids).run x s = (.ok (), x.recorded ids, s) := by
  rw [recordRoutes, Op.run_bind, run_recordRoutesTo h, Exploration.recorded, Store.recordCursor]
  simp only [Op.run_get_bind]
  cases hstop : x.walk.current? with
  | none => rfl
  | some stop =>
    have halike := Store.alike_recordTo x.walk.ids x.store ids
    exact run_recordRoute ((halike.has_iff stop.id).2 (hcurrent stop hstop)) _ s

/-- A chain with a state is attached below a number in use. -/
theorem run_attach {parent : Option Nat} {chain : List State} (keep : Walk → Walk)
    (turn : Alternatives → Except NoAlternative Alternatives) {alternatives : Alternatives}
    (hparent : ∀ p ∈ parent, x.store.Has p) (hchain : chain ≠ [])
    (hturn : turn x.alternatives = .ok alternatives) (s : σ) :
    ∃ shown, (x.store.grow parent chain).stops
        (List.range' (x.store.size + 1) chain.length) = .ok shown ∧
      (attach parent chain keep turn).run x s =
        (.ok (), x.attached parent chain (keep x.walk) alternatives shown, s) := by
  obtain ⟨shown, hshown⟩ := x.store.exists_stops_grow parent chain
  obtain ⟨hids, hshows⟩ := Store.of_stops_eq_ok hshown
  have hne : shown ≠ [] := by
    rintro rfl
    have hlength := congrArg List.length hids
    simp at hlength
    exact hchain (List.length_eq_zero_iff.1 hlength.symm)
  refine ⟨shown, hshown, ?_⟩
  rw [attach, Op.run_bind, run_writeStore, Store.addChain_eq_ok hparent hchain]
  simp only [Except.mapError, Op.run_get, Op.run_bind, hshown, Op.run_ofExcept, Op.run_update,
    hturn]
  -- The numbers to record are those of the chain, and the cursor is on the last of them.
  refine run_recordRoutes (fun id hid => ?_) (fun stop hstop => ?_) s
  · rw [List.mem_range'_1] at hid
    rw [Store.Has, Store.size_grow]
    omega
  · rw [Walk.current?_extend _ hne] at hstop
    exact (hshows stop (List.mem_of_getLast? hstop)).has

/-- Where a chain was attached, its parent is in use, it has a state, and the alternatives turned. -/
theorem of_attach_ok {parent : Option Nat} {chain : List State} {keep : Walk → Walk}
    {turn : Alternatives → Except NoAlternative Alternatives} {u : Unit}
    (h : (attach parent chain keep turn).run x s = (.ok u, y, t)) :
    ∃ alternatives, turn x.alternatives = .ok alternatives ∧
      x.Attaches parent chain (keep x.walk) alternatives y ∧ t = s := by
  obtain ⟨ids, y₁, s₁, hwrite, hrest⟩ := Op.of_bind_ok h
  rw [run_writeStore] at hwrite
  match hadd : x.store.addChain parent chain with
  | (.error e, new) => simp [hadd, Except.mapError] at hwrite
  | (.ok added, new) =>
    obtain ⟨hchain, hparent⟩ := Store.of_addChain_eq_ok hadd
    cases hturn : turn x.alternatives with
    | ok alternatives =>
      obtain ⟨shown, hshown, hrun⟩ := run_attach keep turn hparent hchain hturn s
      rw [hrun] at h
      obtain ⟨-, rfl, rfl⟩ := Prod.mk.inj h
      exact ⟨alternatives, rfl, .intro hparent hchain hshown, rfl⟩
    | error e =>
      -- The alternatives are turned over by the fourth part, which then fails.
      rw [hadd] at hwrite
      simp only [Except.mapError, Prod.mk.injEq, Except.ok.injEq] at hwrite
      obtain ⟨rfl, rfl, rfl⟩ := hwrite
      simp only [Op.run_get, Op.run_bind, Op.run_ofExcept, Op.run_update] at hrest
      cases hstops : new.stops added with
      | error e => simp [hstops, Except.mapError] at hrest
      | ok shown => simp [hstops, Except.mapError, hturn] at hrest

/-- Attaching a chain changes nothing where it fails, as long as the alternatives turn over. -/
theorem attach_atomic {parent : Option Nat} {chain : List State} {keep : Walk → Walk}
    {turn : Alternatives → Except NoAlternative Alternatives} {alternatives : Alternatives}
    (hturn : turn x.alternatives = .ok alternatives) :
    (attach parent chain keep turn : Op σ Unit).Atomic x := by
  intro s e h
  match hadd : x.store.addChain parent chain with
  | (.ok added, new) =>
    obtain ⟨hchain, hparent⟩ := Store.of_addChain_eq_ok hadd
    obtain ⟨shown, -, hrun⟩ := run_attach keep turn hparent hchain hturn s
    simp [hrun] at h
  | (.error e, new) =>
    obtain rfl := Store.addChain_eq_error hadd
    rw [attach, Op.run_bind, run_writeStore, hadd]
    rfl

end Explore

end StateExplorer
