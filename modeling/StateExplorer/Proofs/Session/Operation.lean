import StateExplorer.Session.Basic

/-!
# Running operations

Every primitive operation has one equation for its run. An operation that succeeded in two parts
did so in each of them. Four properties of operations pass through these equations: that an
operation only reads, that it leaves an exploration as it was where it fails, that it touches
nothing but the store, the walk and the alternatives, and that an exploration has some property
wherever it succeeds.
-/

namespace StateExplorer

namespace Op

variable {σ α β : Type} {x y : Exploration} {s t : σ}

/-- Answering at once changes nothing. -/
@[simp] theorem run_pure (a : α) (x : Exploration) (s : σ) :
    (pure a : Op σ α).run x s = (.ok a, x, s) := rfl

/-- What comes next starts where the first part ended, if that part succeeded. -/
theorem run_bind (op : Op σ α) (next : α → Op σ β) (x : Exploration) (s : σ) :
    (op >>= next).run x s =
      match op.run x s with
      | (.ok a, y, t) => (next a).run y t
      | (.error e, y, t) => (.error e, y, t) := rfl

/-- A result is mapped after the run. -/
theorem run_map (f : α → β) (op : Op σ α) (x : Exploration) (s : σ) :
    (f <$> op).run x s =
      match op.run x s with
      | (.ok a, y, t) => (.ok (f a), y, t)
      | (.error e, y, t) => (.error e, y, t) := rfl

/-- Reading answers with the exploration. -/
@[simp] theorem run_get (x : Exploration) (s : σ) : (get : Op σ Exploration).run x s = (.ok x, x, s) :=
  rfl

/-- Reading first hands over the exploration. -/
@[simp] theorem run_get_bind (next : Exploration → Op σ β) (x : Exploration) (s : σ) :
    (get >>= next).run x s = (next x).run x s := rfl

/-- Writing replaces the exploration. -/
@[simp] theorem run_set (y x : Exploration) (s : σ) : (set y : Op σ PUnit).run x s = (.ok ⟨⟩, y, s) :=
  rfl

/-- Updating replaces the exploration by what becomes of it. -/
@[simp] theorem run_update (f : Exploration → Exploration) (x : Exploration) (s : σ) :
    (update f : Op σ Unit).run x s = (.ok (), f x, s) := rfl

/-- Failing changes nothing. -/
@[simp] theorem run_fail (e : SessionError) (x : Exploration) (s : σ) :
    (fail e : Op σ α).run x s = (.error e, x, s) := rfl

/-- A condition is checked without a change. -/
theorem run_require (condition : Bool) (e : SessionError) (x : Exploration) (s : σ) :
    (require condition e : Op σ Unit).run x s =
      (if condition then .ok () else .error e, x, s) := by
  cases condition <;> rfl

/-- A result is taken over without a change. -/
theorem run_ofExcept {ε : Type} (report : ε → SessionError) (result : Except ε α)
    (x : Exploration) (s : σ) :
    (ofExcept report result : Op σ α).run x s = (result.mapError report, x, s) := by
  cases result <;> rfl

/-- A value is taken over without a change. -/
theorem run_ofOption (missing : SessionError) (value : Option α) (x : Exploration) (s : σ) :
    (ofOption missing value : Op σ α).run x s =
      (match value with | some a => .ok a | none => .error missing, x, s) := by
  cases value <;> rfl

/-- A solver is asked without a change of the exploration. -/
theorem run_ask [Solver σ] (query : String) (x : Exploration) (s : σ) :
    (ask query : Op σ Solution).run x s =
      match Solver.run s query with
      | (.ok document, t) => (.ok document.first, x, t)
      | (.error e, t) => (.error (.ofSolver e), x, t) := rfl

/-- A solver compiles a query without a change of the exploration. -/
theorem run_check [Solver σ] (query : String) (x : Exploration) (s : σ) :
    (check query : Op σ Unit).run x s =
      match Solver.compile s query with
      | (.ok _, t) => (.ok (), x, t)
      | (.error e, t) => (.error (.ofSolver e), x, t) := rfl

/-- A restored operation gives back the store, the walk and the alternatives where it fails. -/
theorem run_restoring (op : Op σ α) (x : Exploration) (s : σ) :
    op.restoring.run x s =
      match op.run x s with
      | (.ok a, y, t) => (.ok a, y, t)
      | (.error e, y, t) =>
        (.error e, { y with store := x.store, walk := x.walk, alternatives := x.alternatives }, t) :=
  rfl

/-! ### What succeeded -/

/-- Two parts succeeded if the first one did and the second one did after it. -/
theorem of_bind_ok {op : Op σ α} {next : α → Op σ β} {b : β}
    (h : (op >>= next).run x s = (.ok b, y, t)) :
    ∃ a z u, op.run x s = (.ok a, z, u) ∧ (next a).run z u = (.ok b, y, t) := by
  rw [run_bind] at h
  match hop : op.run x s with
  | (.ok a, z, u) => exact ⟨a, z, u, rfl, by simpa [hop] using h⟩
  | (.error e, z, u) => simp [hop] at h

/-- A condition that was passed holds. -/
theorem of_require_ok {condition : Bool} {e : SessionError} {u : Unit}
    (h : (require condition e : Op σ Unit).run x s = (.ok u, y, t)) :
    condition = true ∧ y = x ∧ t = s := by
  rw [run_require] at h
  cases condition with
  | false => simp at h
  | true => simp_all

/-- A result that was taken over is the given one. -/
theorem of_ofExcept_ok {ε : Type} {report : ε → SessionError} {result : Except ε α} {a : α}
    (h : (ofExcept report result : Op σ α).run x s = (.ok a, y, t)) :
    result = .ok a ∧ y = x ∧ t = s := by
  rw [run_ofExcept] at h
  cases result with
  | error e => cases h
  | ok b =>
    cases h
    exact ⟨rfl, rfl, rfl⟩

/-- A value that was taken over is the given one. -/
theorem of_ofOption_ok {missing : SessionError} {value : Option α} {a : α}
    (h : (ofOption missing value : Op σ α).run x s = (.ok a, y, t)) :
    value = some a ∧ y = x ∧ t = s := by
  rw [run_ofOption] at h
  cases value with
  | none => simp at h
  | some b => simp_all

/-- A solution that was answered is the first one of the solver's document. -/
theorem of_ask_ok [Solver σ] {query : String} {solution : Solution}
    (h : (ask query).run x s = (.ok solution, y, t)) :
    ∃ document, Solver.run s query = (.ok document, t) ∧ solution = document.first ∧ y = x := by
  rw [run_ask] at h
  split at h
  · rename_i document u hrun
    simp only [Prod.mk.injEq, Except.ok.injEq] at h
    obtain ⟨rfl, rfl, rfl⟩ := h
    exact ⟨document, hrun, rfl, rfl⟩
  · simp at h

/-! ### Operations that only read -/

/-- Whether an operation changes no exploration. -/
def Reads (op : Op σ α) : Prop :=
  ∀ x s, (op.run x s).2.1 = x

/-- What an operation that only reads leaves is what it was given. -/
theorem Reads.eq {op : Op σ α} (h : op.Reads) {r : Except SessionError α}
    (hrun : op.run x s = (r, y, t)) : y = x := by
  have := h x s
  rw [hrun] at this
  exact this

theorem reads_pure (a : α) : (pure a : Op σ α).Reads := fun _ _ => rfl

theorem reads_get : (get : Op σ Exploration).Reads := fun _ _ => rfl

theorem reads_fail (e : SessionError) : (fail e : Op σ α).Reads := fun _ _ => rfl

theorem reads_require (condition : Bool) (e : SessionError) :
    (require condition e : Op σ Unit).Reads := fun x s => by rw [run_require]

theorem reads_ofExcept {ε : Type} (report : ε → SessionError) (result : Except ε α) :
    (ofExcept report result : Op σ α).Reads := fun x s => by rw [run_ofExcept]

theorem reads_ofOption (missing : SessionError) (value : Option α) :
    (ofOption missing value : Op σ α).Reads := fun x s => by rw [run_ofOption]

theorem reads_ask [Solver σ] (query : String) : (ask query : Op σ Solution).Reads := fun x s => by
  rw [run_ask]
  split <;> rfl

theorem reads_check [Solver σ] (query : String) : (check query : Op σ Unit).Reads := fun x s => by
  rw [run_check]
  split <;> rfl

/-- Two operations that only read make up one. -/
theorem Reads.bind {op : Op σ α} {next : α → Op σ β} (hop : op.Reads)
    (hnext : ∀ a, (next a).Reads) : (op >>= next).Reads := by
  intro x s
  have hx := hop x s
  rw [run_bind]
  match hrun : op.run x s with
  | (.ok a, y, t) =>
    obtain rfl : y = x := by simpa [hrun] using hx
    exact hnext a y t
  | (.error e, y, t) => simpa [hrun] using hx

/-! ### Operations that leave everything where they fail -/

/-- Whether an operation leaves the exploration as it was if it fails on it. -/
def Atomic (op : Op σ α) (x : Exploration) : Prop :=
  ∀ s e, (op.run x s).1 = .error e → (op.run x s).2.1 = x

/-- An operation that only reads leaves the exploration in any case. -/
theorem Reads.atomic {op : Op σ α} (h : op.Reads) (x : Exploration) : op.Atomic x :=
  fun s _ _ => h x s

/-- An operation that never fails has nothing to leave. -/
theorem atomic_set (y x : Exploration) : (set y : Op σ PUnit).Atomic x := fun _ _ h => by cases h

/-- An operation that never fails has nothing to leave. -/
theorem atomic_update (f : Exploration → Exploration) (x : Exploration) :
    (update f : Op σ Unit).Atomic x := fun _ _ h => by cases h

/-- After parts that only read, the last part decides. It may rely on how they succeeded. -/
theorem Reads.bind_atomic {op : Op σ α} {next : α → Op σ β} (hop : op.Reads)
    (hnext : ∀ a s t, op.run x s = (.ok a, x, t) → (next a).Atomic x) : (op >>= next).Atomic x := by
  intro s e h
  have hx := hop x s
  rw [run_bind] at h ⊢
  match hrun : op.run x s with
  | (.ok a, y, t) =>
    obtain rfl : y = x := by simpa [hrun] using hx
    rw [hrun] at h
    exact hnext a s t hrun t e h
  | (.error e, y, t) => simpa [hrun] using hx

/-- Reading first hands over the exploration. -/
theorem atomic_get_bind {next : Exploration → Op σ β} (h : (next x).Atomic x) :
    (get >>= next).Atomic x := h

/-- A write that comes last cannot fail any more. -/
theorem Atomic.bind_pure {op : Op σ α} {f : α → β} (h : op.Atomic x) :
    (op >>= fun a => pure (f a)).Atomic x := by
  intro s e he
  have := h s
  rw [run_bind] at he ⊢
  match hrun : op.run x s with
  | (.ok a, y, t) => simp [hrun] at he
  | (.error e, y, t) => simpa [hrun] using this

/-! ### Operations on the store, the walk and the alternatives -/

/-- Whether two explorations differ in nothing but the store, the walk and the alternatives. -/
def SameModel (x y : Exploration) : Prop :=
  y = { x with store := y.store, walk := y.walk, alternatives := y.alternatives }

/-- An exploration differs from itself in nothing. -/
theorem SameModel.refl (x : Exploration) : SameModel x x := rfl

/-- What two steps leave is left by both together. -/
theorem SameModel.trans {z : Exploration} (hxy : SameModel x y) (hyz : SameModel y z) :
    SameModel x z := by
  unfold SameModel at hxy hyz ⊢
  rw [hyz, hxy]

/-- Whether an operation on an exploration touches the store, the walk and the alternatives only. -/
def Local (op : Op σ α) (x : Exploration) : Prop :=
  ∀ s, SameModel x (op.run x s).2.1

/-- An operation that only reads touches nothing. -/
theorem Reads.local {op : Op σ α} (h : op.Reads) (x : Exploration) : op.Local x := by
  intro s
  rw [h x s]
  exact .refl x

/-- An operation touches what its parts touch. -/
theorem Local.bind {op : Op σ α} {next : α → Op σ β} (hop : op.Local x)
    (hnext : ∀ a y, (next a).Local y) : (op >>= next).Local x := by
  intro s
  have hx := hop s
  rw [run_bind]
  match hrun : op.run x s with
  | (.ok a, y, t) =>
    rw [hrun] at hx
    exact hx.trans (hnext a y t)
  | (.error e, y, t) =>
    rw [hrun] at hx
    exact hx

/-- After parts that only read, the last part decides. -/
theorem Reads.bind_local {op : Op σ α} {next : α → Op σ β} (hop : op.Reads)
    (hnext : ∀ a, (next a).Local x) : (op >>= next).Local x := by
  intro s
  have hx := hop x s
  rw [run_bind]
  match hrun : op.run x s with
  | (.ok a, y, t) =>
    obtain rfl : y = x := by simpa [hrun] using hx
    exact hnext a t
  | (.error e, y, t) =>
    obtain rfl : y = x := by simpa [hrun] using hx
    exact .refl y

/-- Reading first hands over the exploration. -/
theorem local_get_bind {next : Exploration → Op σ β} (h : (next x).Local x) :
    (get >>= next).Local x := h

/-- Where everything else stays, restoring leaves the exploration as it was on a failure. -/
theorem Local.restoring_atomic {op : Op σ α} (h : op.Local x) : op.restoring.Atomic x := by
  intro s e he
  have hx := h s
  rw [run_restoring] at he ⊢
  match hrun : op.run x s with
  | (.ok a, y, t) => simp [hrun] at he
  | (.error e, y, t) =>
    have hy : SameModel x y := by simpa [hrun] using hx
    change { y with store := x.store, walk := x.walk, alternatives := x.alternatives } = x
    rw [hy]

/-! ### What holds where an operation succeeded -/

variable {P Q : Exploration → Prop}

/-- Whether an exploration has a property wherever an operation on another one succeeded. -/
def Ensures (op : Op σ α) (x : Exploration) (P : Exploration → Prop) : Prop :=
  ∀ s a y t, op.run x s = (.ok a, y, t) → P y

/-- An operation that only reads ensures what held before. -/
theorem Reads.ensures {op : Op σ α} (hop : op.Reads) (h : P x) : op.Ensures x P := by
  intro s a y t hrun
  rwa [hop.eq hrun]

/-- After an operation that only reads, what comes next decides. -/
theorem Reads.bind_ensures {op : Op σ α} {next : α → Op σ β} (hop : op.Reads)
    (hnext : ∀ a, (next a).Ensures x P) : (op >>= next).Ensures x P := by
  intro s b z u hrun
  obtain ⟨a, y, t, hfirst, hrest⟩ := of_bind_ok hrun
  obtain rfl := hop.eq hfirst
  exact hnext a t b z u hrest

/-- What the first part ensures is what the second part starts with. -/
theorem Ensures.bind {op : Op σ α} {next : α → Op σ β} (hop : op.Ensures x P)
    (hnext : ∀ a y, P y → (next a).Ensures y Q) : (op >>= next).Ensures x Q := by
  intro s b z u hrun
  obtain ⟨a, y, t, hfirst, hrest⟩ := of_bind_ok hrun
  exact hnext a y (hop s a y t hfirst) t b z u hrest

/-- What a part ensures still holds where its answer is passed on. -/
theorem Ensures.bind_pure {op : Op σ α} {f : α → β} (hop : op.Ensures x P) :
    (op >>= fun a => pure (f a)).Ensures x P :=
  hop.bind fun _ _ h => (reads_pure _).ensures h

/-- Reading first hands over the exploration. -/
theorem ensures_get_bind {next : Exploration → Op σ β} (h : (next x).Ensures x P) :
    (get >>= next).Ensures x P := h

/-- Failing ensures everything. -/
theorem ensures_fail (e : SessionError) : (fail e : Op σ α).Ensures x P := by
  intro s a y t hrun
  cases hrun

/-- Writing ensures what holds of what was written. -/
theorem ensures_set (h : P y) : (set y : Op σ PUnit).Ensures x P := by
  intro s a z t hrun
  rw [run_set] at hrun
  obtain ⟨-, rfl, -⟩ := by simpa only [Prod.mk.injEq] using hrun
  exact h

/-- Updating ensures what holds of what becomes of the exploration. -/
theorem ensures_update {f : Exploration → Exploration} (h : P (f x)) :
    (update f : Op σ Unit).Ensures x P := by
  intro s a z t hrun
  rw [run_update] at hrun
  obtain ⟨-, rfl, -⟩ := by simpa only [Prod.mk.injEq] using hrun
  exact h

/-- What is restored on a failure ensures the same where it succeeds. -/
theorem Ensures.restoring {op : Op σ α} (h : op.Ensures x P) : op.restoring.Ensures x P := by
  intro s a y t hrun
  rw [run_restoring] at hrun
  rcases hop : op.run x s with ⟨e | b, z, u⟩
  · simp [hop] at hrun
  · rw [hop] at hrun
    obtain ⟨-, rfl, -⟩ := by simpa only [Prod.mk.injEq] using hrun
    exact h s b z u hop

end Op

end StateExplorer
