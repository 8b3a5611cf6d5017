/-!
# Results that may fail

A computation that consists of others succeeds exactly if each of them does. Which error it fails
with is often not what matters; what is left of a result without its error is an option.
-/

namespace StateExplorer

variable {ε α β : Type}

/-- What follows on a result succeeds exactly if both do. -/
theorem bind_eq_ok_iff {x : Except ε α} {f : α → Except ε β} {b : β} :
    (x >>= f) = .ok b ↔ ∃ a, x = .ok a ∧ f a = .ok b := by
  cases x with
  | error e => simp [bind, Except.bind]
  | ok a => simp [bind, Except.bind]

/-- What is made of a result is made of what the result was. -/
theorem map_eq_ok_iff {x : Except ε α} {f : α → β} {b : β} :
    x.map f = .ok b ↔ ∃ a, x = .ok a ∧ f a = b := by
  cases x <;> simp [Except.map]

/-- A fold that may fail succeeds exactly if its first step and the rest do. -/
theorem foldlM_cons_eq_ok_iff {f : β → α → Except ε β} {a : α} {rest : List α} {b b' : β} :
    (a :: rest).foldlM f b = .ok b' ↔ ∃ c, f b a = .ok c ∧ rest.foldlM f c = .ok b' := by
  rw [List.foldlM_cons, bind_eq_ok_iff]

/-- A list is gone through exactly if its first item and the rest are. -/
theorem mapM_cons_eq_ok_iff {f : α → Except ε β} {a : α} {rest : List α} {found : List β} :
    (a :: rest).mapM f = .ok found ↔
      ∃ b, f a = .ok b ∧ ∃ more, rest.mapM f = .ok more ∧ b :: more = found := by
  simp only [List.mapM_cons, bind_eq_ok_iff, pure, Except.pure, Except.ok.injEq]

/-- A list is gone through without fail if nothing in it fails. -/
theorem exists_mapM_eq_ok {f : α → Except ε β} {items : List α}
    (h : ∀ a ∈ items, ∃ b, f a = .ok b) : ∃ found, items.mapM f = .ok found := by
  induction items with
  | nil => exact ⟨[], rfl⟩
  | cons a rest ih =>
    obtain ⟨⟨b, hb⟩, hrest⟩ := List.forall_mem_cons.1 h
    obtain ⟨found, hfound⟩ := ih hrest
    exact ⟨b :: found, mapM_cons_eq_ok_iff.2 ⟨b, hb, found, hfound, rfl⟩⟩

/-- Where it is known what each item gives, so it is for the list. -/
theorem mapM_eq_ok_map {f : α → Except ε β} {g : α → β} {items : List α}
    (h : ∀ a ∈ items, f a = .ok (g a)) : items.mapM f = .ok (items.map g) := by
  induction items with
  | nil => rfl
  | cons a rest ih =>
    obtain ⟨ha, hrest⟩ := List.forall_mem_cons.1 h
    exact mapM_cons_eq_ok_iff.2 ⟨g a, ha, rest.map g, ih hrest, rfl⟩

/-! ### Results without their errors -/

/-- What follows from a result does not depend on its error. -/
theorem toOption_bind (x : Except ε α) (f : α → Except ε β) :
    (x >>= f).toOption = x.toOption.bind fun a => (f a).toOption := by
  cases x <;> rfl

/-- Results one after another do not depend on their errors. -/
theorem toOption_mapM (f : α → Except ε β) (items : List α) :
    (items.mapM f).toOption = items.mapM fun item => (f item).toOption := by
  induction items with
  | nil => rfl
  | cons item rest ih =>
    rw [List.mapM_cons, List.mapM_cons, toOption_bind, Option.bind_eq_bind]
    congr 1
    funext first
    rw [toOption_bind, ih]
    rfl

/-- A result is what is left without its error. -/
theorem toOption_eq_some_iff {x : Except ε α} {a : α} : x.toOption = some a ↔ x = .ok a := by
  cases x <;> simp [Except.toOption]

end StateExplorer
