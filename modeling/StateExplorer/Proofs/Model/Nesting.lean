import StateExplorer.Proofs.Model.Predicate

/-!
# Nested blocks

A text is balanced if each brace in it that opens a block goes with one that closes it. The first
block of a text is found exactly where the text opens one before it closes any and what follows is
balanced up to a brace that closes the block.
-/

namespace StateExplorer.Predicate

variable {text start inner block after : List Char}

/-- Texts in which each block that is opened is closed, and no other. -/
inductive Balanced : List Char → Prop
  | nil : Balanced []
  | char {c : Char} {text : List Char} (hopen : c ≠ '\x7b') (hclose : c ≠ '\x7d')
      (htext : Balanced text) : Balanced (c :: text)
  | block {inner text : List Char} (hinner : Balanced inner) (htext : Balanced text) :
      Balanced ('\x7b' :: (inner ++ '\x7d' :: text))

/-- How the first block of a text stands in it: before the block no other is opened or closed, and
what is between its braces is balanced. -/
structure FirstBlock (text start inner after : List Char) : Prop where
  text_eq : text = start ++ '\x7b' :: (inner ++ '\x7d' :: after)
  not_brace : ∀ c ∈ start, c ≠ '\x7b' ∧ c ≠ '\x7d'
  balanced : Balanced inner

/-- A block is opened. -/
theorem splitBlock?_open (depth : Nat) (text : List Char) :
    splitBlock? depth ('\x7b' :: text) =
      (splitBlock? (depth + 1) text).map fun (b, a) => ('\x7b' :: b, a) := rfl

/-- A block is closed within another one. -/
theorem splitBlock?_close (depth : Nat) (text : List Char) :
    splitBlock? (depth + 2) ('\x7d' :: text) =
      (splitBlock? (depth + 1) text).map fun (b, a) => ('\x7d' :: b, a) := rfl

/-- Within a block, a balanced text leaves as many blocks open as before. -/
theorem Balanced.splitBlock?_append (h : Balanced inner) (depth : Nat) (text : List Char) :
    splitBlock? (depth + 1) (inner ++ text) =
      (splitBlock? (depth + 1) text).map fun (b, a) => (inner ++ b, a) := by
  induction h generalizing depth text with
  | nil =>
    rw [List.nil_append]
    cases splitBlock? (depth + 1) text <;> rfl
  | char hopen hclose _ ih =>
    simp only [List.cons_append, splitBlock?, if_neg hopen, if_neg hclose, ih, Option.map_map]
    rfl
  | block _ _ ihinner ihtext =>
    rw [List.cons_append, List.append_assoc, List.cons_append, splitBlock?_open, ihinner,
      splitBlock?_close, ihtext]
    simp only [Option.map_map, Function.comp_def, List.cons_append, List.append_assoc]

/-- What closes all open blocks is balanced but for the brace that closes each of them. -/
theorem exists_balanced_of_splitBlock? {depth : Nat}
    (h : splitBlock? (depth + 1) text = some (block, after)) :
    ∃ parts : List (List Char), parts.length = depth + 1 ∧ (∀ part ∈ parts, Balanced part) ∧
      block = parts.flatMap (· ++ ['\x7d']) := by
  induction text generalizing depth block with
  | nil => simp [splitBlock?] at h
  | cons c rest ih =>
    have hlater {depth : Nat} (h : ((splitBlock? (depth + 1) rest).map fun (b, a) => (c :: b, a)) =
        some (block, after)) : ∃ (first : List Char) (parts : List (List Char)),
          parts.length = depth ∧ Balanced first ∧ (∀ part ∈ parts, Balanced part) ∧
            block = c :: (first ++ '\x7d' :: parts.flatMap (· ++ ['\x7d'])) := by
      obtain ⟨⟨b, a⟩, hsplit, heq⟩ := Option.map_eq_some_iff.1 h
      obtain ⟨rfl, rfl⟩ := Prod.mk.inj heq
      obtain ⟨parts, hlength, hparts, rfl⟩ := ih hsplit
      obtain ⟨first, parts, rfl⟩ := List.exists_cons_of_length_eq_add_one hlength
      rw [List.forall_mem_cons] at hparts
      exact ⟨first, parts, Nat.succ.inj hlength, hparts.1, hparts.2, by simp⟩
    simp only [splitBlock?] at h
    split at h
    · -- The block that is opened here is closed within the first part.
      rename_i hopen
      obtain ⟨first, parts, hlength, hfirst, hparts, rfl⟩ := hlater h
      obtain ⟨next, parts, rfl⟩ := List.exists_cons_of_length_eq_add_one hlength
      rw [List.forall_mem_cons] at hparts
      refine ⟨('\x7b' :: (first ++ '\x7d' :: next)) :: parts, hlength, ?_, by simp [hopen]⟩
      exact List.forall_mem_cons.2 ⟨.block hfirst hparts.1, hparts.2⟩
    · rename_i hopen
      split at h
      · rename_i hclose
        cases depth with
        | zero =>
          obtain ⟨rfl, rfl⟩ := Prod.mk.inj (Option.some.inj h)
          exact ⟨[[]], rfl, by simp [Balanced.nil], by simp [hclose]⟩
        | succ depth =>
          obtain ⟨first, parts, hlength, hfirst, hparts, rfl⟩ := hlater h
          refine ⟨[] :: first :: parts, by simp [hlength], ?_, by simp [hclose]⟩
          exact List.forall_mem_cons.2 ⟨.nil, List.forall_mem_cons.2 ⟨hfirst, hparts⟩⟩
      · rename_i hclose
        obtain ⟨first, parts, hlength, hfirst, hparts, rfl⟩ := hlater h
        refine ⟨(c :: first) :: parts, by simp [hlength], ?_, by simp⟩
        exact List.forall_mem_cons.2 ⟨.char hopen hclose hfirst, hparts⟩

/-- A text is split where its first block ends. -/
theorem FirstBlock.split_eq (h : FirstBlock text start inner after) :
    splitBlock? 0 text = some (start ++ '\x7b' :: (inner ++ ['\x7d']), after) := by
  have hend : splitBlock? 1 ('\x7d' :: after) = some (['\x7d'], after) := rfl
  rw [h.text_eq, splitBlock?_start h.not_brace, splitBlock?_open, h.balanced.splitBlock?_append, hend]
  rfl

/-- A text is split exactly if it has a first block, and where this ends. -/
theorem splitBlock?_zero_iff :
    splitBlock? 0 text = some (block, after) ↔
      ∃ start inner, FirstBlock text start inner after ∧
        block = start ++ '\x7b' :: (inner ++ ['\x7d']) := by
  constructor
  · intro h
    obtain ⟨htext, -, -⟩ := of_splitBlock?_eq_some h
    suffices hblock : ∃ start inner, (∀ c ∈ start, c ≠ '\x7b' ∧ c ≠ '\x7d') ∧ Balanced inner ∧
        block = start ++ '\x7b' :: (inner ++ ['\x7d']) by
      obtain ⟨start, inner, hstart, hinner, hblock⟩ := hblock
      exact ⟨start, inner, ⟨by simp [htext, hblock], hstart, hinner⟩, hblock⟩
    clear htext
    induction text generalizing block with
    | nil => simp [splitBlock?] at h
    | cons c rest ih =>
      simp only [splitBlock?] at h
      split at h
      · rename_i hopen
        obtain ⟨⟨b, a⟩, hsplit, heq⟩ := Option.map_eq_some_iff.1 h
        obtain ⟨rfl, rfl⟩ := Prod.mk.inj heq
        obtain ⟨parts, hlength, hparts, rfl⟩ := exists_balanced_of_splitBlock? hsplit
        obtain ⟨inner, rfl⟩ := List.length_eq_one_iff.1 hlength
        exact ⟨[], inner, by simp, hparts inner (by simp), by simp [hopen]⟩
      · rename_i hopen
        split at h
        · cases h
        · rename_i hclose
          obtain ⟨⟨b, a⟩, hsplit, heq⟩ := Option.map_eq_some_iff.1 h
          obtain ⟨rfl, rfl⟩ := Prod.mk.inj heq
          obtain ⟨start, inner, hstart, hinner, rfl⟩ := ih hsplit
          exact ⟨c :: start, inner, List.forall_mem_cons.2 ⟨⟨hopen, hclose⟩, hstart⟩, hinner, rfl⟩
  · rintro ⟨start, inner, h, rfl⟩
    exact h.split_eq

/-- The body of a predicate is what is between the braces of its first block. -/
theorem FirstBlock.body_eq (h : FirstBlock text start inner after) (before rest : List Char) :
    (Span.mk before (start ++ '\x7b' :: (inner ++ ['\x7d'])) rest).body = inner := by
  have hdrop : (start ++ '\x7b' :: (inner ++ ['\x7d'])).dropWhile (· != '\x7b') =
      '\x7b' :: (inner ++ ['\x7d']) := by
    rw [List.dropWhile_append_of_pos fun d hd => by simpa using (h.not_brace d hd).1]
    rfl
  rw [Span.body, hdrop]
  simp

end StateExplorer.Predicate
