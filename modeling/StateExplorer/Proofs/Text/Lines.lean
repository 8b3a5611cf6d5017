import StateExplorer.Text.Blank
import StateExplorer.Text.Search

/-!
# Lines and ends of texts

What stands before a line feed and what stands after it have their lines apart. A start without a
line break belongs to the first line, and blanks that are trimmed from the end of a text are
trimmed from the end of its last part. Nothing is trimmed from a text with no blank at either end.
-/

namespace StateExplorer.Text

/-- A character that breaks no line belongs to the first line. -/
theorem lines_cons {c : Char} {rest : List Char} (hfeed : c ≠ '\n')
    (hreturn : c = '\r' → rest.head? ≠ some '\n') :
    lines (c :: rest) =
      match lines rest with
      | [] => [[c]]
      | line :: more => (c :: line) :: more := by
  refine lines.eq_4 c rest hfeed ?_
  rintro after hc rfl
  exact hreturn hc rfl

/-- A text that is not empty has a line. -/
theorem lines_ne_nil {text : List Char} (h : text ≠ []) : lines text ≠ [] := by
  fun_cases lines text <;> simp_all

/-- Two texts with a line feed between them have the lines of the first, and then those of the
second. -/
theorem lines_append (a b : List Char) :
    lines (a ++ '\n' :: b) = lines (a ++ ['\n']) ++ lines b := by
  -- A character that breaks no line is put in front of the first line on both sides.
  have hstep (c : Char) (rest : List Char) (hfeed : c ≠ '\n')
      (hreturn : ∀ after, c = '\r' → rest = '\n' :: after → False)
      (ih : lines (rest ++ '\n' :: b) = lines (rest ++ ['\n']) ++ lines b) :
      lines (c :: (rest ++ '\n' :: b)) = lines (c :: (rest ++ ['\n'])) ++ lines b := by
    by_cases hlast : c = '\r' ∧ rest = []
    · obtain ⟨rfl, rfl⟩ := hlast
      rfl
    · have hhead (more : List Char) (hc : c = '\r') : (rest ++ '\n' :: more).head? ≠ some '\n' := by
        match rest with
        | [] => exact absurd ⟨hc, rfl⟩ hlast
        | d :: rest =>
          intro hd
          obtain rfl : d = '\n' := by simpa using hd
          exact hreturn rest hc rfl
      obtain ⟨line, more, hlines⟩ := List.exists_cons_of_ne_nil
        (lines_ne_nil (by simp : rest ++ ['\n'] ≠ []))
      rw [lines_cons hfeed (hhead b), lines_cons hfeed (hhead []), ih, hlines]
      rfl
  fun_induction lines a with
  | case1 => rfl
  | case2 rest ih => simp only [List.cons_append, lines, ih]
  | case3 rest ih => simp only [List.cons_append, lines, ih]
  | case4 c rest hfeed hreturn hnil ih => exact hstep c rest hfeed hreturn ih
  | case5 c rest hfeed hreturn line more hlines ih => exact hstep c rest hfeed hreturn ih

/-- A start without a line break belongs to the first line. -/
theorem lines_start_append {start text line : List Char} {more : List (List Char)}
    (hstart : ∀ c ∈ start, c ≠ '\n' ∧ c ≠ '\r') (h : lines text = line :: more) :
    lines (start ++ text) = (start ++ line) :: more := by
  induction start with
  | nil => exact h
  | cons c start ih =>
    obtain ⟨hfeed, hreturn⟩ := hstart c List.mem_cons_self
    rw [List.cons_append, lines_cons hfeed fun hc => absurd hc hreturn,
      ih fun d hd => hstart d (List.mem_cons_of_mem _ hd)]
    rfl

/-! ### Trimming -/

/-- A text without blanks at its end, as one without blanks at the start from behind. -/
theorem trimEnd_append (a b : List Char) :
    trimEnd (a ++ b) = if trimEnd b = [] then trimEnd a else a ++ trimEnd b := by
  unfold trimEnd
  rw [List.reverse_append, List.dropWhile_append]
  by_cases h : (b.reverse.dropWhile isBlank) = []
  · simp [h]
  · simp [h]

/-- A text that ends in no blank has none to trim from its end. -/
theorem trimEnd_of_getLast {text : List Char} {c : Char} (h : text.getLast? = some c)
    (hc : isBlank c = false) : trimEnd text = text := by
  obtain ⟨before, rfl⟩ := List.getLast?_eq_some_iff.1 h
  simp [trimEnd, hc]

/-- What is trimmed from the end of a text is blank. -/
theorem exists_trimEnd_append (text : List Char) :
    ∃ blanks, trimEnd text ++ blanks = text ∧ ∀ c ∈ blanks, isBlank c = true := by
  refine ⟨(text.reverse.takeWhile isBlank).reverse, ?_, fun c hc => ?_⟩
  · rw [trimEnd, ← List.reverse_append, List.takeWhile_append_dropWhile, List.reverse_reverse]
  · exact List.all_eq_true.1 List.all_takeWhile c (List.mem_reverse.1 hc)

/-- What is trimmed from a text is blank. -/
theorem exists_append_trim_append (text : List Char) :
    ∃ before after, before ++ trim text ++ after = text ∧ (∀ c ∈ before, isBlank c = true) ∧
      ∀ c ∈ after, isBlank c = true := by
  obtain ⟨after, hafter, hblank⟩ := exists_trimEnd_append (trimStart text)
  refine ⟨text.takeWhile isBlank, after, ?_, fun c hc => ?_, hblank⟩
  · rw [trim, List.append_assoc, hafter, trimStart, List.takeWhile_append_dropWhile]
  · exact List.all_eq_true.1 List.all_takeWhile c hc

/-- Nothing is dropped from the start of a text that does not start with a blank. -/
theorem dropWhile_isBlank_eq_self_iff {text : List Char} :
    text.dropWhile isBlank = text ↔ ∀ c ∈ text.head?, isBlank c = false := by
  cases text with
  | nil => simp
  | cons c rest =>
    cases hc : isBlank c with
    | false => simp [hc]
    | true =>
      have hshort := (List.dropWhile_sublist (l := rest) isBlank).length_le
      refine ⟨fun h => ?_, fun h => absurd (h c rfl) (by simp [hc])⟩
      rw [List.dropWhile_cons_of_pos hc] at h
      rw [h, List.length_cons] at hshort
      omega

/-- A trimmed text is a part of it. -/
theorem trim_sublist (text : List Char) : (trim text).Sublist text := by
  obtain ⟨before, after, htext, -⟩ := exists_append_trim_append text
  have hpart : trim text <:+: text := ⟨before, after, htext⟩
  exact hpart.sublist

/-- There is nothing to trim exactly from a text with no blank at its start and none at its end. -/
theorem trim_eq_self_iff {text : List Char} :
    trim text = text ↔
      (∀ c ∈ text.head?, isBlank c = false) ∧ ∀ c ∈ text.getLast?, isBlank c = false := by
  have hend {t : List Char} : trimEnd t = t ↔ ∀ c ∈ t.getLast?, isBlank c = false := by
    rw [trimEnd, ← List.head?_reverse, ← dropWhile_isBlank_eq_self_iff, List.reverse_eq_iff]
  rw [← hend, ← dropWhile_isBlank_eq_self_iff, ← trimStart]
  constructor
  · intro h
    -- Neither of the two steps can take anything away.
    obtain ⟨blanks, hblanks, -⟩ := exists_trimEnd_append (trimStart text)
    have hstart : trimStart text = text := by
      refine (List.dropWhile_sublist isBlank).eq_of_length_le ?_
      have hlength := congrArg List.length hblanks
      rw [List.length_append, ← trim, h] at hlength
      change text.length ≤ (trimStart text).length
      omega
    rw [trim, hstart] at h
    exact ⟨hstart, h⟩
  · rintro ⟨hstart, hlast⟩
    rw [trim, hstart, hlast]

/-- The first word of a text is what stands before the next blank. -/
theorem firstWord?_append {word : List Char} (h : ∀ c ∈ word, isBlank c = false)
    (hne : word ≠ []) {tail : List Char} (htail : tail = [] ∨ ∃ more, tail = ' ' :: more) :
    firstWord? (' ' :: (word ++ tail)) = some word := by
  obtain ⟨c, rest, rfl⟩ := List.exists_cons_of_ne_nil hne
  have hstart : trimStart (' ' :: (c :: rest ++ tail)) = c :: rest ++ tail := by
    simp [trimStart, show isBlank ' ' = true from rfl, h c List.mem_cons_self]
  have hword : (c :: rest ++ tail).takeWhile (!isBlank ·) = c :: rest := by
    rw [List.takeWhile_append_of_pos fun d hd => by simp [h d hd]]
    rcases htail with rfl | ⟨more, rfl⟩
    · simp
    · simp [show isBlank ' ' = true from rfl]
  rw [firstWord?, hstart, hword]

end StateExplorer.Text
