import StateExplorer.Proofs.Model.Predicate
import StateExplorer.Proofs.Text.Infix
import StateExplorer.State.Listing

/-!
# Predicates one after another

A query lists predicates on one state, each in lines of its own. If no text between their braces
holds a brace or the keyword of a predicate, each of them is found by its name and read back as it
was written: a heading is found in no predicate of another name, not even in one whose name only
goes on where the sought one ends.
-/

namespace StateExplorer.Predicate

/-- What each predicate starts with. -/
def keyword : List Char := ['p', 'r', 'e', 'd', ' ']

/-- Whether a text can stand between the braces of a predicate: it opens or closes no block, and no
predicate begins in it. -/
structure IsInner (text : List Char) : Prop where
  not_brace : ∀ c ∈ text, c ≠ '\x7b' ∧ c ≠ '\x7d'
  not_keyword : ¬keyword <:+: text

/-- A part of a text that can stand between the braces can do so, too. -/
theorem IsInner.trim {text : List Char} (h : IsInner text) : IsInner (Text.trim text) := by
  obtain ⟨before, after, htext, -, -⟩ := Text.exists_append_trim_append text
  have hoccurs : Text.trim text <:+: text := ⟨before, after, htext⟩
  exact ⟨fun c hc => h.not_brace c (hoccurs.subset hc), fun hk => h.not_keyword (hk.trans hoccurs)⟩

/-- What a predicate on one state says of the state, after the bracket. -/
def binder (sig : String) : List Char :=
  "s: ".toList ++ sig.toList ++ [']', ' ']

/-- The predicate of a name on one state, with a text between its braces. -/
def block (name sig : String) (inner : List Char) : List Char :=
  heading name ++ '[' :: binder sig ++ '\x7b' :: (inner ++ ['\x7d'])

/-- A predicate on one state is a block in lines of its own. -/
theorem statePredicate_toList (name sig body : String) :
    (statePredicate name sig body).toList = block name sig ('\n' :: body.toList) ++ ['\n'] := by
  simp [statePredicate, block, binder, heading]

/-- Predicates, each with the end of its line. -/
def blocks (sig : String) (predicates : List (String × List Char)) : List Char :=
  predicates.flatMap fun (name, inner) => block name sig inner ++ ['\n']

variable {name other sig : String} {inner : List Char}

/-- A character of a name goes on with a name. -/
theorem isWordChar_of_isNameChar {c : Char} (h : Text.isNameChar c = true) :
    Text.isWordChar c = true := by
  have hcode := Text.toNat_of_isNameChar h
  have hranges : ∀ n < 123, 48 ≤ n ∧ n ≤ 57 ∨ 65 ≤ n ∧ n ≤ 90 ∨ 97 ≤ n ∧ n ≤ 122 →
      Text.inRanges Text.alphanumericRanges n = true := by
    decide +kernel
  by_cases hmark : c = '_'
  · simp [Text.isWordChar, hmark]
  · have hcode' : c.toNat ≠ 95 := fun heq => hmark (Char.toNat_inj.1 heq)
    have hrange := hranges c.toNat (by omega) (by omega)
    simp [Text.isWordChar, Text.isAlphanumeric, hrange]

/-- Names that are read from the same text are the same. -/
theorem eq_of_append_eq (hname : Text.isName name = true) (hother : Text.isName other = true)
    {rest tail : List Char} (hrest : isNameEnd rest = true)
    (h : name.toList ++ rest = other.toList ++ '[' :: tail) : name = other := by
  rcases List.append_eq_append_iff.1 h with ⟨more, hmore, hrest'⟩ | ⟨more, hmore, htail⟩
  · cases more with
    | nil => exact (String.toList_inj.1 (by simpa using hmore)).symm
    | cons c more =>
      have hc := Text.isNameChar_of_isName hother c (by rw [hmore]; simp)
      rw [hrest', List.cons_append, isNameEnd, isWordChar_of_isNameChar hc] at hrest
      cases hrest
  · cases more with
    | nil => exact String.toList_inj.1 (by simpa using hmore)
    | cons c more =>
      obtain ⟨rfl, -⟩ := List.cons.inj htail
      have hc := Text.isNameChar_of_isName hname '[' (by rw [hmore]; simp)
      exact absurd hc (by decide)

/-- No predicate begins within a name. -/
theorem not_keyword_infix_of_isName (h : Text.isName name = true) : ¬keyword <:+: name.toList :=
  Text.not_infix_of_not_mem (c := ' ') (by decide) fun hmem =>
    absurd (Text.isNameChar_of_isName h ' ' hmem) (by decide)

/-- No predicate begins after the first character of its heading. -/
theorem not_keyword_infix_tail_heading (h : ¬keyword <:+: name.toList) :
    ¬keyword <:+: (heading name).tail := by
  have htail : (heading name).tail = 'r' :: 'e' :: 'd' :: ' ' :: name.toList := rfl
  rwa [htail, keyword, Text.infix_cons_iff_of_ne (by decide), Text.infix_cons_iff_of_ne (by decide),
    Text.infix_cons_iff_of_ne (by decide), Text.infix_cons_iff_of_ne (by decide), ← keyword]

/-- No predicate begins after the first character of another one. -/
theorem not_keyword_infix_tail (hname : Text.isName name = true) (hsig : Text.isName sig = true)
    (hinner : ¬keyword <:+: inner) : ¬keyword <:+: (block name sig inner).tail := by
  have hbinder : ¬keyword <:+: binder sig := by
    have htext : binder sig = 's' :: ':' :: ' ' :: (sig.toList ++ ']' :: [' ']) := by simp [binder]
    rw [htext, keyword, Text.infix_cons_iff_of_ne (by decide), Text.infix_cons_iff_of_ne (by decide),
      Text.infix_cons_iff_of_ne (by decide), ← keyword, Text.infix_append_cons_iff (by decide)]
    exact not_or.2 ⟨not_keyword_infix_of_isName hsig, by decide⟩
  have htext : (block name sig inner).tail =
      (heading name).tail ++ '[' :: (binder sig ++ '\x7b' :: (inner ++ '\x7d' :: [])) := by
    simp [block, heading]
  rw [htext, Text.infix_append_cons_iff (by decide), Text.infix_append_cons_iff (by decide),
    Text.infix_append_cons_iff (by decide)]
  exact not_or.2 ⟨not_keyword_infix_tail_heading (not_keyword_infix_of_isName hname),
    not_or.2 ⟨hbinder, not_or.2 ⟨hinner, by decide⟩⟩⟩

/-- A predicate is not found in one of another name. -/
theorem find?_block_of_ne (hname : Text.isName name = true) (hother : Text.isName other = true)
    (hsig : Text.isName sig = true) (hinner : ¬keyword <:+: inner) (hne : name ≠ other) :
    find? name (block other sig inner) = none := by
  refine Option.eq_none_iff_forall_ne_some.2 fun ⟨before, found⟩ hfound => ?_
  obtain ⟨htext, rest, rfl, hend⟩ := of_splitAt?_eq_some hfound
  cases before with
  | nil =>
    have hnames : name.toList ++ rest =
        other.toList ++ '[' :: (binder sig ++ '\x7b' :: (inner ++ ['\x7d'])) := by
      simpa [block, heading] using htext.symm
    exact hne (eq_of_append_eq hname hother hend hnames)
  | cons c before =>
    refine not_keyword_infix_tail hother hsig hinner ⟨before, name.toList ++ rest, ?_⟩
    rw [htext]
    simp [keyword, heading]

/-- Where no predicate begins, none is found. -/
theorem find?_eq_none_of_not_infix {text : List Char} (h : ¬heading name <:+: text) :
    find? name text = none := by
  refine Option.eq_none_iff_forall_ne_some.2 fun ⟨before, found⟩ hfound => ?_
  obtain ⟨rfl, rest, rfl, -⟩ := of_splitAt?_eq_some hfound
  exact h ⟨before, rest, by simp⟩

/-- A predicate stands by itself, and what is between its braces is its body. -/
theorem stands_block (hname : Text.isName name = true)
    (hsig : ∀ c ∈ sig.toList, c ≠ '\x7b' ∧ c ≠ '\x7d')
    (hinner : ∀ c ∈ inner, c ≠ '\x7b' ∧ c ≠ '\x7d') :
    Stands name (block name sig inner) ∧ bodyOf (block name sig inner) = inner := by
  have hbraces : ∀ c ∈ heading name ++ '[' :: binder sig, c ≠ '\x7b' ∧ c ≠ '\x7d' := by
    intro c hc
    rcases List.mem_append.1 hc with hc | hc
    · exact not_brace_of_mem_heading hname hc
    · simp only [binder, List.mem_cons, List.mem_append] at hc
      rcases hc with rfl | (hc | hc) | rfl | rfl | hc
      · decide
      · exact Text.of_mem_of_all (by decide) hc
      · exact hsig c hc
      · decide
      · decide
      · cases hc
  exact stands_of_inner (by decide +kernel) hbraces hinner

/-- A predicate is found after predicates of other names, and read back as it was written. -/
theorem body?_blocks (hname : Text.isName name = true) (hsig : Text.isName sig = true)
    (hinner : ∀ c ∈ inner, c ≠ '\x7b' ∧ c ≠ '\x7d') {before : List (String × List Char)}
    (hbefore : ∀ p ∈ before, Text.isName p.1 = true ∧ ¬keyword <:+: p.2 ∧ p.1 ≠ name)
    (after : List (String × List Char)) (more : List Char) :
    body? name (blocks sig (before ++ (name, inner) :: after) ++ more) = .ok (some inner) := by
  induction before with
  | nil =>
    obtain ⟨hstands, hbody⟩ :=
      stands_block hname (Text.ne_and_ne_of_isName hsig (by decide) (by decide)) hinner
    have htext : blocks sig ([] ++ (name, inner) :: after) ++ more =
        block name sig inner ++ '\n' :: (blocks sig after ++ more) := by
      simp [blocks]
    rw [htext, hstands.body?_append, hbody]
  | cons first rest ih =>
    obtain ⟨hfirst, hrest⟩ := List.forall_mem_cons.1 hbefore
    have htext : blocks sig (first :: rest ++ (name, inner) :: after) ++ more =
        block first.1 sig first.2 ++
          '\n' :: (blocks sig (rest ++ (name, inner) :: after) ++ more) := by
      simp [blocks]
    rw [htext, body?_append_newline hname
      (find?_block_of_ne hname hfirst.1 hsig hfirst.2.1 hfirst.2.2.symm)]
    exact ih hrest

end StateExplorer.Predicate
