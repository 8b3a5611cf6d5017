import Mathlib.Order.Bounds.Basic
import StateExplorer.Proofs.Model.Blocks
import StateExplorer.Proofs.Model.Nesting
import StateExplorer.Proofs.Results
import StateExplorer.Proofs.Text.Utf8

/-!
# Where predicates stand

What the search for a predicate finds is a heading of its name, and the block after it is cut at the
brace that closes it, wherever there is one. A heading whose name goes on is passed over as a whole,
so one that begins within it is missed. This can only happen to a name that ends as the keyword
begins, with `p`, `pr` or `pre`: `pred step` is not found in `pred stepred step`. Every other name is
found in every text at the first of its headings.
-/

namespace StateExplorer.Predicate

open Text (byteLength)

variable {name : String} {text before after found : List Char}

/-! ### Headings that are passed over -/

/-- What is to be passed over comes before what is found. -/
theorem splitAt?_skip (heading start text : List Char) :
    splitAt? heading start.length (start ++ text) =
      (splitAt? heading 0 text).map fun (b, a) => (start ++ b, a) := by
  induction start with
  | nil =>
    rw [List.length_nil, List.nil_append]
    cases splitAt? heading 0 text <;> rfl
  | cons c start ih =>
    simp only [List.length_cons, List.cons_append, splitAt?, ih, Option.map_map]
    rfl

/-- A heading that goes on is passed over as a whole. -/
theorem splitAt?_goesOn {heading more : List Char} (hheading : heading ≠ [])
    (hmore : isNameEnd more = false) :
    splitAt? heading 0 (heading ++ more) =
      (splitAt? heading 0 more).map fun (b, a) => (heading ++ b, a) := by
  have hdrop : Text.dropStart? heading (heading ++ more) = some more :=
    Text.dropStart?_eq_some_iff.2 rfl
  obtain ⟨c, rest, hrest⟩ := List.exists_cons_of_ne_nil hheading
  have hlength : heading.length - 1 = rest.length := by rw [hrest]; rfl
  have hsplit : heading ++ more = c :: (rest ++ more) := by rw [hrest]; rfl
  rw [hsplit] at hdrop ⊢
  simp only [splitAt?, hdrop, hmore, Bool.false_eq_true, if_false, hlength, splitAt?_skip,
    Option.map_map]
  rw [hrest]
  rfl

/-- A heading that the search comes past, since it finds nothing or only what comes later, begins
in what was passed over or within a heading that goes on. -/
theorem of_splitAt?_past {heading : List Char} (hheading : heading ≠ []) {skip : Nat}
    (htext : text = before ++ (heading ++ after)) (hafter : isNameEnd after = true)
    (hpast : ∀ b found, splitAt? heading skip text = some (b, found) → before.length < b.length) :
    before.length < skip ∨ ∃ start part more, before = start ++ part ∧ part ≠ [] ∧
      text = start ++ (heading ++ more) ∧ isNameEnd more = false ∧ part.length < heading.length := by
  induction text generalizing skip before with
  | nil => simp [hheading] at htext
  | cons c rest ih =>
    have hlater {next : Nat} (hsplit : splitAt? heading skip (c :: rest) =
        (splitAt? heading next rest).map fun (b, a) => (c :: b, a)) (hbefore : before ≠ []) :
        before.length ≤ next ∨ ∃ start part more, before = start ++ part ∧ part ≠ [] ∧
          c :: rest = start ++ (heading ++ more) ∧ isNameEnd more = false ∧
            part.length < heading.length := by
      obtain ⟨d, before, rfl⟩ := List.exists_cons_of_ne_nil hbefore
      obtain ⟨rfl, hrest⟩ := List.cons.inj htext
      have hpast' : ∀ b found, splitAt? heading next rest = some (b, found) →
          before.length < b.length := by
        intro b found hb
        rw [hb] at hsplit
        exact Nat.lt_of_succ_lt_succ (hpast _ _ hsplit)
      rcases ih hrest hpast' with hskip | ⟨start, part, more, rfl, hpart, hmore, hgoes, hlength⟩
      · exact .inl hskip
      · exact .inr ⟨c :: start, part, more, rfl, hpart, by rw [hmore]; rfl, hgoes, hlength⟩
    cases skip with
    | succ skip =>
      rcases eq_or_ne before [] with rfl | hbefore
      · exact .inl (Nat.succ_pos skip)
      · exact (hlater rfl hbefore).imp Nat.lt_succ_of_le id
    | zero =>
      right
      cases hdrop : Text.dropStart? heading (c :: rest) with
      | some more =>
        have hhere := Text.dropStart?_eq_some_iff.1 hdrop
        cases hname : isNameEnd more with
        | true =>
          have hfound : splitAt? heading 0 (c :: rest) = some ([], c :: rest) := by
            simp only [splitAt?, hdrop, hname, if_true]
          exact absurd (hpast _ _ hfound) (Nat.not_lt_zero _)
        | false =>
          have hbefore : before ≠ [] := by
            rintro rfl
            rw [List.nil_append, hhere, List.append_cancel_left_eq] at htext
            rw [htext, hafter] at hname
            cases hname
          have hsplit : splitAt? heading 0 (c :: rest) =
              (splitAt? heading (heading.length - 1) rest).map fun (b, a) => (c :: b, a) := by
            simp only [splitAt?, hdrop, hname, Bool.false_eq_true, if_false]
          rcases hlater hsplit hbefore with hwithin | hearlier
          · have hpos := List.length_pos_iff.2 hheading
            exact ⟨[], before, more, rfl, hbefore, hhere, hname, by omega⟩
          · exact hearlier
      | none =>
        have hbefore : before ≠ [] := by
          rintro rfl
          exact Text.dropStart?_eq_none_iff.1 hdrop ⟨after, htext.symm⟩
        have hsplit : splitAt? heading 0 (c :: rest) =
            (splitAt? heading 0 rest).map fun (b, a) => (c :: b, a) := by
          simp only [splitAt?, hdrop]
        rcases hlater hsplit hbefore with hnone | hearlier
        · exact absurd (List.length_eq_zero_iff.1 (Nat.le_zero.1 hnone)) hbefore
        · exact hearlier

/-! ### Headings within headings -/

/-- The endings that a name can have in common with the beginning of a heading that goes on. -/
def overlaps : List (List Char) := [['p'], ['p', 'r'], ['p', 'r', 'e']]

/-- Whether a name ends as the keyword begins. -/
def EndsAsKeyword (name : String) : Prop :=
  ∃ part ∈ overlaps, part <:+ name.toList

instance (name : String) : Decidable (EndsAsKeyword name) :=
  inferInstanceAs (Decidable (∃ part ∈ overlaps, part <:+ name.toList))

/-- A text that goes on with a letter is no end of a name, whatever follows. -/
theorem isNameEnd_append_of_ne_nil {first : List Char} (h : first ≠ []) (rest : List Char) :
    isNameEnd (first ++ rest) = isNameEnd first := by
  cases first with
  | nil => exact absurd rfl h
  | cons c first => rfl

/-- Where a heading ends with the beginning of another one and a letter follows, its name does. -/
theorem endsAsKeyword_of_overlap (hname : ∀ c ∈ name.toList, Text.isWordChar c = true)
    {start part more : List Char} (hstart : start ≠ []) (hpart : part ≠ [])
    (hend : start ++ part = heading name) (hbegin : part ++ more = heading name) (hmore : isNameEnd more = false) :
    EndsAsKeyword name := by
  have hkeyword : ¬keyword <:+: part := by
    obtain ⟨c, start, rfl⟩ := List.exists_cons_of_ne_nil hstart
    have htail : (heading name).tail = start ++ part := by rw [← hend]; rfl
    have hblank : ' ' ∉ name.toList := fun hmem => absurd (hname ' ' hmem) (by decide +kernel)
    have hname : ¬keyword <:+: name.toList := Text.not_infix_of_not_mem (by decide) hblank
    intro hwithin
    exact not_keyword_infix_tail_heading hname
      (htail ▸ hwithin.trans (List.suffix_append start part).isInfix)
  have hmem : part ∈ overlaps := by
    rcases List.append_eq_append_iff.1 (hbegin : part ++ more = keyword ++ name.toList) with
      ⟨left, hleft, rfl⟩ | ⟨left, rfl, -⟩
    · have hinits : part ∈ keyword.inits := (List.mem_inits part keyword).2 ⟨left, hleft.symm⟩
      simp only [keyword, List.inits, List.map_cons, List.map_nil, List.mem_cons, List.not_mem_nil,
        or_false] at hinits
      rcases hinits with rfl | rfl | rfl | rfl | rfl | rfl
      · exact absurd rfl hpart
      · decide
      · decide
      · decide
      · -- The whole keyword is followed by a blank, where a name would end.
        obtain rfl : [' '] = left := by simpa [keyword] using hleft
        have hword : Text.isWordChar ' ' = false := Text.isWordChar_of_isBlank (by decide)
        exact absurd hmore (by simp [isNameEnd, hword])
      · exact absurd List.infix_rfl hkeyword
    · exact absurd (List.prefix_append keyword left).isInfix hkeyword
  have hblank : ' ' ∉ part := by
    have hall : ∀ part ∈ overlaps, ' ' ∉ part := by decide
    exact hall part hmem
  refine ⟨part, hmem, ?_⟩
  have hsplit : start ++ part = ['p', 'r', 'e', 'd'] ++ (' ' :: name.toList) := hend
  rcases List.append_eq_append_iff.1 hsplit with ⟨left, -, rfl⟩ | ⟨left, -, hleft⟩
  · simp at hblank
  · cases left with
    | nil =>
      rw [List.nil_append] at hleft
      exact absurd (hleft ▸ List.mem_cons_self) hblank
    | cons d left => exact ⟨left, (List.cons.inj hleft).2.symm⟩

/-- A heading is not empty. -/
theorem heading_ne_nil (name : String) : heading name ≠ [] := List.cons_ne_nil _ _

/-! ### Offsets -/

/-- Whether the keyword and a name stand at an offset of a text, and the name ends there or goes
on. -/
def HeadingAt (name : String) (ends : Bool) (text : List Char) (offset : Nat) : Prop :=
  ∃ before after, text = before ++ (heading name ++ after) ∧ isNameEnd after = ends ∧
    byteLength before = offset

/-- The offset at which a predicate is found. -/
def offset? (name : String) (text : List Char) : Option Nat :=
  (find? name text).map fun (before, _) => byteLength before

/-- A heading that is found at no offset before its own begins within one that goes on. -/
theorem HeadingAt.found_or_within {offset : Nat} (h : HeadingAt name true text offset) :
    (∃ first ≤ offset, offset? name text = some first) ∨
      ∃ start, HeadingAt name false text start ∧ start < offset ∧
        offset < start + byteLength (heading name) := by
  obtain ⟨before, after, htext, hafter, rfl⟩ := h
  by_cases hpast : ∀ b found, find? name text = some (b, found) → before.length < b.length
  · right
    rcases of_splitAt?_past (heading_ne_nil name) htext hafter hpast with
      hnone | ⟨start, part, more, rfl, hpart, hmore, hgoes, hlength⟩
    · exact absurd hnone (Nat.not_lt_zero _)
    · refine ⟨byteLength start, ⟨start, more, hmore, hgoes, rfl⟩, ?_, ?_⟩
      · have hpos := Text.byteLength_pos hpart
        rw [Text.byteLength_append]
        omega
      · -- What is between the two headings is less than the first of them.
        rw [htext, List.append_assoc, List.append_cancel_left_eq] at hmore
        obtain ⟨rest, hrest⟩ : part <+: heading name := List.prefix_of_prefix_length_le
          (List.prefix_append part _) ⟨more, hmore.symm⟩ (Nat.le_of_lt hlength)
        have hne : rest ≠ [] := by
          rintro rfl
          rw [← hrest, List.append_nil] at hlength
          exact Nat.lt_irrefl _ hlength
        have hpos := Text.byteLength_pos hne
        rw [← hrest, Text.byteLength_append, Text.byteLength_append]
        omega
  · left
    simp only [not_forall, Nat.not_lt] at hpast
    obtain ⟨b, found, hfound, hle⟩ := hpast
    obtain ⟨hsplit, -⟩ := of_splitAt?_eq_some hfound
    obtain ⟨rest, rfl⟩ : b <+: before := List.prefix_of_prefix_length_le
      ⟨found, hsplit.symm⟩ ⟨_, htext.symm⟩ hle
    exact ⟨byteLength b, by rw [Text.byteLength_append]; omega, by rw [offset?, hfound]; rfl⟩

/-- What is found is a heading. -/
theorem headingAt_of_offset?_eq_some {offset : Nat} (h : offset? name text = some offset) :
    HeadingAt name true text offset := by
  obtain ⟨⟨before, found⟩, hfound, rfl⟩ := Option.map_eq_some_iff.1 h
  obtain ⟨htext, after, rfl, hafter⟩ := of_splitAt?_eq_some hfound
  exact ⟨before, after, htext, hafter, rfl⟩

/-- A heading begins and ends between two characters. -/
theorem HeadingAt.isValid {text : String} {ends : Bool} {offset : Nat}
    (h : HeadingAt name ends text.toList offset) :
    (⟨offset⟩ : String.Pos.Raw).IsValid text ∧
      (⟨offset + byteLength (heading name)⟩ : String.Pos.Raw).IsValid text := by
  obtain ⟨before, after, htext, -, rfl⟩ := h
  refine ⟨Text.isValid_byteLength htext, ?_⟩
  rw [← Text.byteLength_append]
  exact Text.isValid_byteLength (by rw [htext, List.append_assoc])

/-- Whether a predicate is found in a text where its first heading is, or not at all if there is
none. -/
structure FindsFirst (name : String) (text : List Char) : Prop where
  some_iff : ∀ offset, offset? name text = some offset ↔
    IsLeast {start | HeadingAt name true text start} offset
  none_iff : offset? name text = none ↔ ∀ offset, ¬HeadingAt name true text offset

/-- The first heading is found where none begins within one that goes on. -/
theorem findsFirst_of_not_within
    (h : ∀ offset, HeadingAt name true text offset → ∀ start, HeadingAt name false text start →
      start < offset → offset < start + byteLength (heading name) → False) :
    FindsFirst name text := by
  have hfound {offset : Nat} (hoffset : HeadingAt name true text offset) :
      ∃ first ≤ offset, offset? name text = some first := by
    rcases hoffset.found_or_within with hfound | ⟨start, hstart, hbefore, hwithin⟩
    · exact hfound
    · exact (h offset hoffset start hstart hbefore hwithin).elim
  have hleast {offset : Nat} (hoffset : offset? name text = some offset) :
      IsLeast {start | HeadingAt name true text start} offset := by
    refine ⟨headingAt_of_offset?_eq_some hoffset, fun start hstart => ?_⟩
    obtain ⟨first, hle, hfirst⟩ := hfound hstart
    obtain rfl := Option.some.inj (hoffset.symm.trans hfirst)
    exact hle
  constructor
  · refine fun offset => ⟨hleast, fun hoffset => ?_⟩
    obtain ⟨first, -, hfirst⟩ := hfound hoffset.1
    rw [hfirst, (hleast hfirst).unique hoffset]
  · rw [Option.eq_none_iff_forall_ne_some]
    constructor
    · intro hnone offset hoffset
      obtain ⟨first, -, hfirst⟩ := hfound hoffset
      exact hnone first hfirst
    · exact fun hnone offset hoffset => hnone offset (headingAt_of_offset?_eq_some hoffset)

/-- A name that does not end as the keyword begins has no heading within one that goes on. -/
theorem findsFirst_of_not_endsAsKeyword (hname : ∀ c ∈ name.toList, Text.isWordChar c = true)
    (h : ¬EndsAsKeyword name) (text : List Char) : FindsFirst name text := by
  refine findsFirst_of_not_within ?_
  rintro _ ⟨before, after, htext, hafter, rfl⟩ _ ⟨start, more, hmore, hgoes, rfl⟩ hlt hwithin
  obtain ⟨part, hpart, rfl, hrest⟩ :=
    Text.exists_append_of_byteLength_lt (hmore.symm.trans htext) hlt
  rw [Text.byteLength_append, Nat.add_lt_add_iff_left] at hwithin
  obtain ⟨border, hborder, hend, hbegin⟩ :=
    Text.exists_append_of_byteLength_lt hrest.symm hwithin
  -- The second heading goes beyond the first one by as much as it begins after it.
  have hlonger : byteLength border < byteLength (heading name) := by
    have hpos := Text.byteLength_pos hpart
    rw [hend, Text.byteLength_append]
    omega
  obtain ⟨tail, htail, hheading, rfl⟩ :=
    Text.exists_append_of_byteLength_lt hbegin.symm hlonger
  rw [isNameEnd_append_of_ne_nil htail] at hgoes
  exact h (endsAsKeyword_of_overlap hname hpart hborder hend.symm hheading.symm hgoes)

/-- A name that ends as the keyword begins is not found in its heading, if that goes on until it is
a heading once more. -/
theorem exists_not_findsFirst (h : EndsAsKeyword name) : ∃ text, ¬FindsFirst name text := by
  obtain ⟨part, hmem, stem, hstem⟩ := h
  obtain ⟨more, hmore, hgoes, hpart⟩ : ∃ more, heading name = part ++ more ∧
      isNameEnd more = false ∧ part ≠ [] := by
    have hword {c : Char} (hc : Text.isNameChar c = true) (rest : List Char) :
        isNameEnd (c :: rest) = false := by
      simp [isNameEnd, isWordChar_of_isNameChar hc]
    simp only [overlaps, List.mem_cons, List.not_mem_nil, or_false] at hmem
    rcases hmem with rfl | rfl | rfl
    · exact ⟨_, rfl, hword (by decide) _, List.cons_ne_nil _ _⟩
    · exact ⟨_, rfl, hword (by decide) _, List.cons_ne_nil _ _⟩
    · exact ⟨_, rfl, hword (by decide) _, List.cons_ne_nil _ _⟩
  refine ⟨heading name ++ more, fun hfirst => ?_⟩
  have hshort : splitAt? (heading name) 0 more = none := by
    rw [Option.eq_none_iff_forall_ne_some]
    rintro ⟨before, found⟩ hfound
    obtain ⟨hbefore, rest, rfl, -⟩ := of_splitAt?_eq_some hfound
    have hlength := congrArg List.length hmore
    have hpos := List.length_pos_iff.2 hpart
    rw [hbefore] at hlength
    simp only [List.length_append] at hlength
    omega
  have hnone : offset? name (heading name ++ more) = none := by
    rw [offset?, find?, splitAt?_goesOn (heading_ne_nil name) hgoes, hshort]
    rfl
  refine hfirst.none_iff.1 hnone (byteLength (keyword ++ stem)) ⟨keyword ++ stem, [], ?_, rfl, rfl⟩
  have hend : heading name = keyword ++ stem ++ part := by
    rw [List.append_assoc, hstem]
    rfl
  rw [List.append_nil, hmore, ← List.append_assoc, ← hend, hmore]

/-- The first heading of a name is found in every text exactly if the name does not end as the
keyword begins. -/
theorem forall_findsFirst_iff (hname : ∀ c ∈ name.toList, Text.isWordChar c = true) :
    (∀ text, FindsFirst name text) ↔ ¬EndsAsKeyword name := by
  refine ⟨fun hall h => ?_, findsFirst_of_not_endsAsKeyword hname⟩
  obtain ⟨text, htext⟩ := exists_not_findsFirst h
  exact htext (hall text)

/-! ### Spans and bodies -/

/-- Where a predicate is found, it is cut out exactly if a first block stands there, and as far as
this goes. -/
theorem span?_eq_some_iff (hfound : find? name text = some (before, found)) {span : Span} :
    span? name text = .ok (some span) ↔ ∃ start inner after, FirstBlock found start inner after ∧
      span = ⟨before, start ++ '\x7b' :: (inner ++ ['\x7d']), after⟩ := by
  simp only [span?, hfound]
  cases hsplit : splitBlock? 0 found with
  | none =>
    simp only [reduceCtorEq, false_iff, not_exists, not_and]
    intro start inner after hblock
    rw [hblock.split_eq] at hsplit
    cases hsplit
  | some split =>
    obtain ⟨block, after⟩ := split
    simp only [Except.ok.injEq, Option.some.injEq]
    constructor
    · rintro rfl
      obtain ⟨start, inner, hblock, rfl⟩ := splitBlock?_zero_iff.1 hsplit
      exact ⟨start, inner, after, hblock, rfl⟩
    · rintro ⟨start, inner, after', hblock, rfl⟩
      rw [hblock.split_eq] at hsplit
      obtain ⟨rfl, rfl⟩ := Prod.mk.inj (Option.some.inj hsplit)
      rfl

/-- Where a predicate is found, cutting it out fails exactly if no first block stands there. -/
theorem span?_eq_error_iff (hfound : find? name text = some (before, found)) :
    span? name text = .error (.unbalanced name) ↔
      ∀ start inner after, ¬FirstBlock found start inner after := by
  simp only [span?, hfound]
  cases hsplit : splitBlock? 0 found with
  | none =>
    simp only [true_iff]
    intro start inner after hblock
    rw [hblock.split_eq] at hsplit
    cases hsplit
  | some split =>
    obtain ⟨start, inner, hblock, -⟩ := splitBlock?_zero_iff.1 hsplit
    simp only [reduceCtorEq, false_iff, not_forall, not_not]
    exact ⟨start, inner, split.2, hblock⟩

/-- Where a predicate is found, its body is what stands between the braces of the first block. -/
theorem body?_eq_some_iff (hfound : find? name text = some (before, found)) {inner : List Char} :
    body? name text = .ok (some inner) ↔ ∃ start after, FirstBlock found start inner after := by
  rw [body?, map_eq_ok_iff]
  constructor
  · rintro ⟨span, hspan, hbody⟩
    obtain ⟨span, rfl, rfl⟩ := Option.map_eq_some_iff.1 hbody
    obtain ⟨start, inner, after, hblock, rfl⟩ := (span?_eq_some_iff hfound).1 hspan
    rw [hblock.body_eq]
    exact ⟨start, after, hblock⟩
  · rintro ⟨start, after, hblock⟩
    refine ⟨_, (span?_eq_some_iff hfound).2 ⟨start, inner, after, hblock, rfl⟩, ?_⟩
    rw [Option.map_some, hblock.body_eq]

/-- The offsets at which a text is cut around a predicate: where it starts, on both sides of the
brace that opens its block, and on both sides of the brace that closes it. -/
def cuts (before start inner : List Char) : List Nat :=
  [before, before ++ start, before ++ start ++ ['\x7b'], before ++ start ++ '\x7b' :: inner,
    before ++ start ++ '\x7b' :: (inner ++ ['\x7d'])].map byteLength

/-- The cuts around a predicate lie between two characters. -/
theorem FirstBlock.isValid_cuts {text : String} {start inner : List Char}
    (htext : text.toList = before ++ found) (h : FirstBlock found start inner after) :
    ∀ offset ∈ cuts before start inner, (⟨offset⟩ : String.Pos.Raw).IsValid text := by
  rw [cuts, List.forall_mem_map]
  intro piece hpiece
  obtain ⟨rest, hrest⟩ : piece <+: text.toList := by
    rw [htext, h.text_eq]
    simp only [List.mem_cons, List.not_mem_nil, or_false] at hpiece
    rcases hpiece with rfl | rfl | rfl | rfl | rfl <;> simp
  exact Text.isValid_byteLength hrest.symm

/-- How the predicate of a name is located in a text. -/
structure Located (name text : String) : Prop where
  headed : ∀ offset, offset? name text.toList = some offset → HeadingAt name true text.toList offset
  found_or_within : ∀ offset, HeadingAt name true text.toList offset →
    (∃ first ≤ offset, offset? name text.toList = some first) ∨
      ∃ start, HeadingAt name false text.toList start ∧ start < offset ∧
        offset < start + byteLength (heading name)
  absent : offset? name text.toList = none →
    span? name text.toList = .ok none ∧ body? name text.toList = .ok none
  span_iff : ∀ before found, find? name text.toList = some (before, found) → ∀ span,
    span? name text.toList = .ok (some span) ↔ ∃ start inner after,
      FirstBlock found start inner after ∧
        span = ⟨before, start ++ '\x7b' :: (inner ++ ['\x7d']), after⟩
  body_iff : ∀ before found, find? name text.toList = some (before, found) → ∀ inner,
    body? name text.toList = .ok (some inner) ↔ ∃ start after, FirstBlock found start inner after
  unbalanced_iff : ∀ before found, find? name text.toList = some (before, found) →
    (span? name text.toList = .error (.unbalanced name) ↔
      ∀ start inner after, ¬FirstBlock found start inner after)
  heading_valid : ∀ ends offset, HeadingAt name ends text.toList offset →
    (⟨offset⟩ : String.Pos.Raw).IsValid text ∧
      (⟨offset + byteLength (heading name)⟩ : String.Pos.Raw).IsValid text
  cuts_valid : ∀ before found, find? name text.toList = some (before, found) →
    ∀ start inner after, FirstBlock found start inner after →
      ∀ offset ∈ cuts before start inner, (⟨offset⟩ : String.Pos.Raw).IsValid text

/-- Every predicate whose name is one word is located in every text, and that at the first of its
headings for exactly those names that do not end as the keyword begins. -/
theorem located_and_findsFirst_iff (hname : ∀ c ∈ name.toList, Text.isWordChar c = true) :
    (∀ text, Located name text) ∧ ((∀ text, FindsFirst name text) ↔ ¬EndsAsKeyword name) := by
  refine ⟨fun text => ?_, forall_findsFirst_iff hname⟩
  constructor
  · exact fun offset => headingAt_of_offset?_eq_some
  · exact fun offset hoffset => hoffset.found_or_within
  · intro hnone
    have hfind : find? name text.toList = none := Option.map_eq_none_iff.1 hnone
    simp only [body?, span?, hfind]
    exact ⟨trivial, rfl⟩
  · exact fun before found hfound span => span?_eq_some_iff hfound
  · exact fun before found hfound inner => body?_eq_some_iff hfound
  · exact fun before found hfound => span?_eq_error_iff hfound
  · exact fun ends offset hoffset => hoffset.isValid
  · intro before found hfound start inner after hblock
    exact hblock.isValid_cuts (of_splitAt?_eq_some hfound).1

/-- The predicate `init` is always found at the first of its headings. -/
theorem located_and_findsFirst_iff_init :
    (∀ c ∈ "init".toList, Text.isWordChar c = true) ∧ (∀ text, Located "init" text) ∧
      ∀ text, FindsFirst "init" text := by
  have hname : ∀ c ∈ "init".toList, Text.isWordChar c = true :=
    List.all_eq_true.1 (by decide +kernel)
  obtain ⟨hlocated, hfirst⟩ := located_and_findsFirst_iff hname
  exact ⟨hname, hlocated, hfirst.2 (by decide)⟩

/-- The predicate `step` begins within a heading that goes on, and is not found. -/
theorem not_findsFirst_step :
    Text.isName "step" = true ∧
      HeadingAt "step" true "pred stepred step \x7b x \x7d".toList 8 ∧
        offset? "step" "pred stepred step \x7b x \x7d".toList = none ∧
          ¬FindsFirst "step" "pred stepred step \x7b x \x7d".toList := by
  have hheading : HeadingAt "step" true "pred stepred step \x7b x \x7d".toList 8 :=
    ⟨"pred ste".toList, " \x7b x \x7d".toList, by decide, by decide +kernel, by decide⟩
  have hnone : offset? "step" "pred stepred step \x7b x \x7d".toList = none := by decide +kernel
  refine ⟨by decide, hheading, hnone, fun hfirst => ?_⟩
  exact hfirst.none_iff.1 hnone 8 hheading

end StateExplorer.Predicate
