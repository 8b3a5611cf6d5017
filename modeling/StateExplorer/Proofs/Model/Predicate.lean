import StateExplorer.Model.Basic
import StateExplorer.Proofs.Text.Names

/-!
# Predicates that stand alone

A text stands for a predicate if it starts with its heading and is one block. Such a text is found
in any text where no predicate of the name comes before it, whatever follows it, and the body found
is its own. The initial predicate that was cut out of a model stands for itself.
-/

namespace StateExplorer

namespace Text

/-- A start is found in the first of two texts if it ends there. -/
theorem dropStart?_append {start text rest : List Char} (h : dropStart? start text = some rest)
    (more : List Char) : dropStart? start (text ++ more) = some (rest ++ more) := by
  rw [dropStart?_eq_some_iff] at h ⊢
  rw [h, List.append_assoc]

/-- A start that is found in two texts is found in the first, if that is long enough. -/
theorem dropStart?_of_append {start text more rest : List Char}
    (h : dropStart? start (text ++ more) = some rest) (hlength : start.length ≤ text.length) :
    ∃ before, dropStart? start text = some before := by
  rw [dropStart?_eq_some_iff] at h
  obtain ⟨before, rfl⟩ : start <+: text :=
    List.prefix_of_prefix_length_le ⟨rest, h.symm⟩ (List.prefix_append text more) hlength
  exact ⟨before, dropStart?_eq_some_iff.2 rfl⟩

/-- A start without a character does not go beyond that character. -/
theorem dropStart?_of_not_mem {start text more rest : List Char} {c : Char} (hc : c ∉ start)
    (h : dropStart? start (text ++ c :: more) = some rest) :
    ∃ before, dropStart? start text = some before := by
  rw [dropStart?_eq_some_iff] at h
  refine dropStart?_of_append (dropStart?_eq_some_iff.2 h) ?_
  refine Nat.le_of_not_lt fun hlt => ?_
  have hget : (text ++ c :: more)[text.length]? = some c := by simp
  rw [h, List.getElem?_append_left (by omega)] at hget
  exact hc (List.mem_of_getElem? hget)

end Text

namespace Predicate

/-! ### Finding a heading -/

/-- What is found is a part of the text and starts with the heading, where a name ends. -/
theorem of_splitAt?_eq_some {heading text before found : List Char} {skip : Nat}
    (h : splitAt? heading skip text = some (before, found)) :
    text = before ++ found ∧ ∃ rest, found = heading ++ rest ∧ isNameEnd rest = true := by
  induction text generalizing skip before with
  | nil => simp [splitAt?] at h
  | cons c text ih =>
    have hlater {skip : Nat} (h : ((splitAt? heading skip text).map fun split =>
        (c :: split.1, split.2)) = some (before, found)) :
        c :: text = before ++ found ∧ ∃ rest, found = heading ++ rest ∧ isNameEnd rest = true := by
      obtain ⟨⟨b, a⟩, hsplit, heq⟩ := Option.map_eq_some_iff.1 h
      obtain ⟨rfl, rfl⟩ := Prod.mk.inj heq
      obtain ⟨rfl, hfound⟩ := ih hsplit
      exact ⟨rfl, hfound⟩
    simp only [splitAt?] at h
    split at h
    · exact hlater h
    · split at h
      · rename_i after hdrop
        split at h
        · rename_i hname
          obtain ⟨rfl, rfl⟩ := Prod.mk.inj (Option.some.inj h)
          exact ⟨rfl, after, Text.dropStart?_eq_some_iff.1 hdrop, hname⟩
        · exact hlater h
      · exact hlater h

/-- What is found in a text is found in a longer one, if no name goes on from one to the other. -/
theorem splitAt?_append {heading text before found : List Char} {skip : Nat}
    (h : splitAt? heading skip text = some (before, found)) {more : List Char}
    (hmore : isNameEnd more = true) :
    splitAt? heading skip (text ++ more) = some (before, found ++ more) := by
  induction text generalizing skip before with
  | nil => simp [splitAt?] at h
  | cons c rest ih =>
    have hlater {skip : Nat} (h : ((splitAt? heading skip rest).map fun split =>
        (c :: split.1, split.2)) = some (before, found)) :
        ((splitAt? heading skip (rest ++ more)).map fun split => (c :: split.1, split.2)) =
          some (before, found ++ more) := by
      obtain ⟨⟨b, a⟩, hsplit, heq⟩ := Option.map_eq_some_iff.1 h
      obtain ⟨rfl, rfl⟩ := Prod.mk.inj heq
      rw [ih hsplit]
      rfl
    cases skip with
    | succ skip => exact hlater h
    | zero =>
      cases hdrop : Text.dropStart? heading (c :: rest) with
      | some after =>
        have hdropMore := Text.dropStart?_append hdrop more
        have hend : isNameEnd (after ++ more) = isNameEnd after := by
          cases after with
          | nil => exact hmore
          | cons d after => rfl
        rw [List.cons_append] at hdropMore
        simp only [splitAt?, hdrop] at h
        simp only [List.cons_append, splitAt?, hdropMore, hend]
        split at h
        · rename_i hname
          obtain ⟨rfl, rfl⟩ := Prod.mk.inj (Option.some.inj h)
          rw [if_pos hname]
          rfl
        · rename_i hname
          rw [if_neg hname]
          exact hlater h
      | none =>
        simp only [splitAt?, hdrop] at h
        -- The heading cannot reach beyond the text, since it is found in the text later on.
        have hdropMore : Text.dropStart? heading (c :: (rest ++ more)) = none := by
          refine Option.eq_none_iff_forall_ne_some.2 fun after hafter => ?_
          obtain ⟨⟨b, a⟩, hsplit, -⟩ := Option.map_eq_some_iff.1 h
          obtain ⟨hrest, tail, hfound, -⟩ := of_splitAt?_eq_some hsplit
          have hlong : heading.length ≤ (c :: rest).length := by
            rw [hrest, hfound]
            simp only [List.length_cons, List.length_append]
            omega
          obtain ⟨r, hr⟩ := Text.dropStart?_of_append hafter hlong
          rw [hdrop] at hr
          cases hr
        simp only [List.cons_append, splitAt?, hdropMore]
        exact hlater h

/-- A heading at the start is found there, if its name ends. -/
theorem splitAt?_here {heading rest : List Char} (h : isNameEnd rest = true) (hne : rest ≠ []) :
    splitAt? heading 0 (heading ++ rest) = some ([], heading ++ rest) := by
  obtain ⟨c, text, htext⟩ := List.exists_cons_of_ne_nil
    (List.append_ne_nil_of_right_ne_nil heading hne)
  have hdrop : Text.dropStart? heading (c :: text) = some rest :=
    Text.dropStart?_eq_some_iff.2 htext.symm
  rw [htext]
  simp only [splitAt?, hdrop, if_pos h]

/-- Where nothing is found before a character that is not in the heading, the search starts anew
there. -/
theorem splitAt?_append_of_none {heading text : List Char} {skip : Nat}
    (h : splitAt? heading skip text = none) (hskip : skip ≤ text.length) {c : Char}
    (hheading : c ∉ heading) (more : List Char) :
    splitAt? heading skip (text ++ c :: more) =
      (splitAt? heading 0 (c :: more)).map fun (b, a) => (text ++ b, a) := by
  induction text generalizing skip with
  | nil =>
    obtain rfl := Nat.le_zero.1 hskip
    rw [List.nil_append]
    cases splitAt? heading 0 (c :: more) with
    | none => rfl
    | some found => rfl
  | cons d rest ih =>
    have hlater {skip : Nat} (hskip : skip ≤ rest.length)
        (h : ((splitAt? heading skip rest).map fun (b, a) => (d :: b, a)) = none) :
        ((splitAt? heading skip (rest ++ c :: more)).map fun (b, a) => (d :: b, a)) =
          (splitAt? heading 0 (c :: more)).map fun (b, a) => (d :: rest ++ b, a) := by
      rw [ih (Option.map_eq_none_iff.1 h) hskip, Option.map_map]
      rfl
    cases skip with
    | succ skip => exact hlater (by simpa using hskip) h
    | zero =>
      cases hdrop : Text.dropStart? heading (d :: rest) with
      | some after =>
        have hdropMore := Text.dropStart?_append hdrop (c :: more)
        have hsplit := Text.dropStart?_eq_some_iff.1 hdrop
        have hlength := congrArg List.length hsplit
        simp only [List.length_cons, List.length_append] at hlength
        rw [List.cons_append] at hdropMore
        simp only [splitAt?, hdrop] at h
        split at h
        · cases h
        · rename_i hname
          have hgoes : isNameEnd (after ++ c :: more) = false := by
            cases after with
            | nil => exact absurd rfl hname
            | cons e after => exact Bool.eq_false_iff.2 hname
          simp only [List.cons_append, splitAt?, hdropMore, hgoes, Bool.false_eq_true, if_false]
          exact hlater (by omega) h
      | none =>
        have hdropMore : Text.dropStart? heading (d :: (rest ++ c :: more)) = none := by
          refine Option.eq_none_iff_forall_ne_some.2 fun after hafter => ?_
          obtain ⟨r, hr⟩ := Text.dropStart?_of_not_mem hheading
            (show Text.dropStart? heading ((d :: rest) ++ c :: more) = some after from hafter)
          rw [hdrop] at hr
          cases hr
        simp only [splitAt?, hdrop] at h
        simp only [List.cons_append, splitAt?, hdropMore]
        exact hlater (Nat.zero_le _) h

/-! ### Blocks -/

/-- A block that closes in a text closes in a longer one at the same place. -/
theorem splitBlock?_append {depth : Nat} {text block after : List Char}
    (h : splitBlock? depth text = some (block, after)) (more : List Char) :
    splitBlock? depth (text ++ more) = some (block, after ++ more) := by
  induction text generalizing depth block with
  | nil => simp [splitBlock?] at h
  | cons c rest ih =>
    have hlater {depth : Nat} (h : ((splitBlock? depth rest).map fun (b, a) => (c :: b, a)) =
        some (block, after)) : ((splitBlock? depth (rest ++ more)).map fun (b, a) =>
          (c :: b, a)) = some (block, after ++ more) := by
      obtain ⟨⟨b, a⟩, hsplit, heq⟩ := Option.map_eq_some_iff.1 h
      obtain ⟨rfl, rfl⟩ := Prod.mk.inj heq
      rw [ih hsplit]
      rfl
    simp only [List.cons_append, splitBlock?] at h ⊢
    split
    · rw [if_pos ‹_›] at h
      exact hlater h
    · rw [if_neg ‹_›] at h
      split
      · rw [if_pos ‹_›] at h
        match depth with
        | 0 => cases h
        | 1 =>
          obtain ⟨rfl, rfl⟩ := Prod.mk.inj (Option.some.inj h)
          rfl
        | depth + 2 => exact hlater h
      · rw [if_neg ‹_›] at h
        exact hlater h

/-- A block is a part of the text, closes by itself, and ends in a brace. -/
theorem of_splitBlock?_eq_some {depth : Nat} {text block after : List Char}
    (h : splitBlock? depth text = some (block, after)) :
    text = block ++ after ∧ splitBlock? depth block = some (block, []) ∧
      block.getLast? = some '\x7d' := by
  induction text generalizing depth block with
  | nil => simp [splitBlock?] at h
  | cons c rest ih =>
    have hlater {depth : Nat} (h : ((splitBlock? depth rest).map fun (b, a) => (c :: b, a)) =
        some (block, after)) : ∃ b, block = c :: b ∧ rest = b ++ after ∧
          splitBlock? depth b = some (b, []) ∧ (c :: b).getLast? = some '\x7d' := by
      obtain ⟨⟨b, a⟩, hsplit, heq⟩ := Option.map_eq_some_iff.1 h
      obtain ⟨rfl, rfl⟩ := Prod.mk.inj heq
      obtain ⟨hrest, hb, hend⟩ := ih hsplit
      exact ⟨b, rfl, hrest, hb, by rw [List.getLast?_cons, hend]; rfl⟩
    simp only [splitBlock?] at h
    split at h
    · rename_i hopen
      obtain ⟨b, rfl, rfl, hb, hend⟩ := hlater h
      exact ⟨rfl, by simp only [splitBlock?, if_pos hopen, hb, Option.map_some], hend⟩
    · rename_i hopen
      split at h
      · rename_i hclose
        match depth with
        | 0 => cases h
        | 1 =>
          obtain ⟨rfl, rfl⟩ := Prod.mk.inj (Option.some.inj h)
          exact ⟨rfl, by simp only [splitBlock?, if_neg hopen, if_pos hclose], by rw [hclose]; rfl⟩
        | depth + 2 =>
          obtain ⟨b, rfl, rfl, hb, hend⟩ := hlater h
          exact ⟨rfl, by simp only [splitBlock?, if_neg hopen, if_pos hclose, hb, Option.map_some],
            hend⟩
      · rename_i hclose
        obtain ⟨b, rfl, rfl, hb, hend⟩ := hlater h
        exact ⟨rfl, by simp only [splitBlock?, if_neg hopen, if_neg hclose, hb, Option.map_some],
          hend⟩

/-- Characters that are no braces belong to the block that follows them. -/
theorem splitBlock?_start {start : List Char} (h : ∀ c ∈ start, c ≠ '\x7b' ∧ c ≠ '\x7d')
    (depth : Nat) (text : List Char) :
    splitBlock? depth (start ++ text) =
      (splitBlock? depth text).map fun (b, a) => (start ++ b, a) := by
  induction start with
  | nil =>
    rw [List.nil_append]
    cases splitBlock? depth text with
    | none => rfl
    | some found => rfl
  | cons c start ih =>
    obtain ⟨hopen, hclose⟩ := h c List.mem_cons_self
    simp only [List.cons_append, splitBlock?, if_neg hopen, if_neg hclose]
    rw [ih fun d hd => h d (List.mem_cons_of_mem _ hd)]
    cases splitBlock? depth text with
    | none => rfl
    | some found => rfl

/-! ### Predicates by themselves -/

/-- Whether a text is the predicate of a name and nothing else. -/
structure Stands (name : String) (text : List Char) : Prop where
  starts : ∃ c rest, text = heading name ++ c :: rest ∧ Text.isWordChar c = false
  block : splitBlock? 0 text = some (text, [])

/-- The text between the outer braces of a predicate. -/
def bodyOf (text : List Char) : List Char :=
  (Span.mk [] text []).body

/-- No character of a heading of a name is a brace or breaks a line. -/
theorem not_mem_heading {name : String} (hname : Text.isName name = true) {c : Char}
    (hc : Text.isNameChar c = false) (hblank : c ≠ ' ') : c ∉ heading name := by
  intro hmem
  rcases List.mem_append.1 hmem with hmem | hmem
  · simp only [List.mem_cons, List.not_mem_nil, or_false] at hmem
    rcases hmem with rfl | rfl | rfl | rfl | rfl
    · exact absurd hc (by decide)
    · exact absurd hc (by decide)
    · exact absurd hc (by decide)
    · exact absurd hc (by decide)
    · exact hblank rfl
  · exact Text.ne_of_isNameChar (Text.isNameChar_of_isName hname c hmem) hc rfl

/-- No character of a heading of a name opens or closes a block. -/
theorem not_brace_of_mem_heading {name : String} (hname : Text.isName name = true) {c : Char}
    (hc : c ∈ heading name) : c ≠ '\x7b' ∧ c ≠ '\x7d' := by
  refine ⟨?_, ?_⟩
  · rintro rfl
    exact not_mem_heading hname (by decide) (by decide) hc
  · rintro rfl
    exact not_mem_heading hname (by decide) (by decide) hc

/-- A heading, something more, and a block without inner blocks are a predicate by itself. -/
theorem stands_of_inner {name : String} {c : Char} {rest inner : List Char}
    (hc : Text.isWordChar c = false)
    (hstart : ∀ d ∈ heading name ++ c :: rest, d ≠ '\x7b' ∧ d ≠ '\x7d')
    (hinner : ∀ d ∈ inner, d ≠ '\x7b' ∧ d ≠ '\x7d') :
    Stands name (heading name ++ c :: rest ++ '\x7b' :: (inner ++ ['\x7d'])) ∧
      bodyOf (heading name ++ c :: rest ++ '\x7b' :: (inner ++ ['\x7d'])) = inner := by
  have hblock : splitBlock? 0 ('\x7b' :: (inner ++ ['\x7d'])) =
      some ('\x7b' :: (inner ++ ['\x7d']), []) := by
    have hclose : splitBlock? 1 ['\x7d'] = some (['\x7d'], []) := rfl
    have hrest := splitBlock?_start hinner 1 ['\x7d']
    rw [hclose] at hrest
    simp only [splitBlock?, if_true, hrest, Option.map_some]
  have hdrop : (heading name ++ c :: rest ++ '\x7b' :: (inner ++ ['\x7d'])).dropWhile
      (· != '\x7b') = '\x7b' :: (inner ++ ['\x7d']) := by
    rw [List.dropWhile_append_of_pos fun d hd => by simpa using (hstart d hd).1]
    rfl
  refine ⟨⟨⟨c, rest ++ '\x7b' :: (inner ++ ['\x7d']), by simp, hc⟩, ?_⟩, ?_⟩
  · rw [splitBlock?_start hstart, hblock]
    rfl
  · rw [bodyOf, Span.body, hdrop]
    simp

/-- A predicate by itself ends in no blank. -/
theorem Stands.trimEnd {name : String} {text : List Char} (h : Stands name text) :
    Text.trimEnd text = text :=
  Text.trimEnd_of_getLast (of_splitBlock?_eq_some h.block).2.2 (by decide)

/-- A predicate that is found in a text can be taken out of it and stands by itself. -/
theorem Stands.of_span? {name : String} (hname : Text.isName name = true) {text : List Char}
    {span : Span} (h : span? name text = .ok (some span)) : Stands name span.text := by
  unfold span? at h
  split at h
  · simp at h
  · rename_i before rest hfind
    split at h
    · simp at h
    · rename_i block after hblock
      obtain rfl := Option.some.inj (Except.ok.inj h)
      obtain ⟨-, tail, rfl, hend⟩ := of_splitAt?_eq_some hfind
      have hbraces : ∀ c ∈ heading name, c ≠ '\x7b' ∧ c ≠ '\x7d' :=
        fun c hc => not_brace_of_mem_heading hname hc
      refine ⟨?_, (of_splitBlock?_eq_some hblock).2.1⟩
      rw [splitBlock?_start hbraces] at hblock
      obtain ⟨⟨b, a⟩, htail, heq⟩ := Option.map_eq_some_iff.1 hblock
      obtain ⟨rfl, rfl⟩ := Prod.mk.inj heq
      obtain ⟨rfl, -, hlast⟩ := of_splitBlock?_eq_some htail
      cases b with
      | nil => cases hlast
      | cons c rest => exact ⟨c, rest, rfl, by simpa [isNameEnd] using hend⟩

/-- Blanks at the end of a text do not make up for a heading. -/
theorem find?_trimEnd {name : String} {text : List Char} (h : find? name text = none) :
    find? name (Text.trimEnd text) = none := by
  refine Option.eq_none_iff_forall_ne_some.2 fun found hfound => ?_
  obtain ⟨blanks, htext, hblanks⟩ := Text.exists_trimEnd_append text
  have hend : isNameEnd blanks = true := by
    cases blanks with
    | nil => rfl
    | cons c blanks => simp [isNameEnd, Text.isWordChar_of_isBlank (hblanks c List.mem_cons_self)]
  have hmore := splitAt?_append hfound hend
  rw [htext] at hmore
  rw [find?, hmore] at h
  cases h

/-- A predicate that is not found in a text is looked for in the next line. -/
theorem find?_append_newline {name : String} (hname : Text.isName name = true)
    {before : List Char} (h : find? name before = none) (after : List Char) :
    find? name (before ++ '\n' :: after) =
      (find? name after).map fun (b, a) => (before ++ '\n' :: b, a) := by
  have hfeed : '\n' ∉ heading name := not_mem_heading hname (by decide) (by decide)
  have hdrop : Text.dropStart? (heading name) ('\n' :: after) = none := by
    rw [heading, List.cons_append, Text.dropStart?, if_neg (by decide)]
  have hline : splitAt? (heading name) 0 ('\n' :: after) =
      (find? name after).map fun (b, a) => ('\n' :: b, a) := by
    simp only [splitAt?, hdrop, find?]
  rw [find?, splitAt?_append_of_none h (Nat.zero_le _) hfeed, hline, Option.map_map]
  rfl

/-- The body of a predicate that is not found in a text is looked for in the next line. -/
theorem body?_append_newline {name : String} (hname : Text.isName name = true)
    {before : List Char} (h : find? name before = none) (after : List Char) :
    body? name (before ++ '\n' :: after) = body? name after := by
  simp only [body?, span?, find?_append_newline hname h]
  cases find? name after with
  | none => rfl
  | some found =>
    obtain ⟨b, a⟩ := found
    simp only [Option.map_some]
    cases splitBlock? 0 a <;> rfl

/-- A predicate by itself is found where a text begins with it. -/
theorem Stands.body?_append {name : String} {text : List Char} (h : Stands name text)
    (more : List Char) : body? name (text ++ more) = .ok (some (bodyOf text)) := by
  have hblock := splitBlock?_append h.block more
  obtain ⟨c, rest, rfl, hc⟩ := h.starts
  have hfind : find? name (heading name ++ c :: rest ++ more) =
      some ([], heading name ++ c :: rest ++ more) := by
    rw [find?, List.append_assoc]
    exact splitAt?_here (by simp [isNameEnd, hc]) (by simp)
  simp only [body?, span?, hfind, hblock]
  rfl

/-- A predicate by itself is found where none of its name comes before it. -/
theorem Stands.body?_eq {name : String} (hname : Text.isName name = true) {base text : List Char}
    (hbase : find? name base = none) (h : Stands name text) (more : List Char) :
    body? name (Text.trimEnd base ++ '\n' :: '\n' :: (text ++ more)) =
      .ok (some (bodyOf text)) := by
  have hline : body? name ('\n' :: (text ++ more)) = body? name (text ++ more) :=
    body?_append_newline hname (rfl : find? name [] = none) (text ++ more)
  rw [body?_append_newline hname (find?_trimEnd hbase), hline, h.body?_append]

end Predicate

/-- The initial predicate of a model stands by itself. -/
theorem Model.stands_init {text : String} {vocabulary : Vocabulary} {model : Model}
    (hname : Text.isName vocabulary.initPredicate = true)
    (h : Model.parse text vocabulary = .ok model) :
    Predicate.Stands vocabulary.initPredicate model.init.toList := by
  simp only [parse, bind, Except.bind, pure, Except.pure, throw, throwThe, MonadExceptOf.throw] at h
  split at h
  · cases h
  · cases hspan : Predicate.span? vocabulary.initPredicate text.toList with
    | error e => simp [hspan] at h
    | ok found =>
      cases found with
      | none => simp [hspan] at h
      | some span =>
        simp only [hspan, Except.ok.injEq] at h
        rw [← h, String.toList_ofList]
        exact Predicate.Stands.of_span? hname hspan

end StateExplorer
