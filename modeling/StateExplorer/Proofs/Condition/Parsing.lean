import StateExplorer.Proofs.Condition.Grammar
import StateExplorer.Proofs.Results
import StateExplorer.Proofs.State.Sets
import StateExplorer.System.Problem

/-!
# Reading follows the grammar

A text is read as a condition exactly if it states it. What a parser takes from the tokens derives
from the grammar; and what derives is taken as a whole, if no token follows that could go on with
it. So each text states one condition at most.
-/

namespace StateExplorer.Condition

open Grammar

/-! ### Words -/

/-- The field of an equation is what follows the state. -/
theorem fieldOfWord_eq {name : String} (h : name.toList ≠ []) :
    fieldOfWord ("s." ++ name) = .ok name := by
  obtain ⟨c, rest, hname⟩ := List.exists_cons_of_ne_nil h
  have htext : ("s." ++ name).toList = 's' :: '.' :: c :: rest := by
    rw [String.toList_append, hname]
    rfl
  have hword : String.ofList (c :: rest) = name := by rw [← hname, String.ofList_toList]
  rw [fieldOfWord, htext]
  simp [Text.dropStart?, hword]

/-- A word is read as the field that it names. -/
theorem fieldOfWord_eq_ok_iff {word field : String} :
    fieldOfWord word = .ok field ↔ NamesField word field := by
  constructor
  · intro h
    unfold fieldOfWord at h
    split at h
    · rename_i c rest hrest
      obtain rfl := Except.ok.inj h
      refine ⟨by simp [← String.toList_inj], ?_⟩
      rw [← String.toList_inj, Text.dropStart?_eq_some_iff.1 hrest]
      simp
    · cases h
  · rintro ⟨hne, rfl⟩
    refine fieldOfWord_eq fun hnil => hne ?_
    rw [← String.toList_inj, hnil]
    rfl

/-- A value is taken for none exactly if it stands for an empty relation. -/
theorem isNone_iff {value : String} : isNone value = true ↔ IsVoid value := by
  unfold isNone IsVoid
  constructor
  · intro h
    have hall : Text.columns value.toList =
        List.replicate (Text.columns value.toList).length "none".toList :=
      List.eq_replicate_iff.2 ⟨rfl, fun column hcolumn => by
        simpa using List.all_eq_true.1 h column hcolumn⟩
    obtain ⟨more, hmore⟩ : ∃ more, (Text.columns value.toList).length = more + 1 :=
      Nat.exists_eq_succ_of_ne_zero fun hzero =>
        Text.columns_ne_nil _ (List.eq_nil_of_length_eq_zero hzero)
    refine ⟨more, ?_⟩
    rw [← hmore, ← hall, Text.intercalate_columns]
  · rintro ⟨more, hvalue⟩
    rw [hvalue]
    clear hvalue
    induction more with
    | zero => decide
    | succ more ih =>
      rw [List.replicate_succ, List.replicate_succ, List.intercalate_cons_cons, List.append_assoc,
        ← List.replicate_succ]
      change (Text.columns ("none".toList ++ '-' :: '>' ::
        ['-', '>'].intercalate (List.replicate (more + 1) "none".toList))).all _ = true
      rw [Text.columns_append_arrow (by decide), List.all_cons, ih]
      rfl

/-- The set of an equation is what is read of the values that are listed. -/
theorem eq_valueSet_iff {values found : List String} :
    values = valueSet (found.filter (!isNone ·)) ↔
      values.Pairwise (· < ·) ∧ ∀ v, v ∈ values ↔ v ∈ found ∧ ¬IsVoid v := by
  have hmem (v : String) : v ∈ valueSet (found.filter (!isNone ·)) ↔ v ∈ found ∧ ¬IsVoid v := by
    rw [mem_valueSet, List.mem_filter, ← isNone_iff]
    simp
  constructor
  · rintro rfl
    exact ⟨valueSet_strict _, hmem⟩
  · rintro ⟨hstrict, hvalues⟩
    exact eq_of_strict hstrict (valueSet_strict _) fun v => (hvalues v).trans (hmem v).symm

/-! ### What is taken derives -/

/-- Whether what a parser takes from the front of the tokens relates to what it reads. -/
def Takes {α : Type} (P : List Token → α → Prop) (parser : Parser α) : Prop :=
  ∀ tokens found rest, parser tokens = .ok (found, rest) →
    ∃ taken, tokens = taken ++ rest ∧ P taken found

/-- Line feeds are skipped. -/
theorem exists_feeds_skipNewlines (tokens : List Token) :
    ∃ count, tokens = feeds count ++ skipNewlines tokens := by
  fun_induction skipNewlines tokens with
  | case1 rest ih =>
    obtain ⟨count, hrest⟩ := ih
    exact ⟨count + 1, congrArg (Token.newline :: ·) hrest⟩
  | case2 tokens => exact ⟨0, rfl⟩

/-- A field is one word that names it. -/
theorem of_fieldName_eq_ok {tokens rest : List Token} {field : String}
    (h : fieldName tokens = .ok (field, rest)) :
    ∃ word, tokens = .word word :: rest ∧ NamesField word field := by
  unfold fieldName at h
  split at h
  · rename_i word left
    obtain ⟨name, hname, hmade⟩ := map_eq_ok_iff.1 h
    obtain ⟨rfl, rfl⟩ := Prod.mk.inj hmade
    exact ⟨word, rfl, fieldOfWord_eq_ok_iff.1 hname⟩
  · cases h

/-- Values are taken from the words of an unfinished one on. -/
theorem takes_valuesFrom {words : List String} (hwords : ∀ w ∈ words, w ∉ orWords ++ andWords) :
    Takes (fun taken found => Values (words.reverse.map .word ++ taken) found)
      (valuesFrom words) := by
  intro tokens found rest h
  -- A value that ends takes no more tokens.
  have hsingle {words : List String} (hwords : ∀ w ∈ words, w ∉ orWords ++ andWords)
      (hempty : ¬words.isEmpty = true) :
      Values (words.reverse.map .word ++ []) [String.join words.reverse] := by
    rw [List.append_nil]
    exact .single (by simpa using hempty) fun w hw => hwords w (List.mem_reverse.1 hw)
  fun_induction valuesFrom words tokens generalizing found with
  | case1 words word left hjoins hempty => cases h
  | case2 words word left hjoins hempty =>
    obtain ⟨rfl, rfl⟩ := Prod.mk.inj (Except.ok.inj h)
    exact ⟨[], rfl, hsingle hwords hempty⟩
  | case3 words word left hjoins ih =>
    have hword : word ∉ orWords ++ andWords := by simpa using hjoins
    obtain ⟨taken, rfl, hvalues⟩ := ih (List.forall_mem_cons.2 ⟨hword, hwords⟩) found h
    exact ⟨.word word :: taken, rfl, by simpa using hvalues⟩
  | case4 words left hempty => cases h
  | case5 words left hempty ih =>
    obtain ⟨⟨more, others⟩, hmore, hmade⟩ := map_eq_ok_iff.1 h
    obtain ⟨rfl, rfl⟩ := Prod.mk.inj hmade
    obtain ⟨taken, rfl, hvalues⟩ := ih (List.forall_mem_nil _) more hmore
    exact ⟨.plus :: taken, rfl, .plus (by simpa using hempty)
      (fun w hw => hwords w (List.mem_reverse.1 hw)) hvalues⟩
  | case6 words tokens hword hplus hempty => cases h
  | case7 words tokens hword hplus hempty =>
    obtain ⟨rfl, rfl⟩ := Prod.mk.inj (Except.ok.inj h)
    exact ⟨[], rfl, hsingle hwords hempty⟩

/-- A set is taken from the values that are listed for it. -/
theorem of_values_eq_ok {tokens rest : List Token} {set : List String}
    (h : values tokens = .ok (set, rest)) :
    ∃ taken found, tokens = taken ++ rest ∧ Values taken found ∧
      set = valueSet (found.filter (!isNone ·)) := by
  obtain ⟨⟨found, left⟩, hfound, hmade⟩ := map_eq_ok_iff.1 h
  obtain ⟨rfl, rfl⟩ := Prod.mk.inj hmade
  obtain ⟨taken, htaken, hvalues⟩ := takes_valuesFrom (List.forall_mem_nil _) _ _ _ hfound
  exact ⟨taken, found, htaken, hvalues, rfl⟩

/-- An atom is taken if a formula is in its parentheses. -/
theorem takes_atom {inner : Parser Condition} (h : Takes Formula inner) :
    Takes Atom (atom inner) := by
  -- A field after a word that asks something of it.
  have hfield (before : List Token) (make : String → Condition)
      (hmake : ∀ word field, NamesField word field → Atom (before ++ [.word word]) (make field))
      {tokens rest : List Token} {found : Condition}
      (hread : ((fieldName tokens).map fun read => (make read.1, read.2)) = .ok (found, rest)) :
      ∃ taken, before ++ tokens = taken ++ rest ∧ Atom taken found := by
    obtain ⟨⟨field, left⟩, hname, hmade⟩ := map_eq_ok_iff.1 hread
    obtain ⟨rfl, rfl⟩ := Prod.mk.inj hmade
    obtain ⟨word, rfl, hnames⟩ := of_fieldName_eq_ok hname
    exact ⟨before ++ [.word word], by simp, hmake word field hnames⟩
  intro tokens found rest hread
  fun_cases atom inner tokens with
  | case1 next =>
    obtain ⟨⟨condition, left⟩, hinner, hread⟩ := bind_eq_ok_iff.1 hread
    dsimp only at hread
    split at hread
    · rename_i more hclosing
      obtain ⟨rfl, rfl⟩ := Prod.mk.inj (Except.ok.inj hread)
      obtain ⟨before, hbefore⟩ := exists_feeds_skipNewlines next
      obtain ⟨after, hafter⟩ := exists_feeds_skipNewlines left
      obtain ⟨taken, htaken, parts, hparts, rfl⟩ := h _ _ _ hinner
      refine ⟨_, ?_, .parentheses before after hparts⟩
      rw [hbefore, htaken, hafter, hclosing]
      simp
    · cases hread
  | case2 next => exact hfield [.word "no"] .isEmpty (fun _ _ => .isEmpty) hread
  | case3 next => exact hfield [.word "some"] .nonEmpty (fun _ _ => .nonEmpty) hread
  | case4 word next hno hsome =>
    rw [atom.eq_4 _ _ _ hno hsome] at hread
    obtain ⟨field, hname, hread⟩ := bind_eq_ok_iff.1 hread
    obtain ⟨⟨set, left⟩, hvalues, hread⟩ := bind_eq_ok_iff.1 hread
    obtain ⟨rfl, rfl⟩ := Prod.mk.inj (Except.ok.inj hread)
    obtain ⟨taken, listed, rfl, hlisted, hset⟩ := of_values_eq_ok hvalues
    obtain ⟨hstrict, hmem⟩ := eq_valueSet_iff.1 hset
    exact ⟨.word word :: .equals :: taken, rfl,
      .equals (fieldOfWord_eq_ok_iff.1 hname) hlisted hstrict hmem⟩
  | case5 word next hno hsome =>
    rw [atom.eq_5 _ _ _ hno hsome] at hread
    exact hfield [.word word, .word "in"] (.contains · word)
      (fun _ _ => .contains ⟨hno, hsome⟩) hread
  | case6 word next hno hsome hequals hin =>
    rw [atom.eq_6 _ _ _ hno hsome hequals hin] at hread
    cases hread
  | case7 _ hopening hno hsome hequals hin hword =>
    rw [atom.eq_7 _ _ hopening hno hsome hequals hin hword] at hread
    cases hread

/-- Items with words between them are taken if each item is, and such a list can begin with any
item and go on after any of the words. -/
theorem takes_joined {P : List Token → Condition → Prop} {Q : List Token → List Condition → Prop}
    {words : List String} (hsingle : ∀ tokens condition, P tokens condition → Q tokens [condition])
    (hjoin : ∀ tokens rest condition parts word count, P tokens condition → word ∈ words →
      Q rest parts → Q (tokens ++ .word word :: (feeds count ++ rest)) (condition :: parts))
    {item : Parser Condition} (h : Takes P item) (more : Nat) :
    Takes Q (joined words item more) := by
  induction more with
  | zero =>
    intro tokens found rest hread
    obtain ⟨⟨first, left⟩, hitem, hmade⟩ := map_eq_ok_iff.1 hread
    obtain ⟨rfl, rfl⟩ := Prod.mk.inj hmade
    obtain ⟨taken, htaken, hfirst⟩ := h _ _ _ hitem
    exact ⟨taken, htaken, hsingle _ _ hfirst⟩
  | succ more ih =>
    intro tokens found rest hread
    obtain ⟨⟨first, left⟩, hitem, hread⟩ := bind_eq_ok_iff.1 hread
    obtain ⟨taken, htaken, hfirst⟩ := h _ _ _ hitem
    have halone (hread : (.ok ([first], left) : Except SyntaxError _) = .ok (found, rest)) :
        ∃ taken, tokens = taken ++ rest ∧ Q taken found := by
      obtain ⟨rfl, rfl⟩ := Prod.mk.inj (Except.ok.inj hread)
      exact ⟨taken, htaken, hsingle _ _ hfirst⟩
    dsimp only at hread
    split at hread
    · rename_i word next
      split at hread
      · rename_i hword
        obtain ⟨⟨others, left⟩, hothers, hread⟩ := bind_eq_ok_iff.1 hread
        obtain ⟨rfl, rfl⟩ := Prod.mk.inj (Except.ok.inj hread)
        obtain ⟨count, hcount⟩ := exists_feeds_skipNewlines next
        obtain ⟨later, hlater, hparts⟩ := ih _ _ _ hothers
        refine ⟨_, ?_, hjoin _ _ _ _ word count hfirst (List.contains_iff_mem.1 hword) hparts⟩
        rw [htaken, hcount, hlater]
        simp
      · exact halone hread
    · exact halone hread

/-- A formula is taken. -/
theorem takes_formula (depth : Nat) : Takes Formula (formula depth) := by
  induction depth with
  | zero =>
    intro tokens found rest hread
    cases hread
  | succ depth ih =>
    have hconjunction : Takes (fun tokens condition =>
        ∃ parts, Conjunction tokens parts ∧ condition = allOf parts)
        (conjunction (atom (formula depth))) := by
      intro tokens found rest hread
      obtain ⟨⟨parts, left⟩, hparts, hmade⟩ := map_eq_ok_iff.1 hread
      obtain ⟨rfl, rfl⟩ := Prod.mk.inj hmade
      obtain ⟨taken, htaken, hconjunction⟩ := takes_joined (Q := Conjunction)
        (fun _ _ => .single)
        (fun _ _ _ _ _ count hfirst hword hrest => .and hfirst hword count hrest) (takes_atom ih)
        _ _ _ _ hparts
      exact ⟨taken, htaken, parts, hconjunction, rfl⟩
    intro tokens found rest hread
    obtain ⟨⟨parts, left⟩, hparts, hmade⟩ := map_eq_ok_iff.1 hread
    obtain ⟨rfl, rfl⟩ := Prod.mk.inj hmade
    obtain ⟨taken, htaken, hdisjunction⟩ := takes_joined (Q := Disjunction)
      (fun _ _ ⟨_, hparts, heq⟩ => heq ▸ .single hparts)
      (fun _ _ _ _ _ count ⟨_, hparts, heq⟩ hword hrest => heq ▸ .or hparts hword count hrest)
      hconjunction _ _ _ _ hparts
    exact ⟨taken, htaken, parts, hdisjunction, rfl⟩

/-- A body is read as no conditions from line feeds alone, and otherwise as the condition of its
first line, and those of the body after that line if it does not end the tokens. -/
theorem body_cases {line : Parser Condition} {more : Nat} {tokens : List Token}
    {parts : List Condition} (h : body line more tokens = .ok parts) :
    (skipNewlines tokens = [] ∧ parts = []) ∨
      ∃ condition rest, line (skipNewlines tokens) = .ok (condition, rest) ∧
        ((rest = [] ∧ parts = [condition]) ∨
          ∃ fewer next others, more = fewer + 1 ∧ rest = .newline :: next ∧
            body line fewer next = .ok others ∧ parts = condition :: others) := by
  cases more with
  | zero =>
    rw [body] at h
    split at h
    · rename_i hskip
      exact .inl ⟨hskip, (Except.ok.inj h).symm⟩
    · rename_i token left hskip
      obtain ⟨⟨condition, rest⟩, hline, h⟩ := bind_eq_ok_iff.1 h
      dsimp only at h
      split at h
      · exact .inr ⟨condition, [], hskip ▸ hline, .inl ⟨rfl, (Except.ok.inj h).symm⟩⟩
      · cases h
  | succ fewer =>
    rw [body] at h
    split at h
    · rename_i hskip
      exact .inl ⟨hskip, (Except.ok.inj h).symm⟩
    · rename_i token left hskip
      obtain ⟨⟨condition, rest⟩, hline, h⟩ := bind_eq_ok_iff.1 h
      refine .inr ⟨condition, rest, hskip ▸ hline, ?_⟩
      dsimp only at h
      split at h
      · exact .inl ⟨rfl, (Except.ok.inj h).symm⟩
      · rename_i next
        obtain ⟨others, hothers, h⟩ := bind_eq_ok_iff.1 h
        exact .inr ⟨fewer, next, others, rfl, rfl, hothers, (Except.ok.inj h).symm⟩
      · cases h

/-- What is read to the end of the tokens is a body. -/
theorem of_body_eq_ok {line : Parser Condition} (h : Takes Formula line) {more : Nat}
    {tokens : List Token} {parts : List Condition} (hread : body line more tokens = .ok parts) :
    Body tokens parts := by
  induction more using Nat.strongRecOn generalizing tokens parts with
  | ind more ih =>
    obtain ⟨before, hbefore⟩ := exists_feeds_skipNewlines tokens
    obtain ⟨hskip, rfl⟩ | ⟨condition, rest, hline, hrest⟩ := body_cases hread
    · rw [hbefore, hskip, List.append_nil]
      exact .blank before
    · obtain ⟨taken, htaken, hformula⟩ := h _ _ _ hline
      rw [hbefore, htaken]
      obtain ⟨rfl, rfl⟩ | ⟨fewer, next, others, rfl, rfl, hothers, rfl⟩ := hrest
      · exact .lines before 0 (.single hformula)
      · exact (ih fewer (Nat.lt_succ_self _) hothers).line hformula before

/-- The condition that a text is read as is stated by it. -/
theorem states_of_parse {text : String} {condition : Condition} (h : parse text = .ok condition) :
    States text condition := by
  obtain ⟨parts, hparts, rfl⟩ := map_eq_ok_iff.1 h
  exact ⟨_, parts, Token.spelled_iff.2 rfl, of_body_eq_ok (takes_formula _) hparts, rfl⟩

/-! ### What derives is taken -/

/-- Whether no token follows that could go on with what stands before, other than some words. -/
def Ends (words : List String) : List Token → Prop
  | [] => True
  | .newline :: _ => True
  | .closing :: _ => True
  | .word word :: _ => word ∈ words
  | _ => False

/-- What ends with some words does with more words. -/
theorem Ends.mono {words others : List String} (hsub : words ⊆ others) {rest : List Token}
    (h : Ends words rest) : Ends others rest := by
  match rest with
  | [] => trivial
  | .newline :: _ => trivial
  | .closing :: _ => trivial
  | .word word :: _ => exact hsub h

/-- None of other words follows what ends with some words. -/
theorem Ends.not_mem {words others : List String} (hother : ∀ w ∈ words, w ∉ others)
    {rest : List Token} (h : Ends words rest) (word : String) (next : List Token)
    (hrest : rest = .word word :: next) : word ∉ others := by
  subst hrest
  exact hother word h

/-- Line feeds end a formula. -/
theorem ends_feeds (words : List String) (count : Nat) {rest : List Token} (h : Ends words rest) :
    Ends words (feeds count ++ rest) := by
  cases count with
  | zero => exact h
  | succ count => trivial

/-- A word that joins no conditions is a part of the value. -/
theorem valuesFrom_word {word : String} (h : word ∉ orWords ++ andWords) (words : List String)
    (rest : List Token) : valuesFrom words (.word word :: rest) = valuesFrom (word :: words) rest := by
  have hcontains : (orWords ++ andWords).contains word = false := by
    rw [List.contains_eq_mem, decide_eq_false h]
  simp only [valuesFrom, hcontains, Bool.false_eq_true, if_false]

/-- The words of a value are taken one by one. -/
theorem valuesFrom_words {words : List String} (h : ∀ w ∈ words, w ∉ orWords ++ andWords)
    (before : List String) (rest : List Token) :
    valuesFrom before (words.map .word ++ rest) = valuesFrom (words.reverse ++ before) rest := by
  induction words generalizing before with
  | nil => rfl
  | cons word words ih =>
    obtain ⟨hword, hwords⟩ := List.forall_mem_cons.1 h
    rw [List.map_cons, List.cons_append, valuesFrom_word hword, ih hwords]
    simp

/-- A value that has words ends where none follows that could belong to it. -/
theorem valuesFrom_of_ends {words : List String} (hne : words ≠ []) {rest : List Token}
    (h : Ends (orWords ++ andWords) rest) :
    valuesFrom words rest = .ok ([String.join words.reverse], rest) := by
  have hempty : words.isEmpty = false := by simpa using hne
  match rest with
  | [] => simp [valuesFrom, hempty]
  | .newline :: _ => simp [valuesFrom, hempty]
  | .closing :: _ => simp [valuesFrom, hempty]
  | .word word :: _ =>
    have hjoins : (orWords ++ andWords).contains word = true := List.contains_iff_mem.2 h
    simp only [valuesFrom, hjoins, hempty, if_true, Bool.false_eq_true, if_false]

/-- Values are taken as a whole. -/
theorem Grammar.Values.valuesFrom_append {taken : List Token} {found : List String}
    (h : Values taken found) {rest : List Token} (hrest : Ends (orWords ++ andWords) rest) :
    valuesFrom [] (taken ++ rest) = .ok (found, rest) := by
  induction h with
  | single hne hwords =>
    rw [valuesFrom_words hwords, List.append_nil, valuesFrom_of_ends (by simpa using hne) hrest,
      List.reverse_reverse]
  | @plus words tokens others hne hwords hothers ih =>
    have hempty : words.reverse.isEmpty = false := by simpa using hne
    rw [List.append_assoc, valuesFrom_words hwords, List.append_nil, List.cons_append]
    simp [valuesFrom, hempty, ih, Except.map]

/-- An item is the last one where none of the words follows. -/
theorem joined_of_last {words : List String} {item : Parser Condition} {tokens rest : List Token}
    {condition : Condition} (h : item tokens = .ok (condition, rest))
    (hrest : ∀ word next, rest = .word word :: next → word ∉ words) (more : Nat) :
    joined words item more tokens = .ok ([condition], rest) := by
  cases more with
  | zero => simp only [joined, h, Except.map]
  | succ more =>
    simp only [joined, h, bind, Except.bind]
    split
    · rename_i word next
      rw [if_neg]
      simpa using hrest word next rfl
    · rfl

/-- An item before one of the words goes on with the items after it. -/
theorem joined_of_word {words : List String} {item : Parser Condition} {tokens next rest : List Token}
    {condition : Condition} {word : String} {parts : List Condition} {more : Nat}
    (h : item tokens = .ok (condition, .word word :: next)) (hword : word ∈ words)
    (hmore : joined words item more (skipNewlines next) = .ok (parts, rest)) :
    joined words item (more + 1) tokens = .ok (condition :: parts, rest) := by
  simp only [joined, h, bind, Except.bind, List.contains_iff_mem.2 hword, if_true, hmore]

/-- A set is taken from the values that are listed for it. -/
theorem Grammar.Values.values_append {taken : List Token} {found : List String}
    (h : Values taken found) {rest : List Token} (hrest : Ends (orWords ++ andWords) rest) :
    values (taken ++ rest) = .ok (valueSet (found.filter (!isNone ·)), rest) := by
  rw [values, h.valuesFrom_append hrest]
  rfl

/-- A word that names a field is no word that does not begin so. -/
theorem Grammar.NamesField.ne {word field other : String} (h : NamesField word field)
    (hother : other.toList.take 2 ≠ ['s', '.']) : word ≠ other := by
  rintro rfl
  rw [h.2] at hother
  exact hother (by simp)

/-- A field is taken from the word that names it. -/
theorem Grammar.NamesField.fieldName_eq {word field : String} (h : NamesField word field)
    (rest : List Token) : fieldName (.word word :: rest) = .ok (field, rest) := by
  rw [fieldName, fieldOfWord_eq_ok_iff.2 h]
  rfl

namespace Grammar

mutual

/-- An atom is taken as a whole. -/
theorem Atom.read {taken : List Token} {condition : Condition} :
    Atom taken condition → ∀ depth, taken.length ≤ depth → ∀ rest,
      Ends (orWords ++ andWords) rest →
        atom (formula depth) (taken ++ rest) = .ok (condition, rest)
  | @Atom.parentheses tokens parts before after h => by
    intro depth hdepth rest hrest
    -- The parentheses are two of the tokens, so the formula between them may be less deep.
    have hlength : tokens.length + 2 ≤ depth := by
      simp only [List.length_cons, List.length_append, List.length_nil] at hdepth
      omega
    obtain ⟨depth, rfl⟩ : ∃ d, depth = d + 1 := ⟨depth - 1, by omega⟩
    have hends : Ends [] (feeds after ++ .closing :: rest) := ends_feeds [] after trivial
    have hinner := h.read depth (by omega) (tokens ++ (feeds after ++ .closing :: rest)).length
      (by simp) _ hends
    have htokens : Token.opening :: (feeds before ++ (tokens ++ (feeds after ++ [.closing]))) ++ rest =
        .opening :: (feeds before ++ (tokens ++ (feeds after ++ .closing :: rest))) := by
      simp
    have hclosing : Leads (.closing :: rest) := ⟨_, _, rfl, Token.noConfusion⟩
    rw [htokens, atom, (h.leads.append _).skipNewlines, formula, disjunction, hinner]
    simp [bind, Except.bind, Except.map, hclosing.skipNewlines]
  | .isEmpty h => by
    intro depth _ rest _
    simp [atom, h.fieldName_eq, Except.map]
  | .nonEmpty h => by
    intro depth _ rest _
    simp [atom, h.fieldName_eq, Except.map]
  | .equals hfield hfound hstrict hvalues => by
    intro depth _ rest hrest
    have hset := eq_valueSet_iff.2 ⟨hstrict, hvalues⟩
    rw [List.cons_append, List.cons_append, atom.eq_4 _ _ _ (hfield.ne (by decide))
      (hfield.ne (by decide)), fieldOfWord_eq_ok_iff.2 hfield, hset]
    simp [hfound.values_append hrest, bind, Except.bind]
  | .contains hvalue hfield => by
    intro depth _ rest _
    simp only [List.cons_append, List.nil_append]
    rw [atom.eq_5 _ _ _ hvalue.1 hvalue.2, hfield.fieldName_eq]
    rfl

/-- A conjunction is taken as a whole. -/
theorem Conjunction.read {taken : List Token} {parts : List Condition} :
    Conjunction taken parts → ∀ depth, taken.length ≤ depth → ∀ more, taken.length ≤ more →
      ∀ rest, Ends orWords rest →
        joined andWords (atom (formula depth)) more (taken ++ rest) = .ok (parts, rest)
  | .single h => by
    intro depth hdepth more _ rest hrest
    have hread := h.read depth hdepth rest (hrest.mono (List.subset_append_left _ _))
    exact joined_of_last hread (hrest.not_mem (by decide)) more
  | @Conjunction.and tokens later condition parts word h hword count hlater => by
    intro depth hdepth more hmore rest hrest
    simp only [List.length_append, List.length_cons] at hdepth hmore
    obtain ⟨more, rfl⟩ : ∃ m, more = m + 1 := ⟨more - 1, by omega⟩
    have hread := h.read depth (by omega) (.word word :: (feeds count ++ (later ++ rest)))
      (List.mem_append_right _ hword)
    have hothers := hlater.read depth (by omega) more (by omega) rest hrest
    rw [List.append_assoc, List.cons_append, List.append_assoc]
    exact joined_of_word hread hword
      ((congrArg _ ((hlater.leads.append rest).skipNewlines count)).trans hothers)

/-- A disjunction is taken as a whole. -/
theorem Disjunction.read {taken : List Token} {parts : List Condition} :
    Disjunction taken parts → ∀ depth, taken.length ≤ depth → ∀ more, taken.length ≤ more →
      ∀ rest, Ends [] rest →
        joined orWords (conjunction (atom (formula depth))) more (taken ++ rest) = .ok (parts, rest)
  | @Disjunction.single taken parts h => by
    intro depth hdepth more _ rest hrest
    have hread : conjunction (atom (formula depth)) (taken ++ rest) = .ok (allOf parts, rest) := by
      rw [conjunction, h.read depth hdepth _ (by simp) rest (hrest.mono (List.nil_subset _))]
      rfl
    exact joined_of_last hread (hrest.not_mem (by decide)) more
  | @Disjunction.or tokens later parts others word h hword count hlater => by
    intro depth hdepth more hmore rest hrest
    simp only [List.length_append, List.length_cons] at hdepth hmore
    obtain ⟨more, rfl⟩ : ∃ m, more = m + 1 := ⟨more - 1, by omega⟩
    have hread : conjunction (atom (formula depth))
        (tokens ++ .word word :: (feeds count ++ (later ++ rest))) =
          .ok (allOf parts, .word word :: (feeds count ++ (later ++ rest))) := by
      have hends : Ends orWords (.word word :: (feeds count ++ (later ++ rest))) := hword
      rw [conjunction, h.read depth (by omega) _ (by simp) _ hends]
      rfl
    have hothers := hlater.read depth (by omega) more (by omega) rest hrest
    rw [List.append_assoc, List.cons_append, List.append_assoc]
    exact joined_of_word hread hword
      ((congrArg _ ((hlater.leads.append rest).skipNewlines count)).trans hothers)

end

/-- A formula is taken as a whole. -/
theorem Formula.read {taken : List Token} {condition : Condition} (h : Formula taken condition)
    {depth : Nat} (hdepth : taken.length < depth) {rest : List Token} (hrest : Ends [] rest) :
    formula depth (taken ++ rest) = .ok (condition, rest) := by
  obtain ⟨parts, hparts, rfl⟩ := h
  obtain ⟨depth, rfl⟩ : ∃ d, depth = d + 1 := ⟨depth - 1, by omega⟩
  rw [formula, disjunction, hparts.read depth (by omega) _ (by simp) rest hrest]
  rfl

end Grammar

/-- Nothing is left of line feeds. -/
theorem skipNewlines_feeds (count : Nat) : skipNewlines (feeds count) = [] := by
  induction count with
  | zero => rfl
  | succ count ih => exact ih

/-- Where nothing but line feeds is left there are no formulas. -/
theorem body_of_skipNewlines {tokens : List Token} (h : skipNewlines tokens = [])
    (line : Parser Condition) (more : Nat) : body line more tokens = .ok [] := by
  rw [body, h]

/-- The first formula is read from the first token that is no line feed, and the next one after a
line feed. -/
theorem body_of_cons {tokens left : List Token} {token : Token}
    (h : skipNewlines tokens = token :: left) (line : Parser Condition) (more : Nat) :
    body line (more + 1) tokens = (line (token :: left)).bind fun (condition, rest) =>
      match rest with
      | [] => .ok [condition]
      | .newline :: rest => (body line more rest).map (condition :: ·)
      | token :: _ => .error (.unexpected .endOfFormula (some token)) := by
  rw [body, h]
  rfl

/-- Line feeds at the start are skipped. -/
theorem body_feeds_append (line : Parser Condition) (more count : Nat) (tokens : List Token) :
    body line more (feeds count ++ tokens) = body line more tokens := by
  have hskip : skipNewlines (feeds count ++ tokens) = skipNewlines tokens := by
    induction count with
    | zero => rfl
    | succ count ih => exact ih
  rw [body, body, hskip]

/-- A line before a line feed goes on with the body after it. -/
theorem body_of_newline {line : Parser Condition} {tokens rest : List Token} {condition : Condition}
    {parts : List Condition} {more : Nat} (h : Leads tokens)
    (hline : line tokens = .ok (condition, .newline :: rest))
    (hbody : body line more rest = .ok parts) :
    body line (more + 1) tokens = .ok (condition :: parts) := by
  have hskip : skipNewlines tokens = tokens := h.skipNewlines 0
  obtain ⟨token, left, rfl, -⟩ := h
  rw [body_of_cons hskip, hline]
  simp [Except.bind, hbody, Except.map]

/-- A line is the last one where nothing but line feeds follows. -/
theorem body_of_last {line : Parser Condition} {tokens : List Token} {condition : Condition}
    {after : Nat} (h : Leads tokens) (hline : line tokens = .ok (condition, feeds after))
    (more : Nat) : body line (more + 1) tokens = .ok [condition] := by
  cases after with
  | zero =>
    have hskip : skipNewlines tokens = tokens := h.skipNewlines 0
    obtain ⟨token, left, rfl, -⟩ := h
    rw [body_of_cons hskip, hline]
    rfl
  | succ after =>
    exact body_of_newline h hline (body_of_skipNewlines (skipNewlines_feeds after) line more)

/-- Lines are read to the end of the tokens. -/
theorem Grammar.Lines.read {tokens : List Token} {parts : List Condition} (h : Lines tokens parts)
    {depth : Nat} (hdepth : tokens.length < depth) {more : Nat} (hmore : tokens.length ≤ more)
    (after : Nat) : body (formula depth) more (tokens ++ feeds after) = .ok parts := by
  have hpositive {tokens : List Token} (h : Leads tokens) : 0 < tokens.length := by
    obtain ⟨token, rest, rfl, -⟩ := h
    exact Nat.succ_pos _
  have hends (after : Nat) : Ends [] (feeds after) := by
    have h : Ends [] (feeds after ++ []) := ends_feeds [] after trivial
    rwa [List.append_nil] at h
  induction h generalizing more with
  | @single tokens condition h =>
    have hleads : Leads tokens := (Lines.single h).leads
    have := hpositive hleads
    obtain ⟨more, rfl⟩ : ∃ m, more = m + 1 := ⟨more - 1, by omega⟩
    exact body_of_last (hleads.append _) (h.read hdepth (hends after)) more
  | @line tokens rest condition parts h count hrest ih =>
    simp only [List.length_append, feeds, List.length_replicate] at hdepth hmore
    obtain ⟨more, rfl⟩ : ∃ m, more = m + 1 := ⟨more - 1, by omega⟩
    have hlater : body (formula depth) more (feeds count ++ (rest ++ feeds after)) = .ok parts := by
      rw [body_feeds_append]
      exact ih (by omega) (by omega)
    have htokens : tokens ++ (feeds (count + 1) ++ rest) ++ feeds after =
        tokens ++ .newline :: (feeds count ++ (rest ++ feeds after)) := by
      simp [feeds, List.replicate_succ]
    rw [htokens]
    exact body_of_newline (((Lines.single h).leads).append _) (h.read (by omega) trivial) hlater

/-- A body is read to the end of the tokens. -/
theorem Grammar.Body.read {tokens : List Token} {parts : List Condition} (h : Body tokens parts)
    {depth : Nat} (hdepth : tokens.length < depth) {more : Nat} (hmore : tokens.length ≤ more) :
    body (formula depth) more tokens = .ok parts := by
  cases h with
  | blank count => exact body_of_skipNewlines (skipNewlines_feeds count) _ _
  | lines before after h =>
    simp only [List.length_append] at hdepth hmore
    rw [body_feeds_append]
    exact h.read (by omega) (by omega) after

/-- A text is read as a condition exactly if it states it. -/
theorem parse_eq_ok_iff {text : String} {condition : Condition} :
    parse text = .ok condition ↔ States text condition := by
  refine ⟨states_of_parse, ?_⟩
  rintro ⟨tokens, parts, hspelled, hbody, rfl⟩
  have hscan : Token.scan text = tokens := Token.spelled_iff.1 hspelled
  rw [parse, hscan]
  simp only [hbody.read (Nat.lt_succ_self _) (Nat.le_refl _)]
  rfl

/-- A text is read as the conditions that it states, and nothing else; one that states none is
refused, with an error that counts as one of compilation. -/
theorem parse_follows_grammar (text : String) :
    (∀ condition, parse text = .ok condition ↔ States text condition) ∧
      ((¬∃ condition, States text condition) →
        ∃ cause, parse text = .error cause ∧
          (ReadError.condition cause).toSolverError = .compile cause.message) := by
  refine ⟨fun condition => parse_eq_ok_iff, fun hnone => ?_⟩
  cases hparse : parse text with
  | ok condition => exact absurd ⟨condition, parse_eq_ok_iff.1 hparse⟩ hnone
  | error cause => exact ⟨cause, rfl, rfl⟩

/-- A value may have several words, and values that stand for nothing are left out. -/
example : parse "s.f = b c + none->none + a\n\nno s.g" =
    .ok (.all [.equals "f" ["a", "bc"], .isEmpty "g"]) := by
  cbv

end StateExplorer.Condition
