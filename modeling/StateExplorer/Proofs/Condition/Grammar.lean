import StateExplorer.Condition.Parser
import StateExplorer.Proofs.Text.Names

/-!
# The grammar of conditions

Which texts state conditions, and which conditions, said without reading them. A text is spelled by
tokens: five characters stand for themselves, and everything else that is not blank forms words,
each as long as possible. The tokens derive from a grammar whose trees are the conditions: atoms
joined to conjunctions, conjunctions joined to disjunctions, and disjunctions on lines of their own.
A value may consist of several words, and a word that joins conditions is one only where a value
would end, so the grammar has no separate classes of words.
-/

namespace StateExplorer.Condition

/-! ### Spelling -/

namespace Token

/-- Whether a character is a part of a word of a condition. -/
def isLetter (c : Char) : Bool :=
  (ofChar? c).isNone && !Text.isBlank c

/-- A character of a name is a part of a word. -/
theorem isLetter_of_isNameChar {c : Char} (h : Text.isNameChar c = true) : isLetter c = true := by
  have hmark : ofChar? c = none := by
    unfold ofChar?
    split
    all_goals first | rfl | exact absurd h (by decide)
  simp [isLetter, hmark, Text.isBlank_of_isNameChar h]

/-- The letters of a word are gathered. -/
theorem scanFrom_letters {word : List Char} (h : ∀ c ∈ word, isLetter c = true)
    (letters rest : List Char) :
    scanFrom letters (word ++ rest) = scanFrom (word.reverse ++ letters) rest := by
  induction word generalizing letters with
  | nil => rfl
  | cons c word ih =>
    have hc := h c List.mem_cons_self
    simp only [isLetter, Bool.and_eq_true, Option.isNone_iff_eq_none, Bool.not_eq_true'] at hc
    have hrest := ih (fun d hd => h d (List.mem_cons_of_mem _ hd)) (c :: letters)
    rw [List.cons_append, scanFrom]
    simp only [hc.1, hc.2, Bool.false_eq_true, if_false, hrest]
    simp

/-- The letters of a word that is not empty are its token. -/
theorem pendingWord_reverse {word : List Char} (h : word ≠ []) :
    pendingWord word.reverse = [.word (String.ofList word)] := by
  have hreverse : word.reverse ≠ [] := by simpa using h
  obtain ⟨c, letters, hletters⟩ := List.exists_cons_of_ne_nil hreverse
  have hword : (c :: letters).reverse = word := by rw [← hletters, List.reverse_reverse]
  rw [hletters, pendingWord, hword]
  simp

/-- A blank is no token, unless it is a line feed. -/
theorem ofChar?_of_isBlank {c : Char} (h : Text.isBlank c = true) (hfeed : c ≠ '\n') :
    ofChar? c = none := by
  unfold ofChar?
  split
  all_goals first | rfl | exact absurd h (by decide) | exact absurd rfl hfeed

/-- The characters that are tokens by themselves. -/
def marks : List (Char × Token) :=
  [('(', .opening), (')', .closing), ('=', .equals), ('+', .plus), ('\n', .newline)]

/-- A character is the token by itself that it is listed with. -/
theorem ofChar?_eq_some_iff {c : Char} {token : Token} :
    ofChar? c = some token ↔ (c, token) ∈ marks := by
  unfold ofChar?
  split <;> simp_all [marks, eq_comm]

/-- Whether a text consists of some tokens, with blanks between them. -/
inductive Spelled : List Char → List Token → Prop
  | nil : Spelled [] []
  | blank {c : Char} {text : List Char} {tokens : List Token} (hblank : Text.isBlank c = true)
    (hfeed : c ≠ '\n') (h : Spelled text tokens) : Spelled (c :: text) tokens
  | mark {c : Char} {token : Token} {text : List Char} {tokens : List Token}
    (hmark : (c, token) ∈ marks) (h : Spelled text tokens) : Spelled (c :: text) (token :: tokens)
  | word {letters text : List Char} {tokens : List Token} (hne : letters ≠ [])
    (hletters : ∀ c ∈ letters, isLetter c = true) (hend : ∀ c ∈ text.head?, isLetter c = false)
    (h : Spelled text tokens) : Spelled (letters ++ text) (.word (String.ofList letters) :: tokens)

/-- A word ends where no letter follows. -/
theorem scanFrom_of_end {text : List Char} (h : ∀ c ∈ text.head?, isLetter c = false)
    (letters : List Char) : scanFrom letters text = pendingWord letters ++ scanFrom [] text := by
  cases text with
  | nil => simp [scanFrom, pendingWord]
  | cons c rest =>
    have hend : isLetter c = false := h c rfl
    rw [scanFrom, scanFrom]
    cases hmark : ofChar? c with
    | some token => rfl
    | none =>
      have hblank : Text.isBlank c = true := by simpa [isLetter, hmark] using hend
      simp only [hblank, if_true]
      rfl

/-- The letters of an unfinished word stand before the text that ends it. -/
theorem Spelled.pending {text : List Char} {tokens : List Token} (h : Spelled text tokens)
    (hend : ∀ c ∈ text.head?, isLetter c = false) {letters : List Char}
    (hletters : ∀ c ∈ letters, isLetter c = true) :
    Spelled (letters.reverse ++ text) (pendingWord letters ++ tokens) := by
  cases letters with
  | nil => exact h
  | cons c letters =>
    exact .word (by simp) (fun d hd => hletters d (List.mem_reverse.1 hd)) hend h

/-- A text is spelled by what is scanned from it. -/
theorem spelled_scanFrom (text : List Char) {letters : List Char}
    (hletters : ∀ c ∈ letters, isLetter c = true) :
    Spelled (letters.reverse ++ text) (scanFrom letters text) := by
  induction text generalizing letters with
  | nil =>
    have hpending := Spelled.nil.pending (by simp) hletters
    rwa [List.append_nil (pendingWord letters)] at hpending
  | cons c rest ih =>
    have hrest : Spelled rest (scanFrom [] rest) := ih (List.forall_mem_nil _)
    rw [scanFrom]
    cases hmark : ofChar? c with
    | some token =>
      have hend : ∀ d ∈ (c :: rest).head?, isLetter d = false := by
        simp [isLetter, hmark]
      exact (hrest.mark (ofChar?_eq_some_iff.1 hmark)).pending hend hletters
    | none =>
      dsimp only
      split
      · rename_i hblank
        have hfeed : c ≠ '\n' := by
          rintro rfl
          cases hmark
        have hend : ∀ d ∈ (c :: rest).head?, isLetter d = false := by
          simp [isLetter, hblank]
        exact (hrest.blank hblank hfeed).pending hend hletters
      · rename_i hblank
        have hletter : isLetter c = true := by simp [isLetter, hmark, hblank]
        have hlonger := ih (List.forall_mem_cons.2 ⟨hletter, hletters⟩)
        rwa [List.reverse_cons, List.append_assoc] at hlonger

/-- The tokens that are scanned from a text are the only ones that spell it. -/
theorem spelled_iff {text : List Char} {tokens : List Token} :
    Spelled text tokens ↔ scanFrom [] text = tokens := by
  constructor
  · intro h
    induction h with
    | nil => rfl
    | blank hblank hfeed _ ih =>
      rw [scanFrom, ofChar?_of_isBlank hblank hfeed]
      simp only [hblank, if_true, ih]
      rfl
    | mark hmark _ ih =>
      rw [scanFrom, ofChar?_eq_some_iff.2 hmark]
      simp only [ih]
      rfl
    | word hne hletters hend _ ih =>
      rw [scanFrom_letters hletters, List.append_nil, scanFrom_of_end hend,
        pendingWord_reverse hne, ih]
      rfl
  · rintro rfl
    exact spelled_scanFrom text (List.forall_mem_nil _)

/-- Texts are spelled one after the other, if no word goes on from the first to the second. -/
theorem Spelled.append {text more : List Char} {tokens others : List Token}
    (h : Spelled text tokens) (hmore : Spelled more others)
    (hend : ∀ c ∈ more.head?, isLetter c = false) : Spelled (text ++ more) (tokens ++ others) := by
  induction h with
  | nil => exact hmore
  | blank hblank hfeed _ ih => exact ih.blank hblank hfeed
  | mark hmark _ ih => exact ih.mark hmark
  | @word letters text tokens hne hletters hnext _ ih =>
    have hboth : ∀ c ∈ (text ++ more).head?, isLetter c = false := by
      cases text with
      | nil => exact hend
      | cons c rest => exact hnext
    rw [List.append_assoc]
    exact ih.word hne hletters hboth

/-- A mark ends the text before it. -/
theorem Spelled.append_mark {text more : List Char} {tokens others : List Token}
    (h : Spelled text tokens) {c : Char} {token : Token} (hmark : (c, token) ∈ marks)
    (hmore : Spelled more others) : Spelled (text ++ c :: more) (tokens ++ token :: others) := by
  refine h.append (.mark hmark hmore) ?_
  simp [isLetter, ofChar?_eq_some_iff.2 hmark]

/-- A token is a line feed only where the text has one. -/
theorem Spelled.newline_not_mem {text : List Char} {tokens : List Token}
    (h : Spelled text tokens) (hfeed : '\n' ∉ text) : Token.newline ∉ tokens := by
  induction h with
  | nil => simp
  | blank _ _ _ ih => exact ih fun hmem => hfeed (List.mem_cons_of_mem _ hmem)
  | @mark c token _ _ hmark _ ih =>
    have hrest := ih fun hmem => hfeed (List.mem_cons_of_mem _ hmem)
    rw [List.mem_cons, not_or]
    refine ⟨?_, hrest⟩
    rintro rfl
    simp only [marks, List.mem_cons, Prod.mk.injEq, reduceCtorEq, and_false, and_true, false_or,
      List.not_mem_nil, or_false] at hmark
    exact hfeed (hmark ▸ List.mem_cons_self)
  | word _ _ _ _ ih =>
    have hrest := ih fun hmem => hfeed (List.mem_append_right _ hmem)
    simpa using hrest

/-- A text without tokens is blank. -/
theorem Spelled.isBlank_of_nil {text : List Char} (h : Spelled text []) :
    ∀ c ∈ text, Text.isBlank c = true := by
  generalize htokens : ([] : List Token) = tokens at h
  induction h with
  | nil => simp
  | blank hblank _ _ ih => exact List.forall_mem_cons.2 ⟨hblank, ih htokens⟩
  | mark => cases htokens
  | word => cases htokens

end Token

/-! ### Derivations -/

/-- So many line feeds. -/
def feeds (count : Nat) : List Token :=
  List.replicate count .newline

namespace Grammar

/-- Whether a word names a field: it is `s.` with the name after it. -/
def NamesField (word field : String) : Prop :=
  field ≠ "" ∧ word = "s." ++ field

/-- Whether a value stands for the empty relation of some arity: it has no column but `none`. -/
def IsVoid (value : String) : Prop :=
  ∃ more, value.toList = ['-', '>'].intercalate (List.replicate (more + 1) "none".toList)

/-- The values that tokens list with plus signs between them. Each value is written as some words,
none of which joins conditions. -/
inductive Values : List Token → List String → Prop
  | single {words : List String} (hne : words ≠ []) (hwords : ∀ w ∈ words, w ∉ orWords ++ andWords) :
    Values (words.map .word) [String.join words]
  | plus {words : List String} {tokens : List Token} {values : List String} (hne : words ≠ [])
    (hwords : ∀ w ∈ words, w ∉ orWords ++ andWords) (h : Values tokens values) :
    Values (words.map .word ++ .plus :: tokens) (String.join words :: values)

mutual

/-- The condition of an atom. The set of an equation ascends strictly and leaves out the values that
stand for an empty relation. -/
inductive Atom : List Token → Condition → Prop
  | parentheses {tokens : List Token} {parts : List Condition} (before after : Nat)
    (h : Disjunction tokens parts) :
    Atom (.opening :: (feeds before ++ (tokens ++ (feeds after ++ [.closing])))) (anyOf parts)
  | isEmpty {word field : String} (h : NamesField word field) :
    Atom [.word "no", .word word] (.isEmpty field)
  | nonEmpty {word field : String} (h : NamesField word field) :
    Atom [.word "some", .word word] (.nonEmpty field)
  | equals {word field : String} {tokens : List Token} {found values : List String}
    (hfield : NamesField word field) (hfound : Values tokens found)
    (hstrict : values.Pairwise (· < ·)) (hvalues : ∀ v, v ∈ values ↔ v ∈ found ∧ ¬IsVoid v) :
    Atom (.word word :: .equals :: tokens) (.equals field values)
  | contains {value word field : String} (hvalue : value ≠ "no" ∧ value ≠ "some")
    (hfield : NamesField word field) :
    Atom [.word value, .word "in", .word word] (.contains field value)

/-- The conditions of atoms with a word for `and` between them, after which lines may end. -/
inductive Conjunction : List Token → List Condition → Prop
  | single {tokens : List Token} {condition : Condition} (h : Atom tokens condition) :
    Conjunction tokens [condition]
  | and {tokens rest : List Token} {condition : Condition} {parts : List Condition} {word : String}
    (h : Atom tokens condition) (hword : word ∈ andWords) (count : Nat)
    (hrest : Conjunction rest parts) :
    Conjunction (tokens ++ .word word :: (feeds count ++ rest)) (condition :: parts)

/-- The conditions of conjunctions with a word for `or` between them, after which lines may end. -/
inductive Disjunction : List Token → List Condition → Prop
  | single {tokens : List Token} {parts : List Condition} (h : Conjunction tokens parts) :
    Disjunction tokens [allOf parts]
  | or {tokens rest : List Token} {parts others : List Condition} {word : String}
    (h : Conjunction tokens parts) (hword : word ∈ orWords) (count : Nat)
    (hrest : Disjunction rest others) :
    Disjunction (tokens ++ .word word :: (feeds count ++ rest)) (allOf parts :: others)

end

/-- The condition of a formula. -/
def Formula (tokens : List Token) (condition : Condition) : Prop :=
  ∃ parts, Disjunction tokens parts ∧ condition = anyOf parts

/-- The conditions of formulas on lines of their own. -/
inductive Lines : List Token → List Condition → Prop
  | single {tokens : List Token} {condition : Condition} (h : Formula tokens condition) :
    Lines tokens [condition]
  | line {tokens rest : List Token} {condition : Condition} {parts : List Condition}
    (h : Formula tokens condition) (count : Nat) (hrest : Lines rest parts) :
    Lines (tokens ++ (feeds (count + 1) ++ rest)) (condition :: parts)

/-- The conditions of a body: none where there is nothing but line feeds, and otherwise those of its
lines. -/
inductive Body : List Token → List Condition → Prop
  | blank (count : Nat) : Body (feeds count) []
  | lines {tokens : List Token} {parts : List Condition} (before after : Nat)
    (h : Lines tokens parts) : Body (feeds before ++ (tokens ++ feeds after)) parts

/-! ### How derivations begin -/

/-- Whether tokens begin with one that is no line feed. -/
def Leads (tokens : List Token) : Prop :=
  ∃ token rest, tokens = token :: rest ∧ token ≠ .newline

/-- What begins so does with more tokens after it. -/
theorem Leads.append {tokens : List Token} (h : Leads tokens) (rest : List Token) :
    Leads (tokens ++ rest) := by
  obtain ⟨token, more, rfl, htoken⟩ := h
  exact ⟨token, more ++ rest, rfl, htoken⟩

/-- Line feeds before such tokens are skipped. -/
theorem Leads.skipNewlines {tokens : List Token} (h : Leads tokens) (count : Nat) :
    skipNewlines (feeds count ++ tokens) = tokens := by
  obtain ⟨token, rest, rfl, htoken⟩ := h
  induction count with
  | zero =>
    refine skipNewlines.eq_2 _ fun more hmore => htoken ?_
    exact (List.cons.inj hmore).1
  | succ count ih => exact ih

/-- An atom is no blank line. -/
theorem Atom.leads {tokens : List Token} {condition : Condition} (h : Atom tokens condition) :
    Leads tokens := by
  cases h <;> exact ⟨_, _, rfl, Token.noConfusion⟩

/-- A conjunction is no blank line. -/
theorem Conjunction.leads {tokens : List Token} {parts : List Condition}
    (h : Conjunction tokens parts) : Leads tokens := by
  cases h with
  | single h => exact h.leads
  | and h => exact h.leads.append _

/-- A disjunction is no blank line. -/
theorem Disjunction.leads {tokens : List Token} {parts : List Condition}
    (h : Disjunction tokens parts) : Leads tokens := by
  cases h with
  | single h => exact h.leads
  | or h => exact h.leads.append _

/-- Lines do not begin with a blank one. -/
theorem Lines.leads {tokens : List Token} {parts : List Condition} (h : Lines tokens parts) :
    Leads tokens := by
  cases h with
  | single h =>
    obtain ⟨_, h, -⟩ := h
    exact h.leads
  | line h =>
    obtain ⟨_, h, -⟩ := h
    exact h.leads.append _

/-! ### How derivations end -/

/-- Whether tokens end with one that is no line feed. -/
def Trails (tokens : List Token) : Prop :=
  ∃ before token, tokens = before ++ [token] ∧ token ≠ .newline

/-- What ends so does with more tokens before it. -/
theorem Trails.append {tokens : List Token} (h : Trails tokens) (before : List Token) :
    Trails (before ++ tokens) := by
  obtain ⟨more, token, rfl, htoken⟩ := h
  exact ⟨before ++ more, token, by simp, htoken⟩

/-- What ends so does with one more token before it. -/
theorem Trails.cons {tokens : List Token} (h : Trails tokens) (token : Token) :
    Trails (token :: tokens) :=
  h.append [token]

/-- A single token that is no line feed ends so. -/
theorem trails_singleton {token : Token} (h : token ≠ .newline) : Trails [token] :=
  ⟨[], token, rfl, h⟩

/-- Values end with a word. -/
theorem Values.trails {tokens : List Token} {values : List String} (h : Values tokens values) :
    Trails tokens := by
  induction h with
  | @single words hne =>
    obtain ⟨before, word, rfl⟩ := List.eq_nil_or_concat words |>.resolve_left hne
    exact ⟨before.map .word, .word word, by simp, Token.noConfusion⟩
  | plus _ _ _ ih => exact (ih.cons _).append _

/-- An atom does not end with a line feed. -/
theorem Atom.trails {tokens : List Token} {condition : Condition} (h : Atom tokens condition) :
    Trails tokens := by
  have hclosing : Trails [.closing] := trails_singleton Token.noConfusion
  have hword (word : String) : Trails [.word word] := trails_singleton Token.noConfusion
  cases h with
  | parentheses before after => exact (((hclosing.append _).append _).append _).cons _
  | isEmpty => exact (hword _).cons _
  | nonEmpty => exact (hword _).cons _
  | equals _ hfound => exact (hfound.trails.cons _).cons _
  | contains => exact ((hword _).cons _).cons _

/-- A conjunction does not end with a line feed. -/
theorem Conjunction.trails {tokens : List Token} {parts : List Condition}
    (h : Conjunction tokens parts) : Trails tokens := by
  match h with
  | .single h => exact h.trails
  | .and _ _ _ h => exact ((h.trails.append _).cons _).append _

/-- A disjunction does not end with a line feed. -/
theorem Disjunction.trails {tokens : List Token} {parts : List Condition}
    (h : Disjunction tokens parts) : Trails tokens := by
  match h with
  | .single h => exact h.trails
  | .or _ _ _ h => exact ((h.trails.append _).cons _).append _

/-- Lines do not end with a blank one. -/
theorem Lines.trails {tokens : List Token} {parts : List Condition} (h : Lines tokens parts) :
    Trails tokens := by
  induction h with
  | single h =>
    obtain ⟨_, h, -⟩ := h
    exact h.trails
  | line _ _ _ ih => exact (ih.append _).append _

/-! ### Line feeds around a body -/

/-- A line with a body after its line feed is a body, with line feeds before it. -/
theorem Body.line {tokens rest : List Token} {condition : Condition}
    {parts : List Condition} (h : Body rest parts) (hformula : Formula tokens condition)
    (before : Nat) : Body (feeds before ++ (tokens ++ .newline :: rest)) (condition :: parts) := by
  cases h with
  | blank count => exact .lines before (count + 1) (.single hformula)
  | @lines inner _ count after hlines =>
    have hmore : Lines (tokens ++ (feeds (count + 1) ++ inner)) (condition :: parts) :=
      .line hformula count hlines
    have htokens : tokens ++ .newline :: (feeds count ++ (inner ++ feeds after)) =
        (tokens ++ (feeds (count + 1) ++ inner)) ++ feeds after := by
      simp [feeds, List.replicate_succ]
    rw [htokens]
    exact .lines before after hmore

/-- A line feed before a body does not belong to its lines. -/
theorem body_newline_cons_iff {tokens : List Token} {parts : List Condition} :
    Body (.newline :: tokens) parts ↔ Body tokens parts := by
  constructor
  · intro h
    generalize htokens : Token.newline :: tokens = all at h
    cases h with
    | blank count =>
      obtain ⟨count, rfl⟩ : ∃ c, count = c + 1 :=
        Nat.exists_eq_succ_of_ne_zero fun hzero => by simp [hzero, feeds] at htokens
      obtain rfl := (List.cons.inj htokens).2
      exact .blank count
    | @lines inner _ before after h =>
      cases before with
      | zero =>
        obtain ⟨token, rest, rfl, htoken⟩ := h.leads
        exact absurd (List.cons.inj htokens).1.symm htoken
      | succ before =>
        obtain rfl := (List.cons.inj htokens).2
        exact .lines before after h
  · intro h
    cases h with
    | blank count => exact .blank (count + 1)
    | lines before after h => exact .lines (before + 1) after h

/-- A line feed after a body does not belong to its lines. -/
theorem body_append_newline_iff {tokens : List Token} {parts : List Condition} :
    Body (tokens ++ [.newline]) parts ↔ Body tokens parts := by
  have hfeeds (count : Nat) : feeds (count + 1) = feeds count ++ [.newline] := List.replicate_succ'
  constructor
  · intro h
    generalize htokens : tokens ++ [Token.newline] = all at h
    cases h with
    | blank count =>
      cases count with
      | zero => simp [feeds] at htokens
      | succ count =>
        rw [hfeeds] at htokens
        rw [List.append_cancel_right htokens]
        exact .blank count
    | @lines inner _ before after h =>
      cases after with
      | zero =>
        obtain ⟨more, token, rfl, htoken⟩ := h.trails
        have hinner : feeds before ++ (more ++ [token] ++ feeds 0) =
            feeds before ++ more ++ [token] := by
          simp [feeds]
        rw [hinner] at htokens
        exact absurd (List.cons.inj (List.append_inj_right' htokens rfl)).1.symm htoken
      | succ after =>
        rw [hfeeds, ← List.append_assoc, ← List.append_assoc] at htokens
        rw [List.append_cancel_right htokens, List.append_assoc]
        exact .lines before after h
  · intro h
    cases h with
    | blank count =>
      rw [← hfeeds]
      exact .blank (count + 1)
    | lines before after h =>
      rw [List.append_assoc, List.append_assoc, ← hfeeds]
      exact .lines before (after + 1) h

/-- Line feeds around a body do not belong to its lines. -/
theorem body_feeds_append_feeds_iff {tokens : List Token} {parts : List Condition} {m n : Nat} :
    Body (feeds m ++ (tokens ++ feeds n)) parts ↔ Body tokens parts := by
  induction m with
  | zero =>
    induction n with
    | zero => simp [feeds]
    | succ n ih =>
      have hfeeds : feeds 0 ++ (tokens ++ feeds (n + 1)) =
          (feeds 0 ++ (tokens ++ feeds n)) ++ [.newline] := by
        simp [feeds, List.replicate_succ']
      rw [hfeeds, body_append_newline_iff, ih]
  | succ m ih =>
    have hfeeds : feeds (m + 1) ++ (tokens ++ feeds n) =
        .newline :: (feeds m ++ (tokens ++ feeds n)) := rfl
    rw [hfeeds, body_newline_cons_iff, ih]

end Grammar

/-- Whether a text states a condition: its tokens derive from the grammar, and the condition asks
for all that the lines do. -/
def States (text : String) (condition : Condition) : Prop :=
  ∃ tokens parts, Token.Spelled text.toList tokens ∧ Grammar.Body tokens parts ∧
    condition = allOf parts

end StateExplorer.Condition
