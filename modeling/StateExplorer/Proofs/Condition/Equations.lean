import StateExplorer.Proofs.Condition.Parsing
import StateExplorer.State.Listing

/-!
# Reading equations back

The equations that a state is written as are read back as one equation for each field, with the
values of the field as a set, if every value is a single word that is not taken for anything else.
A union of values is spelled by their words with plus signs between them, an empty relation by words
that together stand for nothing, and each equation is a formula on a line of its own.
-/

namespace StateExplorer

namespace Condition

open Text

/-- Whether a value is read back from an equation as it was written: it is a single word, neither
joins conditions nor stands for an empty relation, and opens or closes no block. -/
structure Word (value : String) : Prop where
  letters : ∀ c ∈ value.toList, Token.isLetter c = true
  ne_nil : value.toList ≠ []
  not_joining : value ∉ orWords ++ andWords
  not_none : isNone value = false
  not_brace : ∀ c ∈ value.toList, c ≠ '\x7b' ∧ c ≠ '\x7d'

/-- A plain word is a single word, and not taken for anything else. -/
theorem word_of_isPlain {value : String} (h : isPlain value = true) : Word value := by
  have hchars := isNameChar_of_isName (isName_of_isPlain h)
  have hreserved := not_mem_reservedWords h
  refine ⟨fun c hc => Token.isLetter_of_isNameChar (hchars c hc),
    ne_nil_of_isName (isName_of_isPlain h), fun hmem => ?_, ?_, fun c hc =>
      ⟨ne_of_isNameChar (hchars c hc) (by decide), ne_of_isNameChar (hchars c hc) (by decide)⟩⟩
  · simp only [orWords, andWords, List.cons_append, List.nil_append, List.mem_cons,
      List.not_mem_nil, or_false] at hmem
    rcases hmem with rfl | rfl | rfl | rfl
    · exact hreserved (by decide)
    · exact absurd (isName_of_isPlain h) (by decide)
    · exact hreserved (by decide)
    · exact absurd (isName_of_isPlain h) (by decide)
  · have hdash : '-' ∉ value.toList := fun hmem =>
      ne_of_isNameChar (hchars '-' hmem) (by decide) rfl
    have hnone : value.toList ≠ ['n', 'o', 'n', 'e'] := by
      intro htext
      have hvalue : value = "none" := by
        rw [← String.toList_inj, htext]
        rfl
      exact hreserved (hvalue ▸ by decide)
    rw [isNone, columns_eq_singleton hdash]
    simpa using hnone

end Condition

/-- Whether a state has exactly the fields of a schema, and in them nothing but values that are
read back from equations. -/
structure State.Fits (schema : Schema) (state : State) : Prop where
  fields : ∀ field, state.hasField field = true ↔ field ∈ schema.names
  words : ∀ field values, state.values? field = some values → ∀ v ∈ values, Condition.Word v

/-- A state that fits has no other fields. -/
theorem State.Fits.mem_names {schema : Schema} {state : State} (h : state.Fits schema)
    {field : String} {values : List String} (hvalues : state.values? field = some values) :
    field ∈ schema.names := by
  refine (h.fields field).1 ?_
  rw [hasField, NameMap.contains, show state.fields.get? field = some values from hvalues]
  rfl

namespace Condition

open Text Grammar

/-! ### Words and spaces -/

/-- Letters are spelled by their word. -/
theorem Token.spelled_word {word : String} (hne : word.toList ≠ [])
    (h : ∀ c ∈ word.toList, isLetter c = true) : Spelled word.toList [.word word] := by
  have hword : Spelled (word.toList ++ []) [.word (String.ofList word.toList)] :=
    .word hne h (by simp) .nil
  rwa [List.append_nil, String.ofList_toList] at hword

/-- A space between texts is no token. -/
theorem Token.Spelled.append_space {text more : List Char} {tokens others : List Token}
    (h : Spelled text tokens) (hmore : Spelled more others) :
    Spelled (text ++ ' ' :: more) (tokens ++ others) :=
  h.append (.blank (by decide) (by decide) hmore) (by simp [isLetter, isBlank])

/-! ### Equations -/

/-- A union lists its values. -/
theorem exists_union {values : List String} (hne : values ≠ []) (h : ∀ v ∈ values, Word v) :
    ∃ tokens, Token.Spelled (" + ".intercalate values).toList tokens ∧ Values tokens values := by
  match values with
  | [value] =>
    have hword := h value List.mem_cons_self
    have hvalues : Values [.word value] [String.join [value]] :=
      .single (List.cons_ne_nil value []) (List.forall_mem_singleton.2 hword.not_joining)
    refine ⟨_, ?_, by simpa using hvalues⟩
    simpa using Token.spelled_word hword.ne_nil hword.letters
  | value :: next :: rest =>
    have hword := h value List.mem_cons_self
    obtain ⟨tokens, hspelled, hmore⟩ :=
      exists_union (List.cons_ne_nil next rest) fun v hv => h v (List.mem_cons_of_mem _ hv)
    have hvalues : Values ([.word value] ++ .plus :: tokens) (String.join [value] :: next :: rest) :=
      .plus (List.cons_ne_nil value []) (List.forall_mem_singleton.2 hword.not_joining) hmore
    have hplus : Token.Spelled ('+' :: ' ' :: (" + ".intercalate (next :: rest)).toList)
        (.plus :: tokens) := .mark (by decide) (.blank (by decide) (by decide) hspelled)
    refine ⟨_, ?_, by simpa using hvalues⟩
    have htext : (" + ".intercalate (value :: next :: rest)).toList =
        value.toList ++ ' ' :: '+' :: ' ' :: (" + ".intercalate (next :: rest)).toList := by
      simp [String.intercalate_cons_cons]
    rw [htext]
    exact (Token.spelled_word hword.ne_nil hword.letters).append_space hplus

/-- An empty relation lists one value, which stands for nothing. -/
theorem exists_void (columns : Nat) :
    ∃ tokens value, Token.Spelled (" -> ".intercalate (List.replicate (columns + 1) "none")).toList
      tokens ∧ Values tokens [value] ∧ IsVoid value := by
  have hnone : Token.Spelled "none".toList [.word "none"] :=
    Token.spelled_word (by decide) fun _ => of_mem_of_all (by decide)
  have harrow : Token.Spelled "->".toList [.word "->"] :=
    Token.spelled_word (by decide) fun _ => of_mem_of_all (by decide)
  obtain ⟨words, hne, hwords, htokens, hvalue⟩ : ∃ words : List String, words ≠ [] ∧
      (∀ w ∈ words, w ∉ orWords ++ andWords) ∧
      Token.Spelled (" -> ".intercalate (List.replicate (columns + 1) "none")).toList
        (words.map .word) ∧
      (String.join words).toList =
        ['-', '>'].intercalate (List.replicate (columns + 1) "none".toList) := by
    induction columns with
    | zero => exact ⟨["none"], by decide, by decide, hnone, rfl⟩
    | succ columns ih =>
      obtain ⟨words, -, hwords, htokens, hvalue⟩ := ih
      have hboth : ∀ w ∈ ["none", "->"], w ∉ orWords ++ andWords := by decide
      refine ⟨["none", "->"] ++ words, by simp, fun w hw => ?_, ?_, ?_⟩
      · exact (List.mem_append.1 hw).elim (hboth w) (hwords w)
      · have htext : (" -> ".intercalate (List.replicate (columns + 1 + 1) "none")).toList =
            "none".toList ++ ' ' :: ("->".toList ++ ' ' ::
              (" -> ".intercalate (List.replicate (columns + 1) "none")).toList) := by
          rw [List.replicate_succ, List.replicate_succ, String.intercalate_cons_cons,
            ← List.replicate_succ]
          simp
        rw [htext]
        exact hnone.append_space (harrow.append_space htokens)
      · rw [List.replicate_succ, List.replicate_succ, List.intercalate_cons_cons,
          ← List.replicate_succ, ← hvalue]
        simp
  exact ⟨_, _, htokens, .single hne hwords, columns, hvalue⟩

/-- A term lists the values that it is written for, and nothing else but what stands for nothing. -/
theorem exists_term (schema : Schema) (name : String) {values : List String}
    (h : ∀ v ∈ values, Word v) :
    ∃ tokens found, Token.Spelled (State.valueTerm schema name values).toList tokens ∧
      Values tokens found ∧ ∀ v, v ∈ values ↔ v ∈ found ∧ ¬IsVoid v := by
  match values with
  | [] =>
    obtain ⟨columns, hcolumns⟩ : ∃ columns, State.valueTerm schema name [] =
        " -> ".intercalate (List.replicate (columns + 1) "none") := by
      rw [State.valueTerm]
      cases schema.field? name with
      | none => exact ⟨0, rfl⟩
      | some field =>
        have hpositive : max field.arity 1 - 1 + 1 = max field.arity 1 := by omega
        exact ⟨max field.arity 1 - 1, by rw [hpositive]; rfl⟩
    obtain ⟨tokens, value, hspelled, hvalues, hvoid⟩ := exists_void columns
    exact ⟨tokens, [value], hcolumns ▸ hspelled, hvalues, by simp [hvoid]⟩
  | value :: rest =>
    obtain ⟨tokens, hspelled, hvalues⟩ := exists_union (List.cons_ne_nil value rest) h
    refine ⟨tokens, _, hspelled, hvalues, fun v => (and_iff_left_of_imp fun hv => ?_).symm⟩
    rw [← isNone_iff, (h v hv).not_none]
    exact Bool.false_ne_true

/-- An equation is a formula. -/
theorem exists_equation (schema : Schema) {entry : String × List String}
    (hname : isName entry.1 = true) (h : ∀ v ∈ entry.2, Word v) :
    ∃ tokens, Token.Spelled
        ("s." ++ entry.1 ++ " = " ++ State.valueTerm schema entry.1 entry.2).toList tokens ∧
      Formula tokens (.equals entry.1 (valueSet entry.2)) := by
  obtain ⟨tokens, found, hspelled, hvalues, hfound⟩ := exists_term schema entry.1 h
  have hword : Token.Spelled ("s." ++ entry.1).toList [.word ("s." ++ entry.1)] := by
    refine Token.spelled_word (by simp) fun c hc => ?_
    rw [String.toList_append] at hc
    rcases List.mem_append.1 hc with hc | hc
    · exact of_mem_of_all (by decide) hc
    · exact Token.isLetter_of_isNameChar (isNameChar_of_isName hname c hc)
  have hequals : Token.Spelled ('=' :: ' ' :: (State.valueTerm schema entry.1 entry.2).toList)
      (.equals :: tokens) := .mark (by decide) (.blank (by decide) (by decide) hspelled)
  have hfield : NamesField ("s." ++ entry.1) entry.1 :=
    ⟨fun hempty => ne_nil_of_isName hname (by rw [hempty]; rfl), rfl⟩
  have hatom : Atom (.word ("s." ++ entry.1) :: .equals :: tokens)
      (.equals entry.1 (valueSet entry.2)) :=
    .equals hfield hvalues (valueSet_strict _) fun v => mem_valueSet.trans (hfound v)
  refine ⟨_, ?_, _, .single (.single hatom), rfl⟩
  have htext : ("s." ++ entry.1 ++ " = " ++ State.valueTerm schema entry.1 entry.2).toList =
      ("s." ++ entry.1).toList ++ ' ' :: '=' :: ' ' ::
        (State.valueTerm schema entry.1 entry.2).toList := by
    simp
  rw [htext]
  exact hword.append_space hequals

/-- Equations on lines of their own are a body. -/
theorem exists_equations (schema : Schema) (entries : List (String × List String))
    (h : ∀ e ∈ entries, isName e.1 = true ∧ ∀ v ∈ e.2, Word v) :
    ∃ tokens, Token.Spelled (String.join (entries.map fun (name, values) =>
        "\ts." ++ name ++ " = " ++ State.valueTerm schema name values ++ "\n")).toList tokens ∧
      Body tokens (entries.map fun e => .equals e.1 (valueSet e.2)) := by
  induction entries with
  | nil => exact ⟨[], .nil, .blank 0⟩
  | cons entry rest ih =>
    obtain ⟨⟨hname, hwords⟩, hrest⟩ := List.forall_mem_cons.1 h
    obtain ⟨others, hothers, hbody⟩ := ih hrest
    obtain ⟨tokens, hspelled, hformula⟩ := exists_equation schema hname hwords
    refine ⟨_, ?_, hbody.line hformula 0⟩
    rw [List.map_cons, String.join_cons, String.toList_append]
    have htext : ("\ts." ++ entry.1 ++ " = " ++ State.valueTerm schema entry.1 entry.2 ++
        "\n").toList = '\t' :: (("s." ++ entry.1 ++ " = " ++
          State.valueTerm schema entry.1 entry.2).toList ++ ['\n']) := by
      simp
    rw [htext, List.cons_append, List.append_assoc]
    exact .blank (by decide) (by decide) (hspelled.append_mark (by decide) hothers)

/-- The equations of a state that fits are read back as one equation for each field. -/
theorem parse_equations {schema : Schema} {state : State}
    (hschema : ∀ name ∈ schema.names, Text.isName name = true) (hfits : state.Fits schema) :
    parse (String.ofList ('\n' :: (state.equations schema).toList)) =
      .ok (allOf (state.fields.entries.map fun e => .equals e.1 (valueSet e.2))) := by
  obtain ⟨tokens, hspelled, hbody⟩ := exists_equations schema state.fields.entries fun e he =>
    have hvalues : state.values? e.1 = some e.2 := NameMap.mem_entries_iff.1 he
    ⟨hschema e.1 (hfits.mem_names hvalues), hfits.words e.1 e.2 hvalues⟩
  refine parse_eq_ok_iff.2 ⟨_, _, ?_, body_newline_cons_iff.2 hbody, rfl⟩
  rw [String.toList_ofList]
  exact .mark (by decide) hspelled

end Condition

end StateExplorer
