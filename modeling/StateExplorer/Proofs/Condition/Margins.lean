import StateExplorer.Proofs.Condition.Parsing

/-!
# Blanks around a condition

Blanks before or after a text do not change whether it states a condition, nor which one. The line
feeds among them become tokens, which do not belong to the lines of a body.
-/

namespace StateExplorer.Condition

/-- Blanks before a text leave its tokens, with some line feeds before them. -/
theorem Token.Spelled.exists_blanks_append {text blanks : List Char} {tokens : List Token}
    (h : Spelled text tokens) (hblanks : ∀ c ∈ blanks, Text.isBlank c = true) :
    ∃ count, Spelled (blanks ++ text) (feeds count ++ tokens) := by
  induction blanks with
  | nil => exact ⟨0, h⟩
  | cons c rest ih =>
    obtain ⟨hblank, hrest⟩ := List.forall_mem_cons.1 hblanks
    obtain ⟨count, hcount⟩ := ih hrest
    by_cases hfeed : c = '\n'
    · subst hfeed
      exact ⟨count + 1, .mark (by decide) hcount⟩
    · exact ⟨count, hcount.blank hblank hfeed⟩

/-- Blanks after a text leave its tokens, with some line feeds after them. -/
theorem Token.Spelled.exists_append_blanks {text blanks : List Char} {tokens : List Token}
    (h : Spelled text tokens) (hblanks : ∀ c ∈ blanks, Text.isBlank c = true) :
    ∃ count, Spelled (text ++ blanks) (tokens ++ feeds count) := by
  obtain ⟨count, hcount⟩ := Spelled.nil.exists_blanks_append hblanks
  rw [List.append_nil, List.append_nil] at hcount
  refine ⟨count, h.append hcount fun c hc => ?_⟩
  simp [isLetter, hblanks c (List.mem_of_mem_head? hc)]

/-- Of the tokens of a text only those that derive matter. -/
theorem states_iff_body {text : String} {tokens : List Token}
    (h : Token.Spelled text.toList tokens) {condition : Condition} :
    States text condition ↔ ∃ parts, Grammar.Body tokens parts ∧ condition = allOf parts := by
  constructor
  · rintro ⟨others, parts, hothers, hbody, heq⟩
    have hsame : others = tokens :=
      (Token.spelled_iff.1 hothers).symm.trans (Token.spelled_iff.1 h)
    exact ⟨parts, hsame ▸ hbody, heq⟩
  · rintro ⟨parts, hbody, heq⟩
    exact ⟨tokens, parts, h, hbody, heq⟩

/-- Blanks around a text change only what is wrong with it, if it states no condition. -/
theorem toOption_parse_append {before after : List Char}
    (hbefore : ∀ c ∈ before, Text.isBlank c = true) (hafter : ∀ c ∈ after, Text.isBlank c = true)
    (text : List Char) :
    (parse (String.ofList (before ++ text ++ after))).toOption =
      (parse (String.ofList text)).toOption := by
  have hspelled : Token.Spelled (String.ofList text).toList (Token.scanFrom [] text) := by
    rw [String.toList_ofList]
    exact Token.spelled_iff.2 rfl
  obtain ⟨last, hlast⟩ := hspelled.exists_append_blanks hafter
  obtain ⟨first, hfirst⟩ := hlast.exists_blanks_append hbefore
  have hwide : Token.Spelled (String.ofList (before ++ text ++ after)).toList
      (feeds first ++ (Token.scanFrom [] text ++ feeds last)) := by
    rw [String.toList_ofList] at hfirst ⊢
    rwa [List.append_assoc]
  refine Option.ext fun condition => ?_
  rw [toOption_eq_some_iff, toOption_eq_some_iff, parse_eq_ok_iff, parse_eq_ok_iff,
    states_iff_body hwide, states_iff_body hspelled]
  simp only [Grammar.body_feeds_append_feeds_iff]

end StateExplorer.Condition
