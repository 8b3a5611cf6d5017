import Mathlib.Data.List.Induction
import StateExplorer.Proofs.Text.Names
import StateExplorer.Text.Decimal

/-!
# Numbers in decimal

A number is written in digits alone, so it comes out of trimming and cutting as it went in, and it
is read back if it fits a 64-bit word. It is read from other spellings as well: those with a plus
sign or with zeros in front.
-/

namespace StateExplorer.Text

/-- Every character of a number in decimal is a digit. -/
theorem isDigit_of_mem_decimal {n : Nat} {c : Char} (h : c ∈ decimal n) : c.isDigit = true :=
  Nat.isDigit_of_mem_toDigits (by decide) (by decide) h

/-- What is no digit is not in a number. -/
theorem not_mem_decimal {c : Char} (hc : c.isDigit = false) (n : Nat) : c ∉ decimal n := by
  intro hmem
  rw [isDigit_of_mem_decimal hmem] at hc
  cases hc

/-- No character of a number in decimal is blank. -/
theorem isBlank_of_mem_decimal {n : Nat} {c : Char} (h : c ∈ decimal n) : isBlank c = false :=
  isBlank_of_isNameChar (by simp [isNameChar, Char.isAlphanum, isDigit_of_mem_decimal h])

/-- A number has a digit. -/
theorem decimal_ne_nil (n : Nat) : decimal n ≠ [] := by
  simp [decimal]

/-- A number is read back if it fits a word. -/
theorem readNat?_decimal (n : Nat) :
    readNat? (decimal n) = if n ≤ maxWord then some n else none := by
  have hsign : ∀ rest, decimal n ≠ '+' :: rest := fun rest hrest =>
    not_mem_decimal (c := '+') (by decide) n (hrest ▸ List.mem_cons_self)
  rw [readNat?.eq_2 _ hsign, digits?_decimal]
  simp [Option.filter]

/-- A number is told by its digits. -/
theorem decimal_injective {m n : Nat} (h : decimal m = decimal n) : m = n := by
  have hdigits := congrArg digits? h
  rw [digits?_decimal, digits?_decimal] at hdigits
  exact Option.some.inj hdigits

/-- A number that is read fits a word. -/
theorem le_of_readNat?_eq_some {text : List Char} {n : Nat} (h : readNat? text = some n) :
    n ≤ maxWord := by
  simpa using (Option.filter_eq_some_iff.1 h).2

/-- A number other than zero is written without a leading zero. -/
theorem head?_decimal_ne {n : Nat} (h : n ≠ 0) : (decimal n).head? ≠ some '0' := by
  have hdigit : ∀ d < 10, d ≠ 0 → Nat.digitChar d ≠ '0' := by decide
  induction n using Nat.strongRecOn with
  | _ n ih =>
    rw [decimal]
    by_cases hn : n < 10
    · rw [Nat.toDigits_of_lt_base hn, List.head?_cons, ne_eq, Option.some.injEq]
      exact hdigit n hn h
    · have hfirst := ih (n / 10) (by omega) (by omega)
      rw [decimal] at hfirst
      rw [Nat.toDigits_of_base_le (by decide) (by omega), List.head?_append]
      cases hhead : (Nat.toDigits 10 (n / 10)).head? with
      | none => exact absurd (List.head?_eq_none_iff.1 hhead) Nat.toDigits_ne_nil
      | some d => simpa [hhead] using hfirst

/-- A number is written as its digits. -/
theorem toList_toString (n : Nat) : (toString n).toList = decimal n := by
  simp [decimal]

/-! ### Other spellings -/

/-- Whether a text is a number as it may be read: in decimal, after an optional plus sign and any
number of zeros. -/
def Spells (text : List Char) (n : Nat) : Prop :=
  ∃ sign zeros, (sign = [] ∨ sign = ['+']) ∧
    text = sign ++ (List.replicate zeros '0' ++ decimal n)

/-- A number in decimal is a spelling of it. -/
theorem spells_decimal (n : Nat) : Spells (decimal n) n :=
  ⟨[], 0, .inl rfl, rfl⟩

/-- A digit is written for the value it is read as. -/
theorem digitChar_of_isDigit {c : Char} (h : c.isDigit = true) :
    c.toNat - '0'.toNat < 10 ∧ Nat.digitChar (c.toNat - '0'.toNat) = c := by
  have hcode : 48 ≤ c.toNat ∧ c.toNat ≤ 57 := by
    obtain ⟨hzero, hnine⟩ := Bool.and_eq_true_iff.1 h
    exact ⟨of_decide_eq_true hzero, of_decide_eq_true hnine⟩
  have hzero : '0'.toNat = 48 := rfl
  have hsmall : c.toNat - '0'.toNat < 10 := by omega
  refine ⟨hsmall, Char.toNat_inj.1 ?_⟩
  rw [Nat.toNat_digitChar_of_lt_ten hsmall]
  omega

/-- A run of digits is the number it is read as, after some zeros. -/
theorem exists_zeros_of_isDigit {text : List Char} (hne : text ≠ [])
    (h : ∀ c ∈ text, c.isDigit = true) :
    ∃ zeros, text = List.replicate zeros '0' ++ decimal (Nat.ofDigitChars 10 text 0) := by
  induction text using List.reverseRecOn with
  | nil => exact absurd rfl hne
  | append_singleton start last ih =>
    obtain ⟨hsmall, hlast⟩ := digitChar_of_isDigit (h last (by simp))
    rw [Nat.ofDigitChars_append, Nat.ofDigitChars_cons, Nat.ofDigitChars_nil]
    -- The last digit stands alone if the number before it is zero.
    have halone : decimal (last.toNat - '0'.toNat) = [last] := by
      rw [decimal, Nat.toDigits_of_lt_base hsmall, hlast]
    rcases eq_or_ne start [] with rfl | hstart
    · refine ⟨0, ?_⟩
      rw [Nat.ofDigitChars_nil, Nat.mul_zero, Nat.zero_add, halone]
      rfl
    · obtain ⟨zeros, hzeros⟩ := ih hstart fun c hc => h c (List.mem_append_left _ hc)
      rcases Nat.eq_zero_or_pos (Nat.ofDigitChars 10 start 0) with hzero | hpos
      · rw [hzero] at hzeros ⊢
        refine ⟨zeros + 1, ?_⟩
        rw [Nat.mul_zero, Nat.zero_add, halone, hzeros, List.replicate_succ']
        rfl
      · refine ⟨zeros, ?_⟩
        have hdecimal := Nat.toDigits_append_toDigits (by decide : 1 < 10) hpos hsmall
        rw [← decimal, ← decimal, ← decimal, halone] at hdecimal
        rw [← hdecimal, ← List.append_assoc, ← hzeros]

/-- Digits are read as the number that they are after some zeros. -/
theorem digits?_eq_some_iff {text : List Char} {n : Nat} :
    digits? text = some n ↔ ∃ zeros, text = List.replicate zeros '0' ++ decimal n := by
  unfold digits?
  constructor
  · intro h
    split at h
    · rename_i hdigits
      obtain rfl := Option.some.inj h
      exact exists_zeros_of_isDigit hdigits.1 (List.all_eq_true.1 hdigits.2)
    · cases h
  · rintro ⟨zeros, rfl⟩
    have hall : (List.replicate zeros '0' ++ decimal n).all Char.isDigit = true := by
      rw [List.all_eq_true]
      intro c hc
      rcases List.mem_append.1 hc with hc | hc
      · obtain rfl := List.eq_of_mem_replicate hc
        decide
      · exact isDigit_of_mem_decimal hc
    have hvalue (zeros : Nat) : Nat.ofDigitChars 10 (List.replicate zeros '0') 0 = 0 := by
      induction zeros with
      | zero => rfl
      | succ zeros ih =>
        rw [List.replicate_succ, Nat.ofDigitChars_cons]
        exact ih
    rw [if_pos ⟨List.append_ne_nil_of_right_ne_nil _ (decimal_ne_nil n), hall⟩,
      Nat.ofDigitChars_append, hvalue, decimal, Nat.ofDigitChars_toDigits (by decide) (by decide)]

/-- A number is read from its spellings, if it fits a word. -/
theorem readNat?_eq_some_iff {text : List Char} {n : Nat} :
    readNat? text = some n ↔ Spells text n ∧ n ≤ maxWord := by
  have hfilter (digits : List Char) : (digits? digits).filter (· ≤ maxWord) = some n ↔
      (∃ zeros, digits = List.replicate zeros '0' ++ decimal n) ∧ n ≤ maxWord := by
    rw [Option.filter_eq_some_iff, decide_eq_true_eq, digits?_eq_some_iff]
  have hnumber (zeros : Nat) (rest : List Char) :
      '+' :: rest ≠ List.replicate zeros '0' ++ decimal n := by
    intro hrest
    have hplus : '+' ∈ List.replicate zeros '0' ++ decimal n := hrest ▸ List.mem_cons_self
    rcases List.mem_append.1 hplus with hplus | hplus
    · exact absurd (List.eq_of_mem_replicate hplus) (by decide)
    · exact not_mem_decimal (by decide) n hplus
  by_cases hsigned : ∃ rest, text = '+' :: rest
  · obtain ⟨rest, rfl⟩ := hsigned
    rw [readNat?, hfilter]
    refine and_congr_left fun _ => ⟨?_, ?_⟩
    · rintro ⟨zeros, rfl⟩
      exact ⟨['+'], zeros, .inr rfl, rfl⟩
    · rintro ⟨sign, zeros, rfl | rfl, htext⟩
      · exact absurd htext (hnumber zeros rest)
      · exact ⟨zeros, (List.cons.inj htext).2⟩
  · rw [readNat?.eq_2 text fun rest hrest => hsigned ⟨rest, hrest⟩, hfilter]
    refine and_congr_left fun _ => ⟨?_, ?_⟩
    · rintro ⟨zeros, rfl⟩
      exact ⟨[], zeros, .inl rfl, rfl⟩
    · rintro ⟨sign, zeros, rfl | rfl, htext⟩
      · exact ⟨zeros, htext⟩
      · exact absurd ⟨_, htext⟩ hsigned

/-- No other character than a sign is in a spelling beside the digits. -/
theorem Spells.not_mem {text : List Char} {n : Nat} (h : Spells text n) {c : Char}
    (hdigit : c.isDigit = false) (hplus : c ≠ '+') : c ∉ text := by
  obtain ⟨sign, zeros, hsign, rfl⟩ := h
  rw [List.mem_append, List.mem_append, not_or, not_or]
  refine ⟨?_, ?_, not_mem_decimal hdigit n⟩
  · rcases hsign with rfl | rfl
    · exact List.not_mem_nil
    · simpa using hplus
  · intro hzero
    obtain rfl := List.eq_of_mem_replicate hzero
    exact absurd hdigit (by decide)

end StateExplorer.Text
