/-!
# Natural numbers in decimal

Numbers are written without leading zeros. Reading is more generous: a leading plus sign and
leading zeros are allowed, and a number that does not fit a 64-bit word is refused.
-/

namespace StateExplorer.Text

/-- The largest number a 64-bit word holds. -/
def maxWord : Nat := 0xFFFFFFFFFFFFFFFF

/-- The value of a non-empty run of decimal digits. -/
def digits? (text : List Char) : Option Nat :=
  if text ≠ [] ∧ text.all Char.isDigit then some (Nat.ofDigitChars 10 text 0) else none

/-- Digits after an optional plus sign, with a value that fits a 64-bit word. -/
def readNat? (text : List Char) : Option Nat :=
  let digits := match text with
    | '+' :: rest => rest
    | _ => text
  (digits? digits).filter (· ≤ maxWord)

/-- The characters of a number in decimal. -/
def decimal (n : Nat) : List Char :=
  Nat.toDigits 10 n

/-- What is written in decimal reads back. -/
theorem digits?_decimal (n : Nat) : digits? (decimal n) = some n := by
  have hall : ∀ c ∈ Nat.toDigits 10 n, c.isDigit = true := fun c hc =>
    Nat.isDigit_of_mem_toDigits (by decide) (by decide) hc
  simpa [digits?, decimal, Nat.ofDigitChars_toDigits] using hall

end StateExplorer.Text
