/-!
# Blank characters, lines and words

A character is blank when it has the Unicode property White_Space. Trimming removes blanks at
both ends of a text, a word is a maximal run of characters that are not blank, and a line ends
at a line feed, which takes one carriage return before it along.
-/

namespace StateExplorer.Text

/-- The 25 characters with the property White_Space. -/
def isBlank (c : Char) : Bool :=
  let n := c.toNat
  (9 ≤ n && n ≤ 13) || n == 0x20 || n == 0x85 || n == 0xA0 || n == 0x1680 ||
    (0x2000 ≤ n && n ≤ 0x200A) || n == 0x2028 || n == 0x2029 || n == 0x202F || n == 0x205F ||
    n == 0x3000

/-- Each whitespace character that `Char` knows is blank. -/
theorem isBlank_of_isWhitespace {c : Char} (h : c.isWhitespace = true) : isBlank c = true := by
  simp only [Char.isWhitespace, Bool.or_eq_true, decide_eq_true_eq] at h
  rcases h with ((h | h) | h) | h <;> subst h <;> decide

/-- The text without blanks at its start. -/
def trimStart (text : List Char) : List Char :=
  text.dropWhile isBlank

/-- The text without blanks at its end. -/
def trimEnd (text : List Char) : List Char :=
  (text.reverse.dropWhile isBlank).reverse

/-- The text without blanks at either end. -/
def trim (text : List Char) : List Char :=
  trimEnd (trimStart text)

/-- The first word of a text, if it has one. -/
def firstWord? (text : List Char) : Option (List Char) :=
  match (trimStart text).takeWhile (!isBlank ·) with
  | [] => none
  | word => some word

/-- The lines of a text without their ends; text after the last line feed is a line if not empty. -/
def lines : List Char → List (List Char)
  | [] => []
  | '\n' :: rest => [] :: lines rest
  | '\r' :: '\n' :: rest => [] :: lines rest
  | c :: rest =>
    match lines rest with
    | [] => [[c]]
    | line :: more => (c :: line) :: more

end StateExplorer.Text
