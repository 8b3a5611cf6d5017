/-!
# Classes of bytes

The named classes that patterns and sets of characters use, for bytes that are ASCII. Other bytes
belong to none.
-/

namespace StateExplorer.Shell

/-- A letter or digit. -/
def isAlnum (c : Char) : Bool := c.isAlphanum

/-- A mark that shows and is neither letter nor digit. -/
def isPunctuation (c : Char) : Bool :=
  0x21 ≤ c.toNat && c.toNat ≤ 0x7E && !c.isAlphanum

/-- A digit to the base of sixteen. -/
def isHexDigit (c : Char) : Bool :=
  c.isDigit || ('a' ≤ c && c ≤ 'f') || ('A' ≤ c && c ≤ 'F')

/-- The class of a name. -/
def charClass? (name : String) : Option (Char → Bool) :=
  match name with
  | "alnum" => some isAlnum
  | "alpha" => some Char.isAlpha
  | "blank" => some fun c => c == ' ' || c == '\t'
  | "cntrl" => some fun c => c.toNat < 0x20 || c.toNat == 0x7F
  | "digit" => some Char.isDigit
  | "graph" => some fun c => 0x21 ≤ c.toNat && c.toNat ≤ 0x7E
  | "lower" => some Char.isLower
  | "print" => some fun c => 0x20 ≤ c.toNat && c.toNat ≤ 0x7E
  | "punct" => some isPunctuation
  | "space" => some fun c => c == ' ' || (9 ≤ c.toNat && c.toNat ≤ 13)
  | "upper" => some Char.isUpper
  | "xdigit" => some isHexDigit
  | _ => none

/-- All bytes. -/
def allBytes : List Char := (List.range 256).map Char.ofNat

/-- The value of a digit to any base up to sixteen. -/
def digitOf? (c : Char) : Option Nat :=
  if c.isDigit then some (c.toNat - '0'.toNat)
  else if 'a' ≤ c && c ≤ 'f' then some (c.toNat - 'a'.toNat + 10)
  else if 'A' ≤ c && c ≤ 'F' then some (c.toNat - 'A'.toNat + 10)
  else none

/-- The value of the longest run of digits at the front of a text, how many there are, and the
rest. -/
def spanDigits (base : Nat) (text : List Char) : Nat × Nat × List Char :=
  let isDigit (c : Char) : Bool := (digitOf? c).any (· < base)
  let (digits, rest) := text.span isDigit
  (digits.foldl (fun n c => n * base + (digitOf? c).getD 0) 0, digits.length, rest)

/-- The number at the front of a text as programs usually read one: blanks, a sign, and digits to
the base that the first of them tell. Without digits the value is zero and nothing is used up;
values stay within 64 bits, and the flag tells whether they had to be cut. -/
def readInteger (text : List Char) : Int × Bool × List Char :=
  let start := text.dropWhile fun c => c == ' ' || (9 ≤ c.toNat && c.toNat ≤ 13)
  let (negative, body) := match start with
    | '-' :: rest => (true, rest)
    | '+' :: rest => (false, rest)
    | rest => (false, rest)
  let decimalOrOctal : Nat × Nat × List Char :=
    if body.head? == some '0' then spanDigits 8 body else spanDigits 10 body
  let (value, count, rest) := match body with
    | '0' :: x :: c :: _ =>
      if (x == 'x' || x == 'X') && isHexDigit c then spanDigits 16 (body.drop 2)
      else decimalOrOctal
    | _ => decimalOrOctal
  let limit : Nat := 0x8000000000000000
  if count == 0 then (0, false, text)
  else if negative then
    if limit < value then (-(limit : Int), true, rest) else (-(value : Int), false, rest)
  else if limit ≤ value then (limit - 1, true, rest)
  else (value, false, rest)

end StateExplorer.Shell
