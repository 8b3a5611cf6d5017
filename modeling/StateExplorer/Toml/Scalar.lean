import StateExplorer.Datum.Basic
import StateExplorer.Toml.Lexical

/-!
# Numbers, dates and truth values of TOML

All of these are words: runs of letters, digits and a few marks. A word is a truth value, an
integer of 64 bits with sign, a float, or a date or time. Dates are checked against the calendar.
They are read as a record with one text, since nothing here asks for a date.
-/

namespace StateExplorer.Toml

/-- A character of a word. -/
def isWordChar (c : Char) : Bool :=
  isKeyChar c || c == '+' || c == '.' || c == ':'

/-- Whether digits are there and underscores stand only between them. -/
def isGrouped (isDigit : Char → Bool) : List Char → Bool
  | [] => false
  | [c] => isDigit c
  | c :: '_' :: rest => isDigit c && isGrouped isDigit rest
  | c :: rest => isDigit c && isGrouped isDigit rest

/-- The characters other than underscores. -/
def ungroup (text : List Char) : List Char :=
  text.filter (· != '_')

/-- A sign and what follows it; without a sign the number is positive. -/
def splitSign : List Char → Bool × List Char
  | '-' :: rest => (true, rest)
  | '+' :: rest => (false, rest)
  | text => (false, text)

/-- Whether a whole number is written without a leading zero. -/
def isWhole (text : List Char) : Bool :=
  isGrouped Char.isDigit text && (text.length == 1 || text.head? != some '0')

/-- The size of the least integer that 64 bits with sign hold; the greatest is one less. -/
def integerLimit : Nat := 0x8000000000000000

/-- An integer, if 64 bits with sign hold it. -/
def integer (negative : Bool) (n : Nat) : Option Datum :=
  if negative && n != 0 then
    if n ≤ integerLimit then some (.number ("-" ++ toString n)) else none
  else if n < integerLimit then some (.ofNat n) else none

/-- The integer that digits in a base stand for. -/
def basedInteger? (base : Nat) (digits : List Char) : Option Datum := do
  if isGrouped (fun c => (digitValue? base c).isSome) digits then
    integer false (← digitsValue? base (ungroup digits))
  else none

/-- The integer that a word stands for. -/
def integer? (word : List Char) : Option Datum :=
  match word with
  | '0' :: 'x' :: digits => basedInteger? 16 digits
  | '0' :: 'o' :: digits => basedInteger? 8 digits
  | '0' :: 'b' :: digits => basedInteger? 2 digits
  | _ => do
    let (negative, digits) := splitSign word
    if isWhole digits then integer negative (← digitsValue? 10 (ungroup digits)) else none

/-- Whether digits times a power of ten are beyond the largest double. -/
def isBeyondDouble (digits : Nat) (exponent : Int) : Bool :=
  let places : Int := (toString digits).length + exponent
  if digits = 0 || places < 309 then false
  else if places > 309 then true
  else
    let limit := Nat.pow 2 1024 - Nat.pow 2 970
    if exponent < 0 then limit * Nat.pow 10 exponent.natAbs ≤ digits
    else limit ≤ digits * Nat.pow 10 exponent.natAbs

/-- The exponent that follows its mark. -/
def exponent? (text : List Char) : Option Int := do
  let (negative, digits) := splitSign text
  if isGrouped Char.isDigit digits then
    let n ← digitsValue? 10 (ungroup digits)
    return if negative then -n else n
  else none

/-- The float that a word stands for. A positive one must not be beyond the largest double. -/
def float? (word : List Char) : Option Datum := do
  let found := Datum.number (String.ofList word)
  let (negative, unsigned) := splitSign word
  if unsigned = ['i', 'n', 'f'] || unsigned = ['n', 'a', 'n'] then
    return .number ("." ++ String.ofList word)
  let (mantissa, tail) := unsigned.span fun c => c != 'e' && c != 'E'
  let exponent ← match tail with
    | [] => some 0
    | _ :: text => exponent? text
  let (whole, fraction) := mantissa.span (· != '.')
  let decimals ← match fraction, tail with
    | [], [] => none
    | [], _ => some []
    | _ :: digits, _ => if isGrouped Char.isDigit digits then some (ungroup digits) else none
  if !isWhole whole then none
  let digits ← digitsValue? 10 (ungroup whole ++ decimals)
  if !negative && isBeyondDouble digits (exponent - decimals.length) then none
  return found

/-- Reads a number of exactly so many digits, within bounds. -/
def digitsWithin (count low high : Nat) : Reader Nat := fun text => do
  let digits := text.take count
  if digits.length = count && digits.all Char.isDigit then
    let n ← digitsValue? 10 digits
    if low ≤ n && n ≤ high then some (n, text.drop count) else none
  else none

/-- The characters after a certain one. -/
def expect (c : Char) : List Char → Option (List Char)
  | d :: rest => if c = d then some rest else none
  | [] => none

/-- Whether a year has a leap day. -/
def isLeapYear (year : Nat) : Bool :=
  year % 4 == 0 && (year % 100 != 0 || year % 400 == 0)

/-- How many days a month has. -/
def daysIn (year month : Nat) : Nat :=
  if month = 2 then (if isLeapYear year then 29 else 28)
  else if month = 4 || month = 6 || month = 9 || month = 11 then 30
  else 31

/-- The characters after a date of the calendar. -/
def skipDate (text : List Char) : Option (List Char) := do
  let (year, rest) ← digitsWithin 4 0 9999 text
  let (month, rest) ← digitsWithin 2 1 12 (← expect '-' rest)
  let (_, rest) ← digitsWithin 2 1 (daysIn year month) (← expect '-' rest)
  return rest

/-- The characters after a time of the day, which may have a leap second. -/
def skipTime (text : List Char) : Option (List Char) := do
  let (_, rest) ← digitsWithin 2 0 23 text
  let (_, rest) ← digitsWithin 2 0 59 (← expect ':' rest)
  let (_, rest) ← digitsWithin 2 0 60 (← expect ':' rest)
  match rest with
  | '.' :: d :: more => if d.isDigit then return more.dropWhile Char.isDigit else none
  | _ => return rest

/-- The characters after an offset from universal time, which may be missing. -/
def skipOffset (text : List Char) : Option (List Char) :=
  match text with
  | [] => some []
  | c :: rest =>
    if c = 'Z' || c = 'z' then some rest
    else if c = '+' || c = '-' then do
      let (_, rest) ← digitsWithin 2 0 23 rest
      let (_, rest) ← digitsWithin 2 0 59 (← expect ':' rest)
      return rest
    else none

/-- Whether a word is a date. -/
def isDate (word : List Char) : Bool :=
  skipDate word == some []

/-- Whether a word is a time with an offset or none. -/
def isTimeOfDate (word : List Char) : Bool :=
  (skipTime word >>= skipOffset) == some []

/-- Whether a word is a date, a time, or a date and a time with a letter between them. -/
def isMoment (word : List Char) : Bool :=
  skipTime word == some [] || isDate word ||
    match skipDate word with
    | some (c :: time) => (c == 'T' || c == 't') && isTimeOfDate time
    | _ => false

/-- A date or time as data. -/
def moment (word : List Char) : Datum :=
  .ofEntries [("datetime", .ofString (String.ofList word))]

/-- The value that a word stands for. -/
def word? (word : List Char) : Option Datum :=
  if word = ['t', 'r', 'u', 'e'] then some (.flag true)
  else if word = ['f', 'a', 'l', 's', 'e'] then some (.flag false)
  else if isMoment word then some (moment word)
  else (integer? word).or (float? word)

/-- Reads a word, or a date and a time with one blank between them. -/
def scalar : Reader Datum := fun text => do
  let (word, rest) := text.span isWordChar
  match rest with
  | ' ' :: c :: more =>
    if isWordChar c && isDate word then
      let (time, rest) := (c :: more).span isWordChar
      if isTimeOfDate time then some (moment (word ++ ' ' :: time), rest) else none
    else return (← word? word, rest)
  | _ => return (← word? word, rest)

end StateExplorer.Toml
