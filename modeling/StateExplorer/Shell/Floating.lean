import StateExplorer.Shell.CharClass

/-!
# Numbers with a point

A number is read from its decimal digits and rounded to a binary fraction with so many bits, as
programs keep it. From then on it is an exact fraction, and is written with as many decimal digits as
wanted, where a half goes to the even neighbour.
-/

namespace StateExplorer.Shell

/-- A number: a fraction with a sign, or one that is too large or none at all. -/
inductive Floating
  | fraction (negative : Bool) (top bottom : Nat)
  | infinite (negative : Bool)
  | undefined

namespace Floating

/-- The integer next to a fraction; a half goes to the even one. -/
def nearest (top bottom : Nat) : Nat :=
  let n := top / bottom
  let rest := 2 * (top % bottom)
  if bottom < rest || (rest == bottom && n % 2 == 1) then n + 1 else n

/-- A power of two with an exponent of either sign, as a fraction. -/
def power (base : Nat) (exponent : Int) : Nat × Nat :=
  if exponent < 0 then (1, Nat.pow base exponent.natAbs) else (Nat.pow base exponent.natAbs, 1)

/-- The binary fraction with so many bits next to a fraction. -/
def round (bits : Nat) (top bottom : Nat) : Nat × Nat :=
  if top == 0 then (0, 1)
  else
    let size : Int := (Nat.log2 top : Int) - (Nat.log2 bottom : Int)
    let scaled (exponent : Int) : Nat :=
      let (a, b) := power 2 exponent
      nearest (top * b) (bottom * a)
    let first := size - bits
    let m := scaled first
    let exponent := if m < 1 <<< bits then first else first + 1
    let m := scaled exponent
    let (a, b) := power 2 exponent
    (m * a, b)

/-- The number of decimal digits with an exponent. -/
def ofDigits (bits : Nat) (negative : Bool) (digits : Nat) (exponent : Int) : Floating :=
  if digits == 0 then .fraction negative 0 1
  else if 5000 < exponent then .infinite negative
  else if exponent < -6000 then .fraction negative 0 1
  else
    let (a, b) := power 10 exponent
    let (top, bottom) := round bits (digits * a) b
    if bits == 53 && (1 <<< 1024) * bottom ≤ top then .infinite negative
    else .fraction negative top bottom

/-- Whether a text starts with a word in letters of either kind. -/
def startsWithWord (word : String) (text : List Char) : Bool :=
  word.toList.isPrefixOf (text.map Char.toLower)

/-- An exponent after its letter, and the rest. -/
def readExponent (marks : List Char) (text : List Char) : Int × List Char :=
  match text with
  | c :: rest =>
    if !marks.contains c then (0, text)
    else
      let (negative, digits) := match rest with
        | '-' :: digits => (true, digits)
        | '+' :: digits => (false, digits)
        | digits => (false, digits)
      let (n, count, after) := spanDigits 10 digits
      if count == 0 then (0, text) else (if negative then -(n : Int) else n, after)
  | [] => (0, text)

/-- The number at the front of a text, and the rest; nothing is used up where there is none. -/
def read (bits : Nat) (text : List Char) : Floating × List Char :=
  let start := text.dropWhile fun c => c == ' ' || (9 ≤ c.toNat && c.toNat ≤ 13)
  let (negative, body) := match start with
    | '-' :: rest => (true, rest)
    | '+' :: rest => (false, rest)
    | rest => (false, rest)
  if startsWithWord "infinity" body then (.infinite negative, body.drop 8)
  else if startsWithWord "inf" body then (.infinite negative, body.drop 3)
  else if startsWithWord "nan" body then (.undefined, body.drop 3)
  else
    let fraction (base : Nat) (body : List Char) : Nat × Nat × Nat × List Char :=
      let (whole, wholeCount, rest) := spanDigits base body
      match rest with
      | '.' :: rest' =>
        let (_, partCount, rest'') := spanDigits base rest'
        let (all, _, _) := spanDigits base (body.take wholeCount ++ rest'.take partCount)
        if wholeCount + partCount == 0 then (0, 0, 0, rest) else
          (all, wholeCount + partCount, partCount, rest'')
      | _ => (whole, wholeCount, 0, rest)
    let hex := match body with
      | '0' :: x :: rest =>
        if x == 'x' || x == 'X' then
          let (all, count, part, rest) := fraction 16 rest
          if count == 0 then none else some (all, part, rest)
        else none
      | _ => none
    match hex with
    | some (all, part, rest) =>
      let (exponent, rest) := readExponent ['p', 'P'] rest
      let (a, b) := power 2 (exponent - 4 * part)
      let (top, bottom) := round bits (all * a) b
      (.fraction negative top bottom, rest)
    | none =>
      let (all, count, part, rest) := fraction 10 body
      if count == 0 then (.fraction false 0 1, text)
      else
        let (exponent, rest) := readExponent ['e', 'E'] rest
        (ofDigits bits negative all (exponent - part), rest)

/-- The digits of a number, with zeros before them up to a width. -/
def digits (width n : Nat) : List Char :=
  let ds := (toString n).toList
  List.replicate (width - ds.length) '0' ++ ds

/-- A fraction with so many digits after the point. -/
def fixed (places : Nat) (point : Bool) (top bottom : Nat) : List Char :=
  let n := nearest (top * Nat.pow 10 places) bottom
  let ds := digits (places + 1) n
  let whole := ds.take (ds.length - places)
  let part := ds.drop (ds.length - places)
  if places == 0 && !point then whole else whole ++ '.' :: part

/-- The first digits of a fraction with so many of them after the point, and its decimal exponent. -/
def scientific (places : Nat) (top bottom : Nat) : Nat × Int :=
  if top == 0 then (0, 0)
  else
    let guess : Int := ((toString (top / bottom)).length : Int) - 1
    let low : Int :=
      if bottom ≤ top then guess else -((toString (bottom / top)).length : Int) - 1
    let scaled (exponent : Int) : Nat :=
      let (a, b) := power 10 (places - exponent)
      nearest (top * a) (bottom * b)
    let exponent :=
      (List.range 4).foldl (fun (e : Int) _ =>
        if Nat.pow 10 (places + 1) ≤ scaled e then e + 1 else e) low
    (scaled exponent, exponent)

/-- The text of an exponent. -/
def exponentText (mark : Char) (exponent : Int) : List Char :=
  mark :: (if exponent < 0 then '-' else '+') :: digits 2 exponent.natAbs

/-- A fraction with an exponent. -/
def withExponent (mark : Char) (places : Nat) (point : Bool) (top bottom : Nat) : List Char :=
  let (n, exponent) := scientific places top bottom
  let ds := digits (places + 1) n
  let head := ds.take 1
  let part := ds.drop 1
  (if places == 0 && !point then head else head ++ '.' :: part) ++ exponentText mark exponent

/-- A text without zeros at the end of the part after its point. -/
def dropZeros (text : List Char) : List Char :=
  if !text.contains '.' then text
  else
    let kept := (text.reverse.dropWhile (· == '0')).reverse
    if kept.getLast? == some '.' then kept.dropLast else kept

/-- A fraction in the shorter one of both ways. -/
def general (mark : Char) (precision : Nat) (keepsZeros : Bool) (top bottom : Nat) : List Char :=
  let precision := if precision == 0 then 1 else precision
  let (n, exponent) := scientific (precision - 1) top bottom
  if exponent < -4 || (precision : Int) ≤ exponent then
    let ds := digits precision n
    let head := ds.take 1 ++ if precision == 1 then [] else '.' :: ds.drop 1
    (if keepsZeros then head else dropZeros head) ++ exponentText mark exponent
  else
    let text := fixed ((precision : Int) - 1 - exponent).toNat false top bottom
    if keepsZeros then text else dropZeros text

/-- Whether a number is below zero, and its text without a sign, by the letter of a conversion. -/
def render (letter : Char) (precision : Option Nat) (alternate : Bool) (number : Floating) :
    Bool × List Char :=
  let upper := letter.isUpper
  let places := precision.getD 6
  let (negative, text) := match number with
    | .undefined => (false, "nan".toList)
    | .infinite negative => (negative, "inf".toList)
    | .fraction negative top bottom =>
      (negative, match letter.toLower with
        | 'f' => fixed places alternate top bottom
        | 'e' => withExponent 'e' places alternate top bottom
        | _ => general 'e' places alternate top bottom)
  (negative, if upper then text.map Char.toUpper else text)

/-- Whether a number has an end. -/
def isFinite : Floating → Bool
  | .fraction .. => true
  | _ => false

end Floating

end StateExplorer.Shell
