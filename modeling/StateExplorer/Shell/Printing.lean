import StateExplorer.Shell.Bytes
import StateExplorer.Shell.Floating

/-!
# Printing by formats

A format holds characters, escapes and directives. A directive writes one argument, and a format is
used again as long as there are arguments. Builtin commands and programs of their own read formats
alike, up to the escapes that they know and the words of their complaints.
-/

namespace StateExplorer.Shell

/-- What differs between those who print: whether more escapes are known, and the words about
arguments that are no numbers. -/
structure PrintStyle where
  hexEscapes : Bool
  notANumber : String → String
  notWhole : String → String
  tooLarge : String → String
  unknownDirective : String → String
  missingCharacter : String → String

/-- The characters of a text after an escape, and the rest of the text. -/
structure Escaped where
  text : List Char
  rest : List Char

/-- The character of a letter after a backslash. -/
def controlChar? : Char → Option Char
  | 'a' => some '\x07'
  | 'b' => some '\x08'
  | 'e' => some '\x1b'
  | 'f' => some '\x0c'
  | 'n' => some '\n'
  | 'r' => some '\r'
  | 't' => some '\t'
  | 'v' => some '\x0b'
  | '\\' => some '\\'
  | _ => none

/-- The character of a byte, cut to one byte. -/
def byteChar (n : Nat) : Char := Char.ofNat (n % 256)

/-- The value of octal digits at the front of a text, at most so many, and the rest. -/
def takeOctal (most : Nat) (text : List Char) : Nat × List Char :=
  let (value, count, _) := spanDigits 8 (text.take most)
  (value, text.drop count)

/-- What an escape stands for, by the text after its backslash. -/
def escape (style : PrintStyle) (text : List Char) : Escaped :=
  match text with
  | [] => ⟨['\\'], []⟩
  | c :: rest =>
    match controlChar? c with
    | some d => ⟨[d], rest⟩
    | none =>
      if '0' ≤ c && c ≤ '7' then
        let (n, rest) := takeOctal 3 (c :: rest)
        ⟨[byteChar n], rest⟩
      else if style.hexEscapes && c == 'x' && (rest.head?).any isHexDigit then
        let (n, count, _) := spanDigits 16 (rest.take 2)
        ⟨[byteChar n], rest.drop count⟩
      else if style.hexEscapes && c == '"' then ⟨['"'], rest⟩
      else ⟨['\\', c], rest⟩

/-- A text whose escapes are carried out, and whether it was cut off. A zero may stand before octal
digits. -/
def unescape (style : PrintStyle) : (more : Nat) → List Char → List Char × Bool
  | 0, _ => ([], false)
  | _, [] => ([], false)
  | more + 1, '\\' :: 'c' :: _ =>
    let _ := more
    ([], true)
  | more + 1, '\\' :: rest =>
    let rest := match rest with
      | '0' :: d :: others => if '0' ≤ d && d ≤ '7' then d :: others else rest
      | _ => rest
    let escaped := escape style rest
    let (text, cut) := unescape style more escaped.rest
    (escaped.text ++ text, cut)
  | more + 1, c :: rest =>
    let (text, cut) := unescape style more rest
    (c :: text, cut)

/-- A text whose escapes are carried out. -/
def withoutEscapes (style : PrintStyle) (text : List Char) : List Char × Bool :=
  unescape style (text.length + 1) text

/-! ## Directives -/

/-- How a directive writes an argument. -/
structure Directive where
  left : Bool
  plus : Bool
  blank : Bool
  zeros : Bool
  alternate : Bool
  width : Nat
  precision : Option Nat
  letter : Char

/-- Text with blanks up to the width of a directive. -/
def Directive.pad (d : Directive) (text : List Char) : List Char :=
  let blanks := List.replicate (d.width - text.length) ' '
  if d.left then text ++ blanks else blanks ++ text

/-- Text with a sign before it and zeros or blanks up to the width of a directive. -/
def Directive.padNumber (d : Directive) (zeros : Bool) (sign text : List Char) : List Char :=
  if zeros && !d.left then
    sign ++ List.replicate (d.width - sign.length - text.length) '0' ++ text
  else d.pad (sign ++ text)

/-- The sign of a number. -/
def Directive.sign (d : Directive) (negative : Bool) : List Char :=
  if negative then ['-'] else if d.plus then ['+'] else if d.blank then [' '] else []

/-- A text by a directive. -/
def Directive.ofText (d : Directive) (text : List Char) : List Char :=
  d.pad (match d.precision with
    | some n => text.take n
    | none => text)

/-- Digits up to a precision; a zero has none where none are wanted. -/
def Directive.digits (d : Directive) (n : Nat) (text : List Char) : List Char :=
  match d.precision with
  | none => text
  | some 0 => if n == 0 then [] else text
  | some p => List.replicate (p - text.length) '0' ++ text

/-- A signed integer by a directive. -/
def Directive.ofInt (d : Directive) (n : Int) : List Char :=
  let text := d.digits n.natAbs (toString n.natAbs).toList
  d.padNumber (d.zeros && d.precision.isNone) (d.sign (n < 0)) text

/-- An integer without a sign by a directive. -/
def Directive.ofNat (d : Directive) (n : Nat) : List Char :=
  let digits := match d.letter with
    | 'o' => Nat.toDigits 8 n
    | 'x' => Nat.toDigits 16 n
    | 'X' => (Nat.toDigits 16 n).map Char.toUpper
    | _ => Nat.toDigits 10 n
  let text := d.digits n digits
  let text :=
    if d.alternate && d.letter == 'o' && text.head? != some '0' then '0' :: text else text
  let start :=
    if d.alternate && n != 0 && (d.letter == 'x' || d.letter == 'X') then ['0', d.letter] else []
  d.padNumber (d.zeros && d.precision.isNone) start text

/-- A number with a point by a directive. -/
def Directive.ofFloating (d : Directive) (number : Floating) : List Char :=
  let (negative, text) := Floating.render d.letter d.precision d.alternate number
  d.padNumber (d.zeros && number.isFinite) (d.sign negative) text

/-! ## Formats -/

/-- What is printed so far, last part first, the complaints, and the arguments that are left. -/
structure Printing where
  output : List (List Char)
  complaints : List String
  arguments : List String
  used : Bool
  ended : Bool
  failure : Option String

/-- Takes the next argument, if there is one. -/
def Printing.next (p : Printing) : Option String × Printing :=
  match p.arguments with
  | a :: rest => (some a, { p with arguments := rest, used := true })
  | [] => (none, { p with used := true })

/-- Puts text at the end of the output. -/
def Printing.put (p : Printing) (text : List Char) : Printing :=
  { p with output := text :: p.output }

/-- The integer that an argument is, as a signed or unsigned one of 64 bits. A quote stands before a
character. -/
def Printing.integer (style : PrintStyle) (signed : Bool) (p : Printing) : Int × Printing :=
  let (argument, p) := p.next
  match argument with
  | none => (0, p)
  | some text =>
    match text.toList with
    | '\'' :: c :: _ => (c.toNat, p)
    | '"' :: c :: _ => (c.toNat, p)
    | '\'' :: [] => (0, p)
    | '"' :: [] => (0, p)
    | chars =>
      let (value, cut, rest) :=
        if signed then readInteger chars else
          let (n, _, rest) := readInteger chars
          let (huge, hugeRest) := unsignedValue chars
          if n < 0 then (n, false, rest)
          else if 0x10000000000000000 ≤ huge then (0xFFFFFFFFFFFFFFFF, true, hugeRest)
          else ((huge : Int), false, hugeRest)
      let p :=
        if !rest.isEmpty then
          { p with complaints :=
              (if rest.length == chars.length then style.notANumber text else style.notWhole text)
                :: p.complaints }
        else if cut then { p with complaints := style.tooLarge text :: p.complaints }
        else p
      (value, p)
where
  /-- The value of a text without a bound. -/
  unsignedValue (chars : List Char) : Nat × List Char :=
    let start := chars.dropWhile fun c => c == ' ' || (9 ≤ c.toNat && c.toNat ≤ 13)
    let body := match start with
      | '+' :: rest => rest
      | rest => rest
    let (n, count, rest) := match body with
      | '0' :: x :: c :: _ =>
        if (x == 'x' || x == 'X') && isHexDigit c then spanDigits 16 (body.drop 2)
        else spanDigits 8 body
      | '0' :: _ => spanDigits 8 body
      | _ => spanDigits 10 body
    if count == 0 then (0, chars) else (n, rest)

/-- The number with a point that an argument is. -/
def Printing.floating (style : PrintStyle) (bits : Nat) (p : Printing) : Floating × Printing :=
  let (argument, p) := p.next
  match argument with
  | none => (.fraction false 0 1, p)
  | some text =>
    match text.toList with
    | '\'' :: c :: _ => (.fraction false c.toNat 1, p)
    | '"' :: c :: _ => (.fraction false c.toNat 1, p)
    | chars =>
      let (number, rest) := Floating.read bits chars
      let p :=
        if rest.isEmpty then p
        else
          { p with complaints :=
              (if rest.length == chars.length then style.notANumber text else style.notWhole text)
                :: p.complaints }
      (number, p)

/-- Writes the next argument by a directive; `shown` is the directive's own text. -/
def Printing.direct (style : PrintStyle) (bits : Nat) (d : Directive) (shown : List Char)
    (p : Printing) : Printing :=
  match d.letter with
  | 's' =>
    let (argument, p) := p.next
    p.put (d.ofText (argument.getD "").toList)
  | 'b' =>
    let (argument, p) := p.next
    let (text, cut) := withoutEscapes style (argument.getD "").toList
    { p.put (d.ofText text) with ended := cut }
  | 'c' =>
    let (argument, p) := p.next
    p.put (d.pad [((argument.getD "").toList.head?).getD '\x00'])
  | 'd' | 'i' =>
    let (n, p) := p.integer style true
    p.put (d.ofInt n)
  | 'o' | 'u' | 'x' | 'X' =>
    let (n, p) := p.integer style false
    p.put (d.ofNat (n % 0x10000000000000000).toNat)
  | 'e' | 'E' | 'f' | 'F' | 'g' | 'G' =>
    let (number, p) := p.floating style bits
    p.put (d.ofFloating number)
  | _ => { p with failure := some (style.unknownDirective (String.ofList shown)) }

/-- The width or precision of a directive: digits, or a star for an argument. -/
def Printing.size (style : PrintStyle) (p : Printing) (text : List Char) :
    Option Int × Printing × List Char :=
  match text with
  | '*' :: rest =>
    let (n, p) := p.integer style true
    (some n, p, rest)
  | _ =>
    let (n, count, rest) := spanDigits 10 text
    (if count == 0 then none else some (n : Int), p, rest)

/-- Prints a format once. -/
def Printing.format (style : PrintStyle) (bits : Nat) : (more : Nat) → List Char → Printing →
    Printing
  | 0, _, p => p
  | _, [], p => p
  | more + 1, '\\' :: 'c' :: rest, p =>
    if style.hexEscapes then { p with ended := true }
    else Printing.format style bits more rest (p.put ['\\', 'c'])
  | more + 1, '\\' :: rest, p =>
    let escaped := escape style rest
    Printing.format style bits more escaped.rest (p.put escaped.text)
  | more + 1, '%' :: '%' :: rest, p => Printing.format style bits more rest (p.put ['%'])
  | more + 1, '%' :: rest, p =>
    let (flags, after) := rest.span fun c => ['#', '-', '+', ' ', '0'].contains c
    let (width, p, after) := p.size style after
    let (precision, p, after) := match after with
      | '.' :: after =>
        let (n, p, after) := p.size style after
        (match n with
          | some n => if n < 0 then none else some n.toNat
          | none => some 0, p, after)
      | _ => (none, p, after)
    let shown := '%' :: rest.take (rest.length - after.length + 1)
    match after with
    | [] => { p with failure := some (style.missingCharacter (String.ofList shown)) }
    | letter :: after =>
      let negative := width.any (· < 0)
      let d : Directive :=
        ⟨flags.contains '-' || negative, flags.contains '+', flags.contains ' ',
          flags.contains '0', flags.contains '#', (width.getD 0).natAbs, precision, letter⟩
      let p := p.direct style bits d shown
      if p.ended || p.failure.isSome then p else Printing.format style bits more after p
  | more + 1, c :: rest, p =>
    let (plain, rest) := rest.span fun d => d != '%' && d != '\\'
    Printing.format style bits more rest (p.put (c :: plain))

/-- Prints a format as often as there are arguments for it, at most so many times. -/
def Printing.formatAll (style : PrintStyle) (bits : Nat) (format : List Char) : (more : Nat) →
    Printing → Printing
  | 0, p => p
  | more + 1, p =>
    let q := Printing.format style bits (format.length + 1) format { p with used := false }
    if q.ended || q.failure.isSome || !q.used || q.arguments.isEmpty then q
    else Printing.formatAll style bits format more q

/-- Prints arguments by a format: the output, and what went wrong. -/
def printFormat (style : PrintStyle) (bits : Nat) (format : String) (arguments : List String) :
    Printing :=
  Printing.formatAll style bits format.toList (arguments.length + 1)
    ⟨[], [], arguments, false, false, none⟩

/-- The output of what was printed. -/
def Printing.text (p : Printing) : String := String.ofList p.output.reverse.flatten

end StateExplorer.Shell
