/-!
# UTF-8

Offsets into a text count the bytes of its UTF-8 form. Bytes that are no UTF-8 can still be read
leniently: each longest run that could begin a character and then breaks off becomes one
replacement character.
-/

namespace StateExplorer.Text

/-- The number of bytes of a text. -/
def byteLength (text : List Char) : Nat :=
  text.foldr (fun c n => c.utf8Size + n) 0

/-- The bytes of a text. -/
def bytes (text : String) : List UInt8 :=
  text.toList.flatMap String.utf8EncodeChar

/-- A character of which some bytes are still missing: how many, the range that the next one
must lie in, and the value of those already read. -/
structure Unfinished where
  missing : Nat
  low : UInt8
  high : UInt8
  value : Nat

/-- Stands for bytes that are no character. -/
def replacement : Char := '\ufffd'

/-- The characters that a byte completes when no character is unfinished, and what it begins. -/
def Unfinished.begin (b : UInt8) : List Char × Option Unfinished :=
  if b < 0x80 then ([Char.ofNat b.toNat], none)
  else if b < 0xC2 then ([replacement], none)
  else if b < 0xE0 then ([], some ⟨1, 0x80, 0xBF, b.toNat - 0xC0⟩)
  else if b < 0xF0 then
    let low := if b == 0xE0 then 0xA0 else 0x80
    let high := if b == 0xED then 0x9F else 0xBF
    ([], some ⟨2, low, high, b.toNat - 0xE0⟩)
  else if b < 0xF5 then
    let low := if b == 0xF0 then 0x90 else 0x80
    let high := if b == 0xF4 then 0x8F else 0xBF
    ([], some ⟨3, low, high, b.toNat - 0xF0⟩)
  else ([replacement], none)

/-- The characters that one more byte completes, and what stays unfinished. -/
def Unfinished.feed (pending : Option Unfinished) (b : UInt8) : List Char × Option Unfinished :=
  match pending with
  | none => begin b
  | some u =>
    if u.low ≤ b && b ≤ u.high then
      let value := u.value * 64 + (b.toNat - 0x80)
      if u.missing ≤ 1 then ([Char.ofNat value], none)
      else ([], some ⟨u.missing - 1, 0x80, 0xBF, value⟩)
    else
      let (done, next) := begin b
      (replacement :: done, next)

/-- The characters of a byte list from an unfinished character on. -/
def decodeFrom (pending : Option Unfinished) : List UInt8 → List Char
  | [] => if pending.isSome then [replacement] else []
  | b :: rest =>
    let (done, next) := Unfinished.feed pending b
    done ++ decodeFrom next rest

/-- The text of a byte list, with a replacement character for each piece that is no UTF-8. -/
def decodeLenient (bs : List UInt8) : String :=
  String.ofList (decodeFrom none bs)

end StateExplorer.Text
