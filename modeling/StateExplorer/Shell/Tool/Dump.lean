import StateExplorer.Digest.Sha256
import StateExplorer.Shell.Tool.Ends

/-!
# Bytes as text

Bytes are shown in rows of numbers, in an alphabet of sixty-four characters, or by their digest.
-/

namespace StateExplorer.Shell.Tool

open Run

/-- Digits of a number in a base, with zeros before them up to a width. -/
def digitsOf (base width n : Nat) : String :=
  let digits := Nat.toDigits base n
  String.ofList (List.replicate (width - digits.length) '0' ++ digits)

/-! ## Dumps -/

/-- How units of bytes are shown: a letter, and how many bytes are a unit. -/
structure DumpFormat where
  letter : Char
  size : Nat

/-- The names of control characters. -/
def controlNames : List String :=
  ["nul", "soh", "stx", "etx", "eot", "enq", "ack", "bel", "bs", "ht", "nl", "vt", "ff", "cr", "so",
    "si", "dle", "dc1", "dc2", "dc3", "dc4", "nak", "syn", "etb", "can", "em", "sub", "esc", "fs",
    "gs", "rs", "us", "sp"]

/-- A byte as a character. -/
def dumpedChar (n : Nat) : String :=
  match n with
  | 0 => "\\0"
  | 7 => "\\a"
  | 8 => "\\b"
  | 9 => "\\t"
  | 10 => "\\n"
  | 11 => "\\v"
  | 12 => "\\f"
  | 13 => "\\r"
  | n =>
    if 32 ≤ n && n < 127 then String.singleton (Char.ofNat n) else digitsOf 8 3 n

/-- How many characters a unit takes. -/
def DumpFormat.width (f : DumpFormat) : Nat :=
  match f.letter with
  | 'c' | 'a' => 3
  | 'x' => 2 * f.size
  | 'o' => match f.size with
    | 1 => 3
    | 2 => 6
    | 4 => 11
    | _ => 22
  | 'u' => match f.size with
    | 1 => 3
    | 2 => 5
    | 4 => 10
    | _ => 20
  | _ => match f.size with
    | 1 => 4
    | 2 => 6
    | 4 => 11
    | _ => 20

/-- A unit of bytes, the lowest one first. -/
def DumpFormat.unit (f : DumpFormat) (bytes : List Nat) : String :=
  let value := bytes.foldr (fun byte n => n * 256 + byte) 0
  Bytes.padLeft f.width (match f.letter with
    | 'c' => dumpedChar value
    | 'a' =>
      let low := value % 128
      if low == 127 then "del"
      else (controlNames[low]?).getD (String.singleton (Char.ofNat low))
    | 'x' => digitsOf 16 f.width value
    | 'o' => digitsOf 8 f.width value
    | 'u' => toString value
    | _ =>
      let half := (128 : Nat) <<< (8 * (f.size - 1))
      if value < half then toString value
      else "-" ++ toString (2 * half - value))

/-- Numbers in groups of so many. -/
def groupsOf (size : Nat) : (more : Nat) → List Nat → List (List Nat)
  | 0, _ => []
  | _, [] => []
  | more + 1, all => all.take size :: groupsOf size more (all.drop size)

/-- A block of bytes in some formats, a line for each; formats with wide columns push the others
apart. -/
def dumpedBlock (formats : List (DumpFormat × Bool)) (width : Nat) (address blank : String)
    (block : List Nat) : String :=
  let perByte (f : DumpFormat) : Nat := (f.width + 1) * (width / f.size)
  let widest := (formats.map fun f => perByte f.1).foldl max 0
  let line (first : Bool) (f : DumpFormat) (text : Bool) : String :=
    let units := groupsOf f.size (block.length + 1) block
    let count := width / f.size
    let extra := (widest - perByte f) / count
    let shown := String.join (units.map fun unit => "".pushn ' ' (extra + 1) ++ f.unit unit)
    let plain := block.map fun n => if 32 ≤ n && n < 127 then Char.ofNat n else '.'
    (if first then address else blank) ++
      (if text then
        Bytes.padRight widest shown ++ "  >" ++ String.ofList plain ++ "<"
      else shown) ++ "\n"
  match formats with
  | [] => ""
  | (f, text) :: rest =>
    line true f text ++ String.join (rest.map fun (f, text) => line false f text)

/-- The formats that a text stands for, each with whether the text is shown too. -/
def dumpFormats? (whole : String) : (more : Nat) → List Char →
    Except String (List (DumpFormat × Bool))
  | 0, _ => .ok []
  | _, [] => .ok []
  | more + 1, letter :: rest => do
    let invalid : Except String (List (DumpFormat × Bool)) :=
      .error ("invalid character '" ++ String.singleton letter ++ "' in type string " ++
        quoted whole)
    let usual := match letter with
      | 'a' | 'c' => some 1
      | 'x' | 'o' | 'u' | 'd' => some 4
      | _ => none
    match usual with
    | none => invalid
    | some usual =>
      let (size, rest) := match rest with
        | 'C' :: rest => (1, rest)
        | 'S' :: rest => (2, rest)
        | 'I' :: rest => (4, rest)
        | 'L' :: rest => (8, rest)
        | rest =>
          let (n, count, after) := spanDigits 10 rest
          if count == 0 || usual == 1 then (usual, rest) else (n, after)
      let (text, rest) := match rest with
        | 'z' :: rest => (true, rest)
        | rest => (false, rest)
      let others ← dumpFormats? whole more rest
      return (⟨letter, size⟩, text) :: others

/-- The formats that options ask for. -/
def givenFormats (given : List Given) : Except String (List (DumpFormat × Bool)) := do
  let found ← given.mapM fun g => do
    match g.letter with
    | 't' => dumpFormats? (g.value.getD "") ((g.value.getD "").length + 1) (g.value.getD "").toList
    | 'a' => return [(⟨'a', 1⟩, false)]
    | 'b' => return [(⟨'o', 1⟩, false)]
    | 'c' => return [(⟨'c', 1⟩, false)]
    | 'd' => return [(⟨'u', 2⟩, false)]
    | 'i' => return [(⟨'d', 4⟩, false)]
    | 'l' => return [(⟨'d', 8⟩, false)]
    | 'o' => return [(⟨'o', 2⟩, false)]
    | 's' => return [(⟨'d', 2⟩, false)]
    | 'x' => return [(⟨'x', 2⟩, false)]
    | _ => return []
  return if found.flatten.isEmpty then [(⟨'o', 2⟩, false)] else found.flatten

/-- Shows bytes as numbers or characters. -/
def od : Tool := fun _ name arguments =>
  withOptions name 1 (options (flags [('a', ""), ('b', ""), ('c', ""), ('d', ""), ('i', ""), ('l', ""),
      ('o', ""), ('s', ""), ('x', ""), ('v', "output-duplicates")] ++
      valued [('A', "address-radix"), ('t', "format"), ('N', "read-bytes"), ('j', "skip-bytes")] ++
      [⟨'w', "width", .perhaps⟩]) arguments) fun given paths => do
    match givenFormats given with
    | .error message =>
      complain name message
      return 1
    | .ok formats =>
      let (texts, failed) ← sources paths (tellPlainly name)
      if texts.isEmpty then return 1
      let skipped := ((value? given 'j').bind amount?).getD 0
      let all := (texts.flatMap fun (_, text) => text.toList.map Char.toNat).drop skipped
      let bytes := match (value? given 'N').bind amount? with
        | some size => all.take size
        | none => all
      let width := if has given 'w' then ((value? given 'w').bind Bytes.nat?).getD 32 else 16
      let address (n : Nat) : String :=
        match value? given 'A' with
        | some "n" => ""
        | some "d" => digitsOf 10 7 n
        | some "x" => digitsOf 16 6 n
        | _ => digitsOf 8 7 n
      let blank := "".pushn ' ' (address 0).length
      let blocks := groupsOf (max width 1) (bytes.length + 1) bytes
      let step (acc : List String × Nat × Option (List Nat) × Bool) (block : List Nat) :=
        let (out, place, last, starred) := acc
        let next := place + block.length
        if !has given 'v' && last == some block && next != skipped + bytes.length then
          (if starred then out else "*\n" :: out, next, last, true)
        else if !has given 'v' && last == some block && block.length == width then
          (if starred then out else "*\n" :: out, next, last, true)
        else (dumpedBlock formats width (address place) blank block :: out, next, some block, false)
      let (out, last, _, _) := blocks.foldl step ([], skipped, none, false)
      print (String.join out.reverse)
      if value? given 'A' != some "n" then print (address last ++ "\n")
      return if failed then 1 else 0

/-! ## Letters for bytes -/

/-- The letters that stand for six bits each. -/
def sixBitLetters : List Char :=
  "ABCDEFGHIJKLMNOPQRSTUVWXYZabcdefghijklmnopqrstuvwxyz0123456789+/".toList

/-- The letters for bytes. -/
def toSixBits : List Nat → List Char
  | a :: b :: c :: rest =>
    let n := (a * 256 + b) * 256 + c
    letter (n / 262144) :: letter (n / 4096) :: letter (n / 64) :: letter n :: toSixBits rest
  | [a, b] =>
    let n := (a * 256 + b) * 256
    [letter (n / 262144), letter (n / 4096), letter (n / 64), '=']
  | [a] =>
    let n := a * 65536
    [letter (n / 262144), letter (n / 4096), '=', '=']
  | [] => []
where
  /-- The letter of the lowest six bits of a number. -/
  letter (n : Nat) : Char := (sixBitLetters[n % 64]?).getD 'A'

/-- The bytes that letters stand for, as far as they can be read, and whether all could. -/
def fromSixBits : (more : Nat) → List Char → List Char × Bool
  | 0, _ => ([], false)
  | _, [] => ([], true)
  | more + 1, a :: b :: c :: d :: rest =>
    match value? a, value? b, value? c, value? d with
    | some a, some b, some c, some d =>
      let n := ((a * 64 + b) * 64 + c) * 64 + d
      let (others, fine) := fromSixBits more rest
      (byte (n / 65536) :: byte (n / 256) :: byte n :: others, fine)
    | some a, some b, some c, none =>
      let n := ((a * 64 + b) * 64 + c) * 64
      if d == '=' then
        let (others, fine) := fromSixBits more rest
        (byte (n / 65536) :: byte (n / 256) :: others, fine)
      else ([byte (n / 65536), byte (n / 256)], false)
    | some a, some b, none, _ =>
      let n := (a * 64 + b) * 4096
      if c == '=' && d == '=' then
        let (others, fine) := fromSixBits more rest
        (byte (n / 65536) :: others, fine)
      else ([byte (n / 65536)], false)
    | _, _, _, _ => ([], false)
  | _, [a, b, c] =>
    match value? a, value? b, value? c with
    | some a, some b, some c =>
      let n := ((a * 64 + b) * 64 + c) * 64
      ([byte (n / 65536), byte (n / 256)], false)
    | some a, some b, none => ([byte ((a * 64 + b) * 4096 / 65536)], false)
    | _, _, _ => ([], false)
  | _, [a, b] =>
    match value? a, value? b with
    | some a, some b => ([byte ((a * 64 + b) * 4096 / 65536)], false)
    | _, _ => ([], false)
  | _, [_] => ([], false)
where
  /-- The six bits of a letter. -/
  value? (c : Char) : Option Nat := sixBitLetters.findIdx? (· == c)
  /-- The lowest byte of a number. -/
  byte (n : Nat) : Char := Char.ofNat (n % 256)

/-- Letters in lines of a width. -/
def inLines (width : Nat) : (more : Nat) → List Char → String
  | 0, _ => ""
  | _, [] => ""
  | more + 1, all => String.ofList (all.take width) ++ "\n" ++ inLines width more (all.drop width)

/-- Writes bytes as letters, or reads them from letters. -/
def base64 : Tool := fun _ name arguments =>
  withOptions name 1 (options (flags [('d', "decode"), ('i', "ignore-garbage")] ++
      valued [('w', "wrap")]) arguments) fun given paths => do
    match paths with
    | _ :: extra :: _ =>
      misuse name ("extra operand " ++ quotedPath extra)
      return 1
    | paths =>
      let path := paths.headD "-"
      match ← sourceText path with
      | .error why =>
        tellPlainly name path why
        return 1
      | .ok text =>
        if has given 'd' then
          let kept := text.toList.filter fun c =>
            if has given 'i' then sixBitLetters.contains c || c == '=' else c != '\n'
          let (bytes, fine) := fromSixBits (kept.length + 1) kept
          print (String.ofList bytes)
          if fine then return 0
          complain name "invalid input"
          return 1
        else
          match (value? given 'w').map Bytes.nat? with
          | some none =>
            complain name ("invalid wrap size: " ++ quoted ((value? given 'w').getD ""))
            return 1
          | width =>
            let letters := toSixBits (text.toList.map Char.toNat)
            match width.join.getD 76 with
            | 0 => print (String.ofList letters)
            | width => print (inLines width (letters.length + 1) letters)
            return 0

/-- Prints the digest of each file. -/
def sha256sum : Tool := fun _ name arguments =>
  withOptions name 1 (options (flags [('b', "binary"), ('t', "text"), ('z', "zero")]) arguments)
    fun given paths => do
      let (texts, failed) ← sources paths (tellPlainly name)
      let mark := if has given 'b' then " *" else "  "
      for (path, text) in texts do
        let digest := (Sha256.digest (Bytes.toList text)).bytes
        let digits := String.join (digest.map fun byte => digitsOf 16 2 byte.toNat)
        print (digits ++ mark ++ path ++ if has given 'z' then "\x00" else "\n")
      return if failed then 1 else 0

end StateExplorer.Shell.Tool
