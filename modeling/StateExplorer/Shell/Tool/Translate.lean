import StateExplorer.Shell.CharClass
import StateExplorer.Shell.Tool.Basic

/-!
# Translating characters

Two sets of characters stand for a map from the characters of the first one to those of the second
one. A set is written as characters, ranges, classes and repetitions.
-/

namespace StateExplorer.Shell.Tool

open Run

/-- A part of a set of characters: characters, a class by its name, or a character that is repeated so
often, or as often as there is room for it. -/
inductive SetPart
  | chars (list : List Char)
  | named (name : String)
  | filled (c : Char) (times : Option Nat)

/-- The characters of a text in which backslashes are carried out, each with whether one stood before
it. -/
def setChars : (more : Nat) → List Char → List (Char × Bool)
  | 0, _ => []
  | _, [] => []
  | _, ['\\'] => [('\\', false)]
  | more + 1, '\\' :: c :: rest =>
    let simple (d : Char) : List (Char × Bool) := (d, true) :: setChars more rest
    match c with
    | 'a' => simple '\x07'
    | 'b' => simple '\x08'
    | 'f' => simple '\x0c'
    | 'n' => simple '\n'
    | 'r' => simple '\r'
    | 't' => simple '\t'
    | 'v' => simple '\x0b'
    | c =>
      if '0' ≤ c && c ≤ '7' then
        let (n, count, _) := spanDigits 8 ((c :: rest).take 3)
        let (n, count) := if 255 < n then (n / 8, count - 1) else (n, count)
        (Char.ofNat n, true) :: setChars more ((c :: rest).drop count)
      else simple c
  | more + 1, c :: rest => (c, false) :: setChars more rest

/-- The name in a class such as `[:alpha:]`, after its first two characters. -/
def className? (mark : Char) (text : List (Char × Bool)) :
    Option (String × List (Char × Bool)) :=
  let (name, rest) := text.span fun p => p != (mark, false)
  match rest with
  | _ :: (']', false) :: rest => some (String.ofList (name.map Prod.fst), rest)
  | _ => none

/-- The times in a repetition such as `[x*3]`, after its star. -/
def repeatCount? (text : List (Char × Bool)) : Option (Option Nat × List (Char × Bool)) :=
  let (digits, rest) := text.span fun p => p.1.isDigit
  match rest with
  | (']', false) :: rest =>
    let digits := digits.map Prod.fst
    if digits.isEmpty then some (none, rest)
    else
      let n := if digits.head? == some '0' then (spanDigits 8 digits).1 else (spanDigits 10 digits).1
      some (if n == 0 then none else some n, rest)
  | _ => none

/-- A character as messages name it. -/
def shownChar (c : Char) : String :=
  if 0x20 ≤ c.toNat && c.toNat ≤ 0x7E then String.singleton c
  else
    let digits := Nat.toDigits 8 c.toNat
    "\\" ++ String.ofList (List.replicate (3 - digits.length) '0' ++ digits)

/-- The parts of a set. -/
def setParts : (more : Nat) → List (Char × Bool) → Except String (List SetPart)
  | 0, _ => .ok []
  | _, [] => .ok []
  | more + 1, ('[', false) :: (':', false) :: rest =>
    match className? ':' rest with
    | some (name, rest) => do
      if (charClass? name).isNone then throw ("invalid character class " ++ quoted name)
      return .named name :: (← setParts more rest)
    | none => do return .chars ['['] :: (← setParts more ((':', false) :: rest))
  | more + 1, ('[', false) :: ('=', false) :: rest =>
    match className? '=' rest with
    | some (name, rest) => do
      match name.toList with
      | [c] => return .chars [c] :: (← setParts more rest)
      | [] => throw "missing equivalence class character '[==]'"
      | _ => throw (name ++ ": equivalence class operand must be a single character")
    | none => do return .chars ['['] :: (← setParts more (('=', false) :: rest))
  | more + 1, ('[', false) :: (c, e) :: ('*', false) :: rest =>
    match repeatCount? rest with
    | some (times, rest) => do return .filled c times :: (← setParts more rest)
    | none => do return .chars ['['] :: (← setParts more ((c, e) :: ('*', false) :: rest))
  | more + 1, (a, _) :: ('-', false) :: (b, _) :: rest =>
    if b < a then
      .error ("range-endpoints of '" ++ shownChar a ++ "-" ++ shownChar b ++
        "' are in reverse collating sequence order")
    else do
      let list := (List.range (b.toNat + 1 - a.toNat)).map fun i => Char.ofNat (a.toNat + i)
      return .chars list :: (← setParts more rest)
  | more + 1, (c, _) :: rest => do return .chars [c] :: (← setParts more rest)

/-- The parts of a set from its text. -/
def readSet (text : String) : Except String (List SetPart) :=
  let chars := setChars (text.length + 1) text.toList
  setParts (chars.length + 1) chars

/-- The characters of a class. -/
def classChars (name : String) : List Char :=
  match charClass? name with
  | some holds => allBytes.filter holds
  | none => []

/-- The characters of a part, with room for so many where it is to be filled. -/
def SetPart.toList (room : Nat) : SetPart → List Char
  | .chars list => list
  | .named name => classChars name
  | .filled c times => List.replicate (times.getD room) c

/-- The characters of a set, in which one part may fill up to a size. -/
def setList (size : Nat) (parts : List SetPart) : List Char :=
  let fixed := parts.foldl (fun n part => n + (part.toList 0).length) 0
  parts.flatMap (SetPart.toList (size - fixed))

/-- Whether a part is a class of letters of one kind, and at which place it stands. -/
def caseClasses (size : Nat) (parts : List SetPart) : List Nat :=
  let fixed := parts.foldl (fun n part => n + (part.toList 0).length) 0
  let step (acc : Nat × List Nat) (part : SetPart) : Nat × List Nat :=
    let next := acc.1 + (part.toList (size - fixed)).length
    match part with
    | .named "lower" => (next, acc.1 :: acc.2)
    | .named "upper" => (next, acc.1 :: acc.2)
    | _ => (next, acc.2)
  (parts.foldl step (0, [])).2

/-- What is wrong with two sets for a translation. -/
def translationFault? (complements truncates : Bool) (first second : List SetPart) :
    Option String :=
  let size := (setList 0 first).length
  let isOther (part : SetPart) : Bool := match part with
    | .named name => name != "lower" && name != "upper"
    | _ => false
  if second.any isOther then
    some ("when translating, the only character classes that may appear in\n" ++
      "string2 are 'upper' and 'lower'")
  else if (setList size second).isEmpty && !truncates then
    some "when not truncating set1, string2 must be non-empty"
  else if !complements && (caseClasses size second).any fun place =>
      !(caseClasses 0 first).contains place then
    some "misaligned [:upper:] and/or [:lower:] construct"
  else none

/-- A text in which characters of a set do not repeat. -/
def squeeze (isIn : Char → Bool) (text : List Char) : List Char :=
  (text.foldl (fun out c =>
    if isIn c && out.head? == some c then out else c :: out) []).reverse

/-- Translates, squeezes or deletes characters. -/
def tr : Tool := fun _ name arguments =>
  withOptions name 1 (leadingOptions (flags [('c', "complement"), ('C', ""), ('d', "delete"),
      ('s', "squeeze-repeats"), ('t', "truncate-set1")]) arguments) fun given words => do
    let deletes := has given 'd'
    let squeezes := has given 's'
    let complements := has given 'c' || has given 'C'
    let translates := words.length == 2 && !deletes
    let least := if deletes == squeezes then 2 else 1
    let most := if deletes && !squeezes then 1 else 2
    if words.length < least then
      match words with
      | [] => misuse name "missing operand"
      | first :: _ =>
        misuse name ("missing operand after " ++ quoted first ++ "\n" ++
          if squeezes then "Two strings must be given when both deleting and squeezing repeats."
          else "Two strings must be given when translating.")
      return 1
    if most < words.length then
      misuse name ("extra operand " ++ quoted ((words[most]?).getD "") ++
        if words.length == 2 then
          "\nOnly one string may be given when deleting without squeezing repeats."
        else "")
      return 1
    for word in words do
      let slashes := (word.toList.reverse.takeWhile (· == '\\')).length
      if slashes % 2 == 1 then
        complain name "warning: an unescaped backslash at end of string is not portable"
    match words.mapM readSet with
    | .error message =>
      complain name message
      return 1
    | .ok sets =>
      let firstParts := sets.headD []
      let secondParts := (sets[1]?).getD []
      let isFilled (part : SetPart) : Bool := match part with
        | .filled .. => true
        | _ => false
      let fault :=
        if firstParts.any isFilled then
          some "the [c*] repeat construct may not appear in string1"
        else if translates then
          translationFault? complements (has given 't') firstParts secondParts
        else none
      match fault with
      | some message =>
        complain name message
        return 1
      | none =>
        let first := setList 0 firstParts
        let first := if complements then allBytes.filter (!first.contains ·) else first
        let second := setList first.length secondParts
        let text := match ← input with
          | .ok text => text.toList
          | .error _ => []
        let inFirst := memberOf first
        let inSecond := memberOf second
        let output :=
          if deletes then
            let kept := text.filter (!inFirst ·)
            if squeezes then squeeze inSecond kept else kept
          else if translates then
            let table := translation (has given 't') first second
            let put := text.map fun c => (table[c.toNat]?).getD c
            if squeezes then squeeze inSecond put else put
          else squeeze inFirst text
        print (String.ofList output)
        return 0
where
  /-- Whether a character is in a list, by a table of all bytes. -/
  memberOf (list : List Char) : Char → Bool :=
    let table := list.foldl (fun (t : Array Bool) c => t.setIfInBounds c.toNat true)
      (Array.replicate 256 false)
    fun c => (table[c.toNat]?).getD false
  /-- The table of a translation; the last character of the second set stands for the rest. -/
  translation (truncates : Bool) (first second : List Char) : Array Char :=
    let last := (second.getLast?).getD '\x00'
    let second :=
      if truncates then second
      else second ++ List.replicate (first.length - second.length) last
    (first.zip second).foldl (fun (t : Array Char) (a, b) => t.setIfInBounds a.toNat b)
      allBytes.toArray

end StateExplorer.Shell.Tool
