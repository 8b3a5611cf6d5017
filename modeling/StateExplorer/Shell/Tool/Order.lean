import StateExplorer.Shell.CharClass
import StateExplorer.Shell.Floating
import StateExplorer.Shell.Tool.Basic

/-!
# Programs that order lines

Lines are compared by keys, each a range of fields with an order of its own, and at last as a whole.
Sorting is stable where that is asked for. Of lines that are the same and stand together one can be
kept, and two files in order can be compared.
-/

namespace StateExplorer.Shell.Tool

open Run

/-! ## Keys -/

/-- How keys are compared. -/
structure KeyStyle where
  letters : List Char
  reversed : Bool

/-- A key of a line: where it starts and ends, by fields and characters, whether blanks are skipped
there, and how it is compared. -/
structure SortKey where
  field : Nat
  char : Nat
  endField : Option Nat
  endChar : Nat
  skipsAtStart : Bool
  skipsAtEnd : Bool
  style : KeyStyle

/-- Leaves fields behind. A mark ends a field; without a mark, fields are words with the blanks before
them. -/
def skipFields (mark : Option Char) : (fields : Nat) → List Char → List Char
  | 0, text => text
  | fields + 1, text =>
    match mark with
    | some m => skipFields mark fields ((text.dropWhile (· != m)).drop 1)
    | none =>
      skipFields mark fields ((text.dropWhile Bytes.isSpace).dropWhile (!Bytes.isSpace ·))

/-- Leaves fields behind, but not the mark after the last one unless a place inside the next field is
wanted. -/
def skipToEnd (mark : Option Char) (within : Bool) : (fields : Nat) → List Char → List Char
  | 0, text => text
  | fields + 1, text =>
    match mark with
    | some m =>
      let rest := text.dropWhile (· != m)
      let rest := if 0 < fields || within then rest.drop 1 else rest
      skipToEnd mark within fields rest
    | none =>
      skipToEnd mark within fields ((text.dropWhile Bytes.isSpace).dropWhile (!Bytes.isSpace ·))

/-- The part of a line that a key is. -/
def SortKey.ofLine (k : SortKey) (mark : Option Char) (line : List Char) : List Char :=
  let start := skipFields mark k.field line
  let start := if k.skipsAtStart then start.dropWhile Bytes.isSpace else start
  let start := start.drop k.char
  match k.endField with
  | none => start
  | some field =>
    let fields := if k.endChar == 0 then field + 1 else field
    let rest := skipToEnd mark (k.endChar != 0) fields line
    let rest :=
      if k.endChar == 0 then rest
      else (if k.skipsAtEnd then rest.dropWhile Bytes.isSpace else rest).drop k.endChar
    start.take (start.length - rest.length)

/-! ## Comparing -/

/-- The digits of a number before and after its point, and whether it is below zero. -/
def decimalParts (text : List Char) : Bool × List Char × List Char :=
  let text := text.dropWhile Bytes.isSpace
  let (negative, body) := match text with
    | '-' :: rest => (true, rest)
    | rest => (false, rest)
  let (whole, rest) := body.span Char.isDigit
  let part := match rest with
    | '.' :: rest => rest.takeWhile Char.isDigit
    | _ => []
  (negative, whole.dropWhile (· == '0'), (part.reverse.dropWhile (· == '0')).reverse)

/-- Compares texts by their characters. -/
def compareChars : List Char → List Char → Ordering
  | [], [] => .eq
  | [], _ => .lt
  | _, [] => .gt
  | a :: as, b :: bs => if a == b then compareChars as bs else if a < b then .lt else .gt

/-- Compares the numbers at the front of texts. -/
def compareDecimal (a b : List Char) : Ordering :=
  let (aNegative, aWhole, aPart) := decimalParts a
  let (bNegative, bWhole, bPart) := decimalParts b
  let isZero (whole part : List Char) : Bool := whole.isEmpty && part.isEmpty
  let size : Ordering :=
    (compare aWhole.length bWhole.length).then
      ((compareChars aWhole bWhole).then (compareChars aPart bPart))
  match aNegative && !isZero aWhole aPart, bNegative && !isZero bWhole bPart with
  | false, false => size
  | true, true => size.swap
  | true, false => .lt
  | false, true => .gt

/-- Compares numbers with points and exponents; what is no number comes first. -/
def compareFloating (a b : List Char) : Ordering :=
  let rank (text : List Char) : Nat × Floating :=
    let (number, rest) := Floating.read 64 text
    match number with
    | .undefined => (1, number)
    | _ => if rest.length == text.length then (0, number) else (2, number)
  let (aRank, x) := rank a
  let (bRank, y) := rank b
  (compare aRank bRank).then (match x, y with
    | .fraction aNegative aTop aBottom, .fraction bNegative bTop bBottom =>
      let left : Int := (if aNegative then -1 else 1) * (aTop * bBottom : Nat)
      let right : Int := (if bNegative then -1 else 1) * (bTop * aBottom : Nat)
      compare left right
    | .infinite aNegative, .infinite bNegative =>
      if aNegative == bNegative then .eq else if aNegative then .lt else .gt
    | .infinite negative, _ => if negative then .lt else .gt
    | _, .infinite negative => if negative then .gt else .lt
    | _, _ => .eq)

/-- The place of the letter for a unit after a number. -/
def unitRank (text : List Char) : Int :=
  let text := text.dropWhile Bytes.isSpace
  let (negative, body) := match text with
    | '-' :: rest => (true, rest)
    | rest => (false, rest)
  let rest := body.dropWhile fun c => c.isDigit || c == '.'
  let rank : Nat := match rest with
    | 'K' :: _ | 'k' :: _ => 1
    | 'M' :: _ => 2
    | 'G' :: _ => 3
    | 'T' :: _ => 4
    | 'P' :: _ => 5
    | 'E' :: _ => 6
    | _ => 0
  let isZero := (body.takeWhile fun c => c.isDigit || c == '.').all fun c => c == '0' || c == '.'
  if isZero then 0 else if negative then -(rank : Int) else rank

/-- The number of the month that a text starts with the name of. -/
def monthRank (text : List Char) : Nat :=
  let name := ((text.dropWhile Bytes.isSpace).take 3).map Char.toUpper
  match ["JAN", "FEB", "MAR", "APR", "MAY", "JUN", "JUL", "AUG", "SEP", "OCT", "NOV",
      "DEC"].findIdx? (·.toList == name) with
  | some n => n + 1
  | none => 0

/-- The rank of a character in a version: a tilde comes before everything, letters before other
marks. -/
def versionRank (c : Option Char) : Int :=
  match c with
  | none => 0
  | some '~' => -1
  | some c => if c.isDigit then 0 else if c.isAlpha then c.toNat else (c.toNat : Int) + 256

/-- Compares versions: runs of other characters, then numbers, and so on. -/
def compareVersion : (more : Nat) → List Char → List Char → Ordering
  | 0, _, _ => .eq
  | _, [], [] => .eq
  | more + 1, a, b =>
    let letters (text : List Char) : List Char := text.takeWhile (!Char.isDigit ·)
    let rec marks : (more : Nat) → List Char → List Char → Ordering
      | 0, _, _ => .eq
      | _, [], [] => .eq
      | more + 1, x, y =>
        (compare (versionRank x.head?) (versionRank y.head?)).then (marks more x.tail y.tail)
    let x := letters a
    let y := letters b
    (marks (max x.length y.length + 1) x y).then
      (let (m, _, a) := spanDigits 10 (a.drop x.length)
       let (n, _, b) := spanDigits 10 (b.drop y.length)
       (compare m n).then (compareVersion more a b))

/-- Compares keys. -/
def KeyStyle.compare (s : KeyStyle) (a b : List Char) : Ordering :=
  let is (letter : Char) : Bool := s.letters.contains letter
  let result :=
    if is 'n' then compareDecimal a b
    else if is 'g' then compareFloating a b
    else if is 'h' then (Ord.compare (unitRank a) (unitRank b)).then (compareDecimal a b)
    else if is 'M' then Ord.compare (monthRank a) (monthRank b)
    else
      let kept (text : List Char) : List Char :=
        let text :=
          if is 'd' then text.filter fun c => c.isAlphanum || c == ' ' || c == '\t'
          else if is 'i' then text.filter fun c => 0x20 ≤ c.toNat && c.toNat ≤ 0x7E
          else text
        if is 'f' then text.map Char.toUpper else text
      if is 'V' then
        compareVersion (a.length + b.length + 2) (kept a) (kept b)
      else compareChars (kept a) (kept b)
  if s.reversed then result.swap else result

/-! ## Reading keys -/

/-- The letters that tell how keys are compared. -/
def keyLetters : List Char := ['b', 'd', 'f', 'g', 'h', 'i', 'M', 'n', 'R', 'r', 'V']

/-- One end of a key: its field, its character, its letters, and the rest. -/
def readKeyEnd (whole : String) (isStart : Bool) (text : List Char) :
    Except String (Nat × Nat × List Char × List Char) := do
  let (field, count, rest) := spanDigits 10 text
  if count == 0 then
    throw (if isStart then
        "invalid number at field start: invalid count at start of " ++ quoted (String.ofList text)
      else "invalid number after ',': invalid count at start of " ++ quoted (String.ofList text))
  if field == 0 then
    throw ("field number is zero: invalid field specification " ++ quoted whole)
  let (char, rest) ← match rest with
    | '.' :: rest =>
      let (char, count, rest') := spanDigits 10 rest
      if count == 0 then
        throw ("invalid number after '.': invalid count at start of " ++
          quoted (String.ofList rest))
      if isStart && char == 0 then
        throw ("character offset is zero: invalid field specification " ++ quoted whole)
      pure (char, rest')
    | rest => pure (if isStart then 1 else 0, rest)
  let (letters, rest) := rest.span keyLetters.contains
  return (field, char, letters, rest)

/-- A key from its text; where it has no letters of its own, those of the whole order count. -/
def readKey (orderLetters : List Char) (text : String) : Except String SortKey := do
  let stray {α : Type} : Except String α :=
    throw ("stray character in field spec: invalid field specification " ++ quoted text)
  let (field, char, letters, rest) ← readKeyEnd text true text.toList
  let (endField, endChar, endLetters) ← match rest with
    | [] => pure (none, 0, [])
    | ',' :: rest => do
      let (field, char, letters, rest) ← readKeyEnd text false rest
      if !rest.isEmpty then stray
      pure (some (field - 1), char, letters)
    | _ => stray
  let own := letters ++ endLetters
  let all := if own.isEmpty then orderLetters else own
  let global := own.isEmpty && orderLetters.contains 'b'
  return ⟨field - 1, char - 1, endField, endChar, letters.contains 'b' || global,
    endLetters.contains 'b' || global, ⟨all.filter (· != 'r'), all.contains 'r'⟩⟩

/-- The letters of a key that exclude each other, if there are such: there is one way at most to read
numbers, and none together with a choice of characters. -/
def excluding? (key : SortKey) : Option String :=
  let has (c : Char) : Bool := key.style.letters.contains c
  let ways := ['n', 'g', 'h', 'M'].countP has + if ['V', 'R', 'd', 'i'].any has then 1 else 0
  let order := ['d', 'f', 'g', 'h', 'i', 'M', 'n', 'R', 'V']
  if 1 < ways then
    some (String.ofList (order.filter fun c => has c && !(c == 'i' && has 'd')))
  else none

/-! ## Ordering lines -/

/-- Compares lines by keys. -/
def compareKeys (mark : Option Char) (keys : List SortKey) (a b : List Char) : Ordering :=
  match keys with
  | [] => .eq
  | k :: rest =>
    (k.style.compare (k.ofLine mark a) (k.ofLine mark b)).then (compareKeys mark rest a b)

/-- Lines without those that are the same as the one before them. -/
def withoutRepeats (isSame : List Char → List Char → Bool) : List (List Char) → List (List Char)
  | a :: b :: rest =>
    if isSame a b then withoutRepeats isSame (a :: rest)
    else a :: withoutRepeats isSame (b :: rest)
  | lines => lines
termination_by lines => lines.length

/-- The number of the first line that does not come after the one before it. -/
def disorder? (isBefore : List Char → List Char → Bool) : (number : Nat) → List (List Char) →
    Option (Nat × List Char)
  | n, a :: b :: rest =>
    if isBefore a b then disorder? isBefore (n + 1) (b :: rest) else some (n + 1, b)
  | _, _ => none

/-- The old way to write keys: `+1 -2` for the fields after the first one up to the second one. -/
def withoutOldKeys : List String → List String
  | [] => []
  | argument :: rest =>
    match argument.toList with
    | '+' :: d :: more =>
      if d.isDigit then
        let (n, _, letters) := spanDigits 10 (d :: more)
        let start := toString (n + 1) ++ String.ofList letters
        match rest with
        | next :: others =>
          match next.toList with
          | '-' :: e :: more =>
            if e.isDigit then
              let (n, _, letters) := spanDigits 10 (e :: more)
              "-k" :: (start ++ "," ++ toString n ++ String.ofList letters) ::
                withoutOldKeys others
            else "-k" :: start :: withoutOldKeys (next :: others)
          | _ => "-k" :: start :: withoutOldKeys (next :: others)
        | [] => ["-k", start]
      else argument :: withoutOldKeys rest
    | _ => argument :: withoutOldKeys rest

/-- Orders lines. -/
def sort : Tool := fun _ name arguments =>
  let specs := flags ([('b', "ignore-leading-blanks"), ('c', "check"), ('C', ""),
      ('d', "dictionary-order"), ('f', "ignore-case"), ('g', "general-numeric-sort"),
      ('h', "human-numeric-sort"), ('i', "ignore-nonprinting"), ('m', "merge"),
      ('M', "month-sort"), ('n', "numeric-sort"), ('r', "reverse"), ('R', "random-sort"),
      ('s', "stable"), ('u', "unique"), ('V', "version-sort"), ('z', "zero-terminated")]) ++
    valued [('k', "key"), ('o', "output"), ('t', "field-separator"), ('S', "buffer-size"),
      ('T', "temporary-directory")]
  withOptions name 2 (options specs (withoutOldKeys arguments)) fun given paths => do
    let orderLetters := (given.map Given.letter).filter keyLetters.contains
    let mark := value? given 't'
    let problem : Option String := match mark with
      | some "" => some "empty tab"
      | some "\\0" => none
      | some m => if 1 < m.length then some ("multi-character tab " ++ quoted m) else none
      | none => none
    let keyTexts := given.filterMap fun g => if g.letter == 'k' then g.value else none
    match problem, keyTexts.mapM (readKey orderLetters) with
    | some problem, _ =>
      complain name problem
      return 2
    | none, .error message =>
      complain name message
      return 2
    | none, .ok keys =>
      let whole : SortKey := ⟨0, 0, none, 0, false, false, ⟨orderLetters, false⟩⟩
      match (if keys.isEmpty then [whole] else keys).findSome? excluding? with
      | some letters =>
        complain name ("options '-" ++ letters ++ "' are incompatible")
        return 2
      | none => pure ()
      let mark := mark.map fun m => if m == "\\0" then '\x00' else (m.toList.head?).getD '\t'
      let tell (path : String) (why : Unreadable) : Run Unit :=
        match why with
        | .missing _ => complain name ("cannot read: " ++ shownPath path ++ ": " ++ why.message)
        | why => complain name ("read failed: " ++ shownPath path ++ ": " ++ why.message)
      let (texts, failed) ← sources paths tell
      if failed then return 2
      let lineMark := if has given 'z' then '\x00' else '\n'
      let lines := texts.flatMap fun (_, text) =>
        let parts := Bytes.split lineMark text
        (if parts.getLast? == some "" then parts.dropLast else parts).map String.toList
      let keys :=
        if keys.isEmpty && orderLetters.any (· != 'r') then
          [⟨0, 0, none, 0, orderLetters.contains 'b', false,
            ⟨orderLetters.filter (· != 'r'), orderLetters.contains 'r'⟩⟩]
        else keys
      let reversed := orderLetters.contains 'r'
      let byLine (a b : List Char) : Ordering :=
        let result := compareChars a b
        if reversed then result.swap else result
      let order (a b : List Char) : Ordering :=
        if keys.isEmpty then byLine a b
        else if has given 's' || has given 'u' then compareKeys mark keys a b
        else (compareKeys mark keys a b).then (byLine a b)
      if has given 'c' || has given 'C' then
        let isBefore (a b : List Char) : Bool :=
          match order a b with
          | .lt => true
          | .eq => !has given 'u'
          | .gt => false
        match disorder? isBefore 1 lines with
        | none => return 0
        | some (n, line) =>
          if has given 'c' then
            complain name (paths.headD "-" ++ ":" ++ toString n ++ ": disorder: " ++
              String.ofList line)
          return 1
      else
        let sorted :=
          if has given 'm' && texts.length ≤ 1 then lines
          else lines.mergeSort fun a b => order a b != .gt
        let sorted :=
          if has given 'u' then
            withoutRepeats (fun a b =>
              (if keys.isEmpty then byLine a b else compareKeys mark keys a b) == .eq) sorted
          else sorted
        let output := String.join (sorted.map fun line => (String.ofList line).push lineMark)
        match value? given 'o' with
        | some path =>
          if ← writeFile path output then return 0
          else
            complain name ("open failed: " ++ shownPath path ++ ": " ++ (← whyUnwritten path))
            return 2
        | none =>
          print output
          return 0

/-! ## Lines that repeat -/

/-- Runs of neighbours that are the same. -/
def runsOf (isSame : String → String → Bool) (lines : List String) : List (List String) :=
  lines.foldr (fun line runs =>
    match runs with
    | (next :: run) :: rest =>
      if isSame line next then (line :: next :: run) :: rest else [line] :: (next :: run) :: rest
    | runs => [line] :: runs) []

/-- Tells or drops lines that repeat. -/
def uniq : Tool := fun _ name arguments =>
  let specs := flags [('c', "count"), ('d', "repeated"), ('D', ""), ('i', "ignore-case"),
      ('u', "unique"), ('z', "zero-terminated")] ++
    valued [('f', "skip-fields"), ('s', "skip-chars"), ('w', "check-chars")] ++
    [⟨'D', "all-repeated", .perhaps⟩, ⟨'G', "group", .perhaps⟩]
  withOptions name 1 (options specs arguments) fun given paths => do
    if 2 < paths.length then
      misuse name ("extra operand " ++ quoted ((paths[2]?).getD ""))
      return 1
    let bad := [('f', "fields to skip"), ('s', "bytes to skip"), ('w', "bytes to compare")].findSome?
      fun (letter, what) =>
        (value? given letter).bind fun v =>
          if (Bytes.nat? v).isSome then none
          else some (v ++ ": invalid number of " ++ what)
    match bad with
    | some message =>
      complain name message
      return 1
    | none =>
      if has given 'c' && has given 'D' then
        misuse name "printing all duplicated lines and repeat counts is meaningless"
        return 1
      let number (letter : Char) : Option Nat := (value? given letter).bind Bytes.nat?
      let key (line : String) : String :=
        let rest := skipFields none ((number 'f').getD 0) line.toList
        let rest := rest.drop ((number 's').getD 0)
        let rest := match number 'w' with
          | some n => rest.take n
          | none => rest
        String.ofList (if has given 'i' then rest.map Char.toLower else rest)
      let path := paths.headD "-"
      match ← sourceText path with
      | .error why =>
        match why with
        | .isDirectory => complain name ("error reading " ++ quotedPath path ++ ": " ++ why.message)
        | why => tellPlainly name path why
        return 1
      | .ok text =>
        let lineMark := if has given 'z' then '\x00' else '\n'
        let parts := Bytes.split lineMark text
        let lines := if parts.getLast? == some "" then parts.dropLast else parts
        let runs := runsOf (fun a b => key a == key b) lines
        let shown :=
          if has given 'G' then
            [String.join ((runs.map fun run => String.join (run.map (·.push lineMark))).intersperse
              (String.singleton lineMark))]
          else if has given 'D' then
            (runs.filter fun run => 1 < run.length).flatMap fun run => run.map (·.push lineMark)
          else
            (runs.filter fun run =>
              !(has given 'd' && run.length == 1) && !(has given 'u' && 1 < run.length)).map
                fun run =>
                  (if has given 'c' then Bytes.padLeft 7 (toString run.length) ++ " " else "") ++
                    (run.headD "").push lineMark
        let output := String.join shown
        match paths.tail with
        | target :: _ =>
          if target == "-" then print output
          else
            let _ ← writeFile target output
        | [] => print output
        return 0

/-! ## Lines of two files -/

/-- The columns of the lines of two lists in order: only in the first one, only in the second one, or
in both. -/
def mergeColumns : (more : Nat) → List String → List String → List (Nat × String)
  | 0, _, _ => []
  | _, [], [] => []
  | more + 1, a :: as, [] => (1, a) :: mergeColumns more as []
  | more + 1, [], b :: bs => (2, b) :: mergeColumns more [] bs
  | more + 1, a :: as, b :: bs =>
    if a == b then (3, a) :: mergeColumns more as bs
    else if a < b then (1, a) :: mergeColumns more as (b :: bs)
    else (2, b) :: mergeColumns more (a :: as) bs

/-- Whether each line is not before the one before it. -/
def isOrdered : List String → Bool
  | a :: b :: rest => !(b < a) && isOrdered (b :: rest)
  | _ => true

/-- Compares the lines of two ordered files. -/
def comm : Tool := fun _ name arguments =>
  withOptions name 1 (options (flags [('1', ""), ('2', ""), ('3', ""), ('z', "zero-terminated"),
      ('K', "check-order"), ('N', "nocheck-order"), ('T', "total")] ++
      valued [('O', "output-delimiter")]) arguments) fun given paths => do
    match paths with
    | [] =>
      misuse name "missing operand"
      return 1
    | [one] =>
      misuse name ("missing operand after " ++ quoted one)
      return 1
    | first :: second :: rest =>
      match rest with
      | extra :: _ =>
        misuse name ("extra operand " ++ quoted extra)
        return 1
      | [] =>
        let (texts, failed) ← sources [first] (tellPlainly name)
        if failed then return 1
        let (others, failed) ← sources [second] (tellPlainly name)
        if failed then return 1
        let lines (texts : List (String × String)) : List String :=
          texts.flatMap fun (_, text) => Bytes.lines text
        let a := lines texts
        let b := lines others
        let mark := (value? given 'O').getD "\t"
        let is (letter : Char) : Bool := has given letter
        let shown := (mergeColumns (a.length + b.length + 1) a b).filterMap fun (column, line) =>
          match column with
          | 1 => if is '1' then none else some (line ++ "\n")
          | 2 => if is '2' then none else some ((if is '1' then "" else mark) ++ line ++ "\n")
          | _ =>
            if is '3' then none
            else some ((if is '1' then "" else mark) ++ (if is '2' then "" else mark) ++ line ++ "\n")
        print (String.join shown)
        let badFirst := !isOrdered a
        let badSecond := !isOrdered b
        if is 'N' || !(badFirst || badSecond) then return 0
        if badFirst then complain name "file 1 is not in sorted order"
        if badSecond then complain name "file 2 is not in sorted order"
        complain name "input is not in sorted order"
        return 1

end StateExplorer.Shell.Tool
