import StateExplorer.Shell.Tool.Ends

/-!
# Comparing files

Two texts are compared line by line, where the lines that stay are a longest common part, or byte by
byte up to the first that differs.
-/

namespace StateExplorer.Shell.Tool

open Run

/-! ## Lines that differ -/

/-- A line of two texts: one that is in both, or only in the first or the second one. -/
inductive Change
  | both (line : String)
  | first (line : String)
  | second (line : String)

/-- The sizes of the longest common rows of a list of lines and the ends of another one, for a line
more; `next` holds those without that line. -/
def commonRow (line : String) : List String → (next : List Nat) → List Nat
  | [], _ => [0]
  | other :: rest, size :: next =>
    let row := commonRow line rest next
    let here := if line == other then (next.headD 0) + 1 else max size (row.headD 0)
    here :: row
  | _ :: _, [] => [0]

/-- The sizes of the longest common rows of all ends of two lists of lines. -/
def commonTable (second : List String) : List String → List (List Nat)
  | [] => [List.replicate (second.length + 1) 0]
  | line :: rest =>
    let table := commonTable second rest
    commonRow line second (table.headD []) :: table

/-- At most so many changes that lead from lines to others, by the table of their common rows. -/
def changesBy : (more : Nat) → List String → List String → List (List Nat) → List Change
  | 0, _, _, _ => []
  | more + 1, a :: first, b :: second, row :: table =>
    if a == b then .both a :: changesBy more first second (table.map List.tail)
    else if row.tail.headD 0 ≤ (table.headD []).headD 0 then
      .first a :: changesBy more first (b :: second) table
    else .second b :: changesBy more (a :: first) second (row.tail :: table.map List.tail)
  | _, first, second, _ => first.map .first ++ second.map .second

/-- The changes that lead from lines to others. -/
def changes (first second : List String) : List Change :=
  changesBy (first.length + second.length + 1) first second (commonTable second first)

/-- A stretch of changes between lines that both texts have, with how many lines come before it in
each of them. -/
structure Hunk where
  before₁ : Nat
  before₂ : Nat
  lines₁ : List String
  lines₂ : List String

/-- The stretches of changes. -/
def hunks (all : List Change) : List Hunk :=
  let step (acc : List Hunk × Option Hunk × Nat × Nat) (change : Change) :
      List Hunk × Option Hunk × Nat × Nat :=
    let (done, current, n, m) := acc
    let hunk := current.getD ⟨n, m, [], []⟩
    match change with
    | .both _ => (done ++ current.toList, none, n + 1, m + 1)
    | .first line => (done, some { hunk with lines₁ := hunk.lines₁ ++ [line] }, n + 1, m)
    | .second line => (done, some { hunk with lines₂ := hunk.lines₂ ++ [line] }, n, m + 1)
  let (done, current, _, _) := all.foldl step ([], none, 0, 0)
  done ++ current.toList

/-- A line after a mark; one that is not ended is told to be so. -/
def markedLine (mark line : String) : String :=
  if Bytes.isEnded line then mark ++ line
  else mark ++ line ++ "\n\\ No newline at end of file\n"

/-- A stretch of changes as it is usually shown. -/
def Hunk.shown (h : Hunk) : String :=
  let range (before size : Nat) : String :=
    if size ≤ 1 then toString (before + size)
    else toString (before + 1) ++ "," ++ toString (before + size)
  let n := h.lines₁.length
  let m := h.lines₂.length
  let letter := if n == 0 then "a" else if m == 0 then "d" else "c"
  range h.before₁ n ++ letter ++ range h.before₂ m ++ "\n" ++
    String.join (h.lines₁.map (markedLine "< ")) ++
    (if n != 0 && m != 0 then "---\n" else "") ++ String.join (h.lines₂.map (markedLine "> "))

/-- Stretches of changes that are near to each other, together. -/
def nearHunks (around : Nat) (all : List Hunk) : List (List Hunk) :=
  let step (acc : List (List Hunk)) (h : Hunk) : List (List Hunk) :=
    match acc with
    | (last :: others) :: done =>
      if h.before₁ ≤ last.before₁ + last.lines₁.length + 2 * around then
        (h :: last :: others) :: done
      else [h] :: acc
    | _ => [h] :: acc
  ((all.foldl step []).map List.reverse).reverse

/-- Near stretches of changes with the lines around them. -/
def shownTogether (around : Nat) (first : List String) (near : List Hunk) : String :=
  match near, near.getLast? with
  | start :: _, some last =>
    let from_ := start.before₁ - around
    let size := min first.length (last.before₁ + last.lines₁.length + around) - from_
    let lead := start.before₁ - from_
    let added := near.foldl (fun n h => n + h.lines₂.length) 0
    let gone := near.foldl (fun n h => n + h.lines₁.length) 0
    let size₂ := size + added - gone
    let range (before size : Nat) : String :=
      if size == 1 then toString (before + 1)
      else toString (if size == 0 then before else before + 1) ++ "," ++ toString size
    let plain (first_ last : Nat) : String :=
      String.join (((first.drop first_).take (last - first_)).map (markedLine " "))
    let body := near.foldl (fun (acc : String × Nat) h =>
      (acc.1 ++ plain acc.2 h.before₁ ++ String.join (h.lines₁.map (markedLine "-")) ++
        String.join (h.lines₂.map (markedLine "+")), h.before₁ + h.lines₁.length)) ("", from_)
    "@@ -" ++ range from_ size ++ " +" ++ range (start.before₂ - lead) size₂ ++ " @@\n" ++
      body.1 ++ plain body.2 (from_ + size)
  | _, _ => ""

/-- Tells how a program was called wrongly, for those that put their name before the advice too. -/
def misuseNamed (name text : String) : Run Unit := do
  complain name text
  complain name ("Try '" ++ name ++ " --help' for more information.")

/-- Two files to be compared: their names and their texts. -/
structure Pair where
  path₁ : String
  path₂ : String
  text₁ : String
  text₂ : String

/-- The texts of two paths; what cannot be read is told if that is wanted, of both or of the first
such. -/
def pair? (name : String) (tells both : Bool) (path₁ path₂ : String) : Run (Option Pair) := do
  let tell (path : String) (why : Unreadable) : Run Unit := do
    if tells then complain name (path ++ ": " ++ why.message)
  match ← sourceText path₁, ← sourceText path₂ with
  | .ok text₁, .ok text₂ => return some ⟨path₁, path₂, text₁, text₂⟩
  | first, second =>
    let isFirst ← match first with
      | .error why => do
        tell path₁ why
        pure true
      | .ok _ => pure false
    match second with
    | .error why => if both || !isFirst then tell path₂ why
    | .ok _ => pure ()
    return none

/-- Shows how two files differ. -/
def diff : Tool := fun _ name arguments => do
  match options (flags [('q', "brief"), ('s', "report-identical-files"), ('u', ""),
      ('a', "text"), ('b', "ignore-space-change"), ('w', "ignore-all-space"),
      ('i', "ignore-case"), ('B', "ignore-blank-lines"), ('r', "recursive"), ('N', "new-file")] ++
      valued [('U', "unified"), ('L', "label")]) arguments with
  | .error message =>
    misuseNamed name message
    return 2
  | .ok (given, paths) =>
    match paths with
    | [path₁, path₂] =>
      match ← pair? name true true path₁ path₂ with
      | none => return 2
      | some p =>
        let key (line : String) : String :=
          let chars := line.toList
          let chars := if has given 'i' then chars.map Char.toLower else chars
          let chars := if has given 'w' then chars.filter (!Bytes.isSpace ·) else chars
          if has given 'b' && !has given 'w' then " ".intercalate (Bytes.words (String.ofList chars))
          else String.ofList chars
        let first := pieces false '\n' p.text₁
        let second := pieces false '\n' p.text₂
        let all := if first.map key == second.map key then [] else hunks (changes first second)
        if all.isEmpty then
          if has given 's' then print ("Files " ++ path₁ ++ " and " ++ path₂ ++ " are identical\n")
          return 0
        else
          if has given 'q' then print ("Files " ++ path₁ ++ " and " ++ path₂ ++ " differ\n")
          else if has given 'u' || has given 'U' then
            let around := ((value? given 'U').bind Bytes.nat?).getD 3
            let labels := (given.filter (·.letter == 'L')).filterMap Given.value
            print ("--- " ++ labels.headD path₁ ++ "\n+++ " ++ labels.tail.headD path₂ ++ "\n")
            print (String.join ((nearHunks around all).map (shownTogether around first)))
          else print (String.join (all.map Hunk.shown))
          return 1
    | _ :: _ :: extra :: _ =>
      misuseNamed name ("extra operand '" ++ extra ++ "'")
      return 2
    | paths =>
      misuseNamed name ("missing operand after '" ++ paths.headD name ++ "'")
      return 2

/-- The place of the first byte that differs, with how many line ends come before it; nothing if one
text starts with the other one. -/
def firstDifference (place lines : Nat) : List Char → List Char → Option (Nat × Nat)
  | a :: first, b :: second =>
    if a == b then firstDifference (place + 1) (if a == '\n' then lines + 1 else lines) first second
    else some (place, lines)
  | _, _ => none

/-- The bytes that differ, each with its place. -/
def differences (place : Nat) : List Char → List Char → List (Nat × Char × Char)
  | a :: first, b :: second =>
    if a == b then differences (place + 1) first second
    else (place, a, b) :: differences (place + 1) first second
  | _, _ => []

/-- Compares two files byte by byte. -/
def cmp : Tool := fun _ name arguments => do
  match options (flags [('s', "quiet"), ('s', "silent"), ('l', "verbose"), ('b', "print-bytes")] ++
      valued [('n', "bytes"), ('i', "ignore-initial")]) arguments with
  | .error message =>
    misuseNamed name message
    return 2
  | .ok (given, paths) =>
    match paths with
    | [] =>
      misuseNamed name ("missing operand after '" ++ name ++ "'")
      return 2
    | path₁ :: rest =>
      let path₂ := rest.headD "-"
      match ← pair? name (!has given 's') false path₁ path₂ with
      | none => return 2
      | some p =>
        let cut (text : String) : List Char :=
          let text := text.toList.drop (((value? given 'i').bind Bytes.nat?).getD 0)
          match (value? given 'n').bind Bytes.nat? with
          | some size => text.take size
          | none => text
        let a := cut p.text₁
        let b := cut p.text₂
        if a == b then return 0
        if has given 's' then return 1
        let shorter := if a.length ≤ b.length then path₁ else path₂
        let common := min a.length b.length
        if has given 'l' then
          if a.length != b.length then
            complain name ("EOF on " ++ shorter ++ " after byte " ++ toString common)
          let width := (toString (min a.length b.length)).length
          let octal (c : Char) : String :=
            Bytes.padLeft 3 (String.ofList (Nat.toDigits 8 c.toNat))
          print (String.join ((differences 1 a b).map fun (place, c, d) =>
            Bytes.padLeft width (toString place) ++ " " ++ octal c ++ " " ++ octal d ++ "\n"))
          return 1
        match firstDifference 1 1 a b with
        | some (place, lines) =>
          print (path₁ ++ " " ++ path₂ ++ " differ: char " ++ toString place ++ ", line " ++
            toString lines ++ "\n")
        | none =>
          if common == 0 then complain name ("EOF on " ++ shorter ++ " which is empty")
          else
            let taken := a.take common
            let lines := (taken.filter (· == '\n')).length
            let place := if taken.getLast? == some '\n' then ", line " ++ toString lines
              else ", in line " ++ toString (lines + 1)
            complain name ("EOF on " ++ shorter ++ " after byte " ++ toString common ++ place)
        return 1

end StateExplorer.Shell.Tool
