import StateExplorer.Shell.CharClass

/-!
# Patterns for words

In a pattern a star stands for any characters, a question mark for one, and a bracket for one
character of a set. Quoted characters stand for themselves, as does an open bracket that is never
closed.
-/

namespace StateExplorer.Shell

/-- A character of a pattern. -/
structure PatternChar where
  char : Char
  quoted : Bool
deriving DecidableEq

/-- A set of characters. -/
inductive CharSet
  | range (first last : Char)
  | named (name : String)

/-- Whether a character is in a set. -/
def CharSet.has (c : Char) : CharSet → Bool
  | .range first last => first ≤ c && c ≤ last
  | .named name => (charClass? name).any (· c)

/-- An item of a pattern. -/
inductive GlobItem
  | one (c : Char)
  | any
  | many
  | among (negated : Bool) (sets : List CharSet)

namespace Glob

/-- The name of a class that ends with a colon and a bracket, and the pattern after it. -/
def className? (pattern : List PatternChar) : Option (String × List PatternChar) :=
  match pattern with
  | ⟨':', false⟩ :: rest =>
    let (name, rest) := rest.span fun p => p.char.isAlpha
    match rest with
    | ⟨':', false⟩ :: ⟨']', false⟩ :: rest =>
      let name := String.ofList (name.map PatternChar.char)
      if (charClass? name).isSome then some (name, rest) else none
    | _ => none
  | _ => none

/-- The sets of a bracket up to its end, and the pattern after it. A bracket that closes is a
member if it comes first. -/
def bracketSets : (more : Nat) → (first : Bool) → List PatternChar →
    Option (List CharSet × List PatternChar)
  | 0, _, _ => none
  | _, _, [] => none
  | more + 1, first, p :: rest =>
    if p.char == ']' && !p.quoted && !first then some ([], rest)
    else
      match (if p.char == '[' && !p.quoted then className? rest else none) with
      | some (name, rest) =>
        (bracketSets more false rest).map fun (sets, rest) => (.named name :: sets, rest)
      | none =>
        let (p, rest) := match p, rest with
          | ⟨'\\', false⟩, q :: rest => (q, rest)
          | p, rest => (p, rest)
        match rest with
        | ⟨'-', false⟩ :: q :: after =>
          if q.char == ']' && !q.quoted then
            (bracketSets more false rest).map fun (sets, rest) => (.range p.char p.char :: sets, rest)
          else
            let (q, after) := match q, after with
              | ⟨'\\', false⟩, r :: after => (r, after)
              | q, after => (q, after)
            (bracketSets more false after).map fun (sets, rest) =>
              (.range p.char q.char :: sets, rest)
        | _ => (bracketSets more false rest).map fun (sets, rest) =>
          (.range p.char p.char :: sets, rest)

/-- The items of a pattern. -/
def items : (more : Nat) → List PatternChar → List GlobItem
  | 0, _ => []
  | _, [] => []
  | more + 1, p :: rest =>
    if p.quoted then .one p.char :: items more rest
    else
      match p.char with
      | '*' => .many :: items more rest
      | '?' => .any :: items more rest
      | '\\' =>
        match rest with
        | q :: rest => .one q.char :: items more rest
        | [] => [.one '\\']
      | '[' =>
        let (negated, inside) := match rest with
          | ⟨'!', false⟩ :: inside => (true, inside)
          | inside => (false, inside)
        match bracketSets (inside.length + 1) true inside with
        | some (sets, rest) => .among negated sets :: items more rest
        | none => .one '[' :: items more rest
      | c => .one c :: items more rest

/-- Whether items match a whole text. -/
def isMatch : List GlobItem → List Char → Bool
  | [], text => text.isEmpty
  | .many :: items, [] => isMatch items []
  | .many :: items, c :: text => isMatch items (c :: text) || isMatch (.many :: items) text
  | .one d :: items, c :: text => c == d && isMatch items text
  | .any :: items, _ :: text => isMatch items text
  | .among negated sets :: items, c :: text =>
    (sets.any (CharSet.has c) != negated) && isMatch items text
  | _ :: _, [] => false
termination_by items text => items.length + text.length

/-- The items of a pattern. -/
def read (pattern : List PatternChar) : List GlobItem :=
  items (pattern.length + 1) pattern

/-- Whether a pattern can match more than one text. -/
def isPattern (pattern : List PatternChar) : Bool :=
  pattern.any fun p => !p.quoted && (p.char == '*' || p.char == '?' || p.char == '[')

/-- A text without the longest or shortest part at one of its ends that matches. -/
def trim (fromStart longest : Bool) (pattern : List PatternChar) (text : List Char) : List Char :=
  let items := read pattern
  let sizes := List.range (text.length + 1)
  if fromStart then
    match (if longest then sizes.reverse else sizes).find? fun n => isMatch items (text.take n) with
    | some n => text.drop n
    | none => text
  else
    match (if longest then sizes else sizes.reverse).find? fun n => isMatch items (text.drop n) with
    | some n => text.take n
    | none => text

end Glob

end StateExplorer.Shell
