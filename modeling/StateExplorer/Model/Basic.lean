import StateExplorer.Model.Predicate
import StateExplorer.Vocabulary

/-!
# Models

A model is a text with the initial predicate cut out of it. In its place stand the definitions of
the extra atoms, so that other predicates for the start can be put beside the rest.
-/

namespace StateExplorer

/-- A model: the text without its initial predicate, and that predicate. -/
structure Model where
  base : String
  init : String
deriving DecidableEq

namespace Model

/-- The name of an extra atom of a signature. -/
def extraAtom (sig : String) (i : Nat) : String :=
  sig ++ "_" ++ toString i

/-- The definition of the extra atoms of one signature. -/
def extraAtomsOf (sig : String) (count : Nat) : String :=
  if count = 0 then ""
  else
    "one sig " ++ ", ".intercalate ((List.range count).map (extraAtom sig)) ++ " extends " ++ sig ++
      " \x7b\x7d\n"

/-- The definitions of all extra atoms. -/
def extraAtoms (counts : NameMap Nat) : String :=
  String.join (counts.entries.map fun (sig, count) => extraAtomsOf sig count)

/-- Cuts the initial predicate out of a text, which must hold the transition relation as well. -/
def parse (text : String) (vocabulary : Vocabulary) : Except Predicate.LocateError Model := do
  let chars := text.toList
  if (Predicate.find? vocabulary.transitionRelation chars).isNone then
    throw (.missing vocabulary.transitionRelation)
  match ← Predicate.span? vocabulary.initPredicate chars with
  | none => throw (.missing vocabulary.initPredicate)
  | some span =>
    return {
      base := String.ofList span.before ++ extraAtoms vocabulary.extraAtoms ++
        String.ofList span.after
      init := String.ofList span.text }

end Model

end StateExplorer
