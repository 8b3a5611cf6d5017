import StateExplorer.Solution.Basic

/-!
# The signatures of a solution

A solution lists the atoms of every signature under a label. Shown are the signatures under their
bare names, without the universe and without those that were made for extra atoms.
-/

namespace StateExplorer.Solution

/-- The name of a signature: its label without the mark of the model's own signatures. -/
def bareName (label : String) : String :=
  match Text.dropStart? ['t', 'h', 'i', 's', '/'] label.toList with
  | some name => String.ofList name
  | none => label

/-- The signature of all atoms. -/
def univ : String := "univ"

/-- Whether a signature was made for an extra atom: its name is that of a signature with extra
atoms, an underscore, and a number below their count. -/
def isExtraAtom (extra : NameMap Nat) (name : String) : Bool :=
  match Text.cutLast? '_' name.toList with
  | none => false
  | some (sig, index) =>
    match extra.get? (String.ofList sig), Text.readNat? index with
    | some count, some i => i < count
    | _, _ => false

/-- The name of an atom: what comes before its mark. -/
def atomName (atom : String) : String :=
  match Text.dropEnd? Tuple.atomMark atom.toList with
  | some name => String.ofList name
  | none => atom

/-- Whether a signature is shown. -/
def isShown (extra : NameMap Nat) (label : String) : Bool :=
  bareName label != univ && !isExtraAtom extra (bareName label)

/-- The names of the atoms of each signature that is shown, by its bare name. -/
def scopes (s : Solution) (extra : NameMap Nat) : Except DecodeError (NameMap (List String)) := do
  let labels := (← s.sigs).filter (isShown extra)
  let shown ← labels.mapM fun label =>
    (s.atoms label).map fun atoms => (bareName label, atoms.map atomName)
  return .ofList shown

end StateExplorer.Solution
