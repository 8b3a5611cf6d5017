import StateExplorer.Text.Blank
import StateExplorer.Text.Columns
import StateExplorer.Text.Decimal
import StateExplorer.Text.Quoted
import StateExplorer.Text.Search

/-!
# Tuples of a solution

A solution gives the values of a field as tuples such as `State$3->A$0->B$0`: first the atom of a
state, whose number follows the last dollar sign, then the columns of the value, each marked as
an atom. The value itself is written without the marks.
-/

namespace StateExplorer.Tuple

/-- Why a text is no tuple. -/
inductive TupleError
  | noArrow (tuple : String)
  | noAtom (atom : String)
  | badIndex (tuple : String)
deriving DecidableEq

/-- A text quoted in a message. -/
def quote (s : String) : String :=
  String.ofList (Text.quoted s.toList)

/-- The wording of an error. -/
def TupleError.message : TupleError → String
  | .noArrow tuple => "malformed tuple " ++ quote tuple
  | .noAtom atom => "malformed state atom " ++ quote atom
  | .badIndex tuple => "bad state index in " ++ quote tuple

/-- The mark of an atom. -/
def atomMark : List Char := ['$', '0']

/-- The arrow between two columns. -/
def arrow : List Char := ['-', '>']

/-- A text without the marks of atoms. -/
def dropMarks : List Char → List Char
  | '$' :: '0' :: rest => dropMarks rest
  | c :: rest => c :: dropMarks rest
  | [] => []

/-- The number of the state that a tuple belongs to, and the value. -/
def parse (tuple : String) : Except TupleError (Nat × String) :=
  match Text.cut? arrow tuple.toList with
  | none => .error (.noArrow tuple)
  | some (atom, value) =>
    match Text.cutLast? '$' atom with
    | none => .error (.noAtom (String.ofList atom))
    | some (_, index) =>
      match Text.readNat? (Text.trim index) with
      | none => .error (.badIndex tuple)
      | some index => .ok (index, String.ofList (dropMarks value))

/-- The atom of a state. -/
def stateAtom (sig : String) (index : Nat) : String :=
  sig ++ "$" ++ toString index

/-- The tuple of a value in the state of a number. -/
def write (sig : String) (index : Nat) (value : String) : String :=
  stateAtom sig index ++
    String.ofList ((Text.columns value.toList).flatMap fun column =>
      arrow ++ Text.trim column ++ atomMark)

end StateExplorer.Tuple
