import StateExplorer.Session.Error
import StateExplorer.Session.Settings
import StateExplorer.Solution.Json
import StateExplorer.Toml.Basic

/-!
# Loading documents

Vocabularies and settings are written in TOML, documents of solutions in JSON, and transition
systems in either, as the name of their file says. A file that is missing, whose name no file can
have, or whose bytes are no UTF-8, cannot be loaded at all.
-/

namespace StateExplorer

/-- A file: its name, and what it holds if it is there. -/
structure File where
  name : String
  bytes : Option ByteArray

namespace File

/-- Whether a file can have a name: one without slashes, and not too long. -/
def isName (name : String) : Bool :=
  !name.toList.contains '/' && !name.toList.contains '\x00' && name.utf8ByteSize ≤ 255

/-- The text of a file, if it is there and holds one. -/
def text? (file : File) : Option String :=
  if isName file.name then file.bytes.bind String.fromUTF8? else none

/-- What follows the last dot of a file's name, unless the name begins with it. -/
def extension? (file : File) : Option String :=
  match Text.cutLast? '.' file.name.toList with
  | some (_ :: _, extension) => some (String.ofList extension)
  | _ => none

end File

namespace Vocabulary

/-- The vocabulary that a TOML text holds. -/
def ofToml (text : String) : Except SolverError Vocabulary :=
  match Datum.ofToml? text >>= ofDatum? Toml.lenient with
  | some vocabulary => .ok vocabulary
  | none => .error .unreadableConfig

/-- The vocabulary that a model carries, unless there is none or its block is blank. -/
def embedded (model : String) : Except SolverError (Option Vocabulary) :=
  match embeddedText model with
  | .error () => .error (.config (openingMarker ++ " without " ++ closingMarker))
  | .ok none => .ok none
  | .ok (some []) => .ok none
  | .ok (some block) => (ofToml (String.ofList block)).map some

/-- The vocabulary in a file. -/
def load (file : File) : Except SolverError Vocabulary :=
  match file.text? with
  | some text => ofToml text
  | none => .error .io

end Vocabulary

namespace Settings

/-- The settings that a TOML text holds. -/
def ofToml (text : String) : Except SessionError Settings :=
  match Datum.ofToml? text >>= ofDatum? Toml.lenient with
  | some settings => .ok settings
  | none => .error .unreadableConfig

/-- The settings in a file. -/
def load (file : File) : Except SessionError Settings :=
  match file.text? with
  | some text => ofToml text
  | none => .error .io

end Settings

namespace TransitionSystem

/-- The transition system that a TOML text holds. -/
def ofToml (text : String) : Except SolverError TransitionSystem :=
  match Datum.ofToml? text >>= ofDatum? Toml.lenient with
  | some system => .ok system
  | none => .error .unreadableConfig

/-- The transition system that a JSON text holds. -/
def ofJson (text : String) : Except SolverError TransitionSystem :=
  match Datum.ofJson? text >>= ofDatum? Json.strict with
  | some system => .ok system
  | none => .error .unreadableConfig

/-- The transition system in a file: in JSON if the name says so, else in TOML. -/
def load (file : File) : Except SolverError TransitionSystem :=
  match file.text? with
  | some text => if file.extension? = some "json" then ofJson text else ofToml text
  | none => .error .io

end TransitionSystem

namespace Document

/-- The document that a JSON text holds. -/
def ofJson (text : String) : Except SolverError Document :=
  match ofJson? text with
  | some document => .ok document
  | none => .error .unreadableDocument

/-- The document in a file. -/
def load (file : File) : Except SolverError Document :=
  match file.text? with
  | some text => ofJson text
  | none => .error .io

/-- A file with a name that holds a document. -/
def save (document : Document) (name : String) : Except SolverError File :=
  if File.isName name then .ok ⟨name, some document.toJson.toUTF8⟩ else .error .io

end Document

end StateExplorer
