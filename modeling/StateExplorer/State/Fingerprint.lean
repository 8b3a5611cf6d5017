import StateExplorer.Digest.Sha256
import StateExplorer.State.Basic
import StateExplorer.Text.Utf8

/-!
# Fingerprints of states

A fingerprint is the SHA-256 digest of a state's fields in name order: the name and a zero byte,
the number of values in eight bytes, then each value with a zero byte after it. States with the
same content share it, whatever number a store gave them.
-/

namespace StateExplorer

/-- The digest of what a state holds. -/
structure Fingerprint where
  chain : Sha256.Chain
deriving DecidableEq

namespace Fingerprint

/-- The eight bytes of a number, least significant first. -/
def littleEndian64 (n : Nat) : List UInt8 :=
  [0, 8, 16, 24, 32, 40, 48, 56].map fun shift => UInt8.ofNat (n >>> shift)

/-- A text with a zero byte after it. -/
def terminated (text : String) : List UInt8 :=
  Text.bytes text ++ [0]

/-- The bytes of one field. -/
def encodeField (name : String) (values : List String) : List UInt8 :=
  terminated name ++ littleEndian64 values.length ++ values.flatMap terminated

/-- The bytes that the digest is taken of. -/
def encode (fields : NameMap (List String)) : List UInt8 :=
  fields.entries.flatMap fun (name, values) => encodeField name values

/-- The fingerprint of a map of fields, whose values are taken in the order given. -/
def ofFields (fields : NameMap (List String)) : Fingerprint :=
  ⟨Sha256.digest (encode fields)⟩

/-- Two hexadecimal digits. -/
def hexByte (b : UInt8) : String :=
  String.ofList [Nat.digitChar (b.toNat / 16), Nat.digitChar (b.toNat % 16)]

/-- The fingerprint in sixty-four hexadecimal digits. -/
def hex (f : Fingerprint) : String :=
  String.join (f.chain.bytes.map hexByte)

/-- The first eight hexadecimal digits. -/
def short (f : Fingerprint) : String :=
  String.join ((f.chain.bytes.take 4).map hexByte)

end Fingerprint

/-- The fingerprint of a state. -/
def State.fingerprint (state : State) : Fingerprint :=
  .ofFields state.fields

end StateExplorer
