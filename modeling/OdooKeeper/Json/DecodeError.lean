import OdooKeeper.Json.Basic
import OdooKeeper.Text.Quoted

/-! # Decoding errors

Why a JSON value is not one of the values wanted. -/

namespace OdooKeeper.Json

/-- A value as it is named in an error. -/
def describe : Json → String
  | .null => "null"
  | .bool b => s!"boolean `{b}`"
  | .integer n => s!"integer `{n}`"
  | .float x => s!"floating point `{x.text}`"
  | .string s => s!"string {Text.quoted s}"
  | .array _ => "sequence"
  | .object _ => "map"

inductive DecodeError where
  | invalidType (found : Json) (expected : String)
  | invalidValue (found : Json) (expected : String)
  | missingField (key : String)
  | duplicateField (key : String)
  | tooFewItems (given : Nat) (record : String) (wanted : Nat)
  | tooManyItems (given : Nat)
  | unknownVariant (found : String) (known : List String)
  | malformed (reason : String)

namespace DecodeError

def choice : List String → String
  | [a] => s!"`{a}`"
  | [a, b] => s!"`{a}` or `{b}`"
  | names => "one of " ++ ", ".intercalate (names.map fun name => s!"`{name}`")

def message : DecodeError → String
  | .invalidType found expected => s!"invalid type: {found.describe}, expected {expected}"
  | .invalidValue found expected => s!"invalid value: {found.describe}, expected {expected}"
  | .missingField key => s!"missing field `{key}`"
  | .duplicateField key => s!"duplicate field `{key}`"
  | .tooFewItems given record wanted =>
    s!"invalid length {given}, expected struct {record} with {wanted} elements"
  | .tooManyItems given => s!"invalid length {given}, expected fewer elements in array"
  | .unknownVariant found known => s!"unknown variant `{found}`, expected {choice known}"
  | .malformed reason => reason

end DecodeError

end OdooKeeper.Json
