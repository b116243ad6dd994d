import OdooKeeper.Json.Basic

/-! # JSON text

A value on one line without spaces, members in the order of the value. -/

namespace OdooKeeper.Json

/-- One character inside a string: quotes, backslashes and controls are escaped. -/
def escapeChar (c : Char) : String :=
  if c = '"' then "\\\""
  else if c = '\\' then "\\\\"
  else if c = '\n' then "\\n"
  else if c = '\r' then "\\r"
  else if c = '\t' then "\\t"
  else if c = '\x08' then "\\b"
  else if c = '\x0c' then "\\f"
  else if c.toNat < 0x20 then
    String.ofList ['\\', 'u', '0', '0', Nat.digitChar (c.toNat / 16), Nat.digitChar (c.toNat % 16)]
  else String.ofList [c]

def writeString (out : String) (s : String) : String :=
  (s.toList.foldl (fun out c => out ++ escapeChar c) (out.push '"')).push '"'

mutual

def write (out : String) : Json → String
  | .null => out ++ "null"
  | .bool true => out ++ "true"
  | .bool false => out ++ "false"
  | .integer n => out ++ toString n
  | .float x => out ++ x.text
  | .string s => writeString out s
  | .array items => (writeItems (out.push '[') true items).push ']'
  | .object members => (writeMembers (out.push '\x7b') true members).push '\x7d'

/-- Writes the items of an array; `first` says that none stands before them. -/
def writeItems (out : String) (first : Bool) : List Json → String
  | [] => out
  | item :: rest => writeItems (write (if first then out else out.push ',') item) false rest

/-- Writes the members of an object; `first` says that none stands before them. -/
def writeMembers (out : String) (first : Bool) : List (String × Json) → String
  | [] => out
  | (key, value) :: rest =>
    let out := writeString (if first then out else out.push ',') key
    writeMembers (write (out.push ':') value) false rest

end

def compact (value : Json) : String := value.write ""

end OdooKeeper.Json
