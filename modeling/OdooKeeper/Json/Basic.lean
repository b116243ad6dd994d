import OdooKeeper.Decimal.Binary64

/-! # JSON values

Integers and floating point numbers are kept apart: `1` is not `1.0`. -/

namespace OdooKeeper

/-- A JSON value. The members of an object stand in ascending order of their keys, each key once. -/
inductive Json where
  | null
  | bool (value : Bool)
  | integer (value : Int)
  | float (value : Decimal.Binary64)
  | string (value : String)
  | array (items : List Json)
  | object (members : List (String × Json))
deriving Inhabited

namespace Json

def get? (key : String) : Json → Option Json
  | .object members => members.lookup key
  | _ => none

def text? : Json → Option String
  | .string s => some s
  | _ => none

/-- Puts a member in its place by key, replacing one with the same key. -/
def putMember (key : String) (value : Json) : List (String × Json) → List (String × Json)
  | [] => [(key, value)]
  | (k, v) :: rest =>
    if key < k then (key, value) :: (k, v) :: rest
    else if key = k then (key, value) :: rest
    else (k, v) :: putMember key value rest

/-- The object with some members, the last of those with one key. -/
def ofMembers (members : List (String × Json)) : Json :=
  .object (members.foldl (fun sofar (key, value) => putMember key value sofar) [])

/-- The object with those of the members that are present. They are given in order of their keys. -/
def record (members : List (String × Option Json)) : Json :=
  .object (members.filterMap fun (key, value) => value.map fun v => (key, v))

def ofText? (text : Option String) : Json := (text.map Json.string).getD .null

def ofTexts (texts : List String) : Json := .array (texts.map Json.string)

end Json

end OdooKeeper
