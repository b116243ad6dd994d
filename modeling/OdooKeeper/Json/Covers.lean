import OdooKeeper.Json.Basic

/-! # Covering

A live value covers a desired one when it has all that the desired one asks for. What the desired
value does not mention may be anything. -/

namespace OdooKeeper.Json

/-- Values that a store may drop: null, and arrays and objects without content. -/
def isEmpty : Json → Bool
  | .null => true
  | .array items => items.isEmpty
  | .object members => members.isEmpty
  | _ => false

/-- Equality of values that are neither arrays nor objects. -/
def sameScalar : Json → Json → Bool
  | .null, .null => true
  | .bool a, .bool b => a == b
  | .integer a, .integer b => a == b
  | .float a, .float b => a.sameValue b
  | .string a, .string b => a == b
  | _, _ => false

mutual

def covers (live : Json) : Json → Bool
  | .null => true
  | .object desired =>
    match live with
    | .object members => coversMembers members desired
    | _ => false
  | .array desired =>
    match live with
    | .array items => coversItems items desired
    | _ => false
  | .bool b => sameScalar live (.bool b)
  | .integer n => sameScalar live (.integer n)
  | .float x => sameScalar live (.float x)
  | .string s => sameScalar live (.string s)

/-- Every desired member is covered by the live one of its key; one without may be empty. -/
def coversMembers (live : List (String × Json)) : List (String × Json) → Bool
  | [] => true
  | (key, desired) :: rest =>
    (match live.lookup key with
      | some value => covers value desired
      | none => desired.isEmpty) && coversMembers live rest

/-- As many items on both sides, each covered by the one in its place. -/
def coversItems (live : List Json) : List Json → Bool
  | [] => live.isEmpty
  | desired :: rest =>
    match live with
    | item :: items => covers item desired && coversItems items rest
    | [] => false

end

end OdooKeeper.Json
