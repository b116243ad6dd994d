import OdooKeeper.Json.Decode

/-! # Schemas

Descriptions of JSON values for an API server, which checks and completes values by them. -/

namespace OdooKeeper.Json

/-- What a schema says about a value of any type. -/
structure Remarks where
  description : Option String := none
  default : Option Json := none
  nullable : Bool := false

/-- The type of a value and what is said about it. -/
inductive Schema where
  | text (format : Option String) (remarks : Remarks)
  | truth (remarks : Remarks)
  | integer (format : String) (minimum : Option Nat) (remarks : Remarks)
  | list (items : Schema) (minItems : Option Nat) (remarks : Remarks)
  | record (fields : List (String × Schema)) (required : List String) (remarks : Remarks)

namespace Remarks

/-- The remarks as members of a schema, with others between them. -/
def around (r : Remarks) (type : String) (early middle late : List (String × Option Json)) : Json :=
  Json.record ([("default", r.default), ("description", r.description.map .string)] ++ early ++
    middle ++ [("nullable", if r.nullable then some (.bool true) else none)] ++ late ++
    [("type", some (.string type))])

end Remarks

namespace Schema

/-- A number without a fraction that is written as a floating point number. -/
def wholeFloat (n : Nat) : Option Json := (Decimal.Binary64.ofNat? false n).map .float

mutual

def toJson : Schema → Json
  | .text format r => r.around "string" [("format", format.map .string)] [] []
  | .truth r => r.around "boolean" [] [] []
  | .integer format minimum r =>
    r.around "integer" [("format", some (.string format))]
      [("minimum", minimum.bind wholeFloat)] []
  | .list items minItems r =>
    r.around "array" [("items", some items.toJson)]
      [("minItems", minItems.map fun n => .integer n)] []
  | .record fields required r =>
    r.around "object" [] []
      [("properties", some (.object (fieldsToJson fields))),
        ("required", if required.isEmpty then none else some (ofTexts required))]

/-- The schemas of some fields, in the order of the fields. -/
def fieldsToJson : List (String × Schema) → List (String × Json)
  | [] => []
  | (key, schema) :: rest => (key, schema.toJson) :: fieldsToJson rest

end

/-- The schema of a value that may be null. -/
def orNull : Schema → Schema
  | .text format r => .text format { r with nullable := true }
  | .truth r => .truth { r with nullable := true }
  | .integer format minimum r => .integer format minimum { r with nullable := true }
  | .list items minItems r => .list items minItems { r with nullable := true }
  | .record fields required r => .record fields required { r with nullable := true }

end Schema

end OdooKeeper.Json
