import OdooKeeper.Object.Metadata

/-! # Secrets -/

namespace OdooKeeper

open Json Json.Shape

/-- The content of a secret. Values given as text in `stringData` stand beside those in `data`. -/
structure Secret.Content where
  data : Option (Dict Bytes) := none
  stringData : Option (Dict String) := none
  type : Option String := none
  immutable : Option Bool := none
deriving DecidableEq

namespace Secret.Content

def members (c : Secret.Content) : List (String × Option Json) :=
  [("data", c.data.map (ofDict ofBytes)), ("immutable", c.immutable.map .bool),
    ("stringData", c.stringData.map (ofDict .string)), ("type", c.type.map .string)]

def shape : Shape Secret.Content :=
  mk <$> optional "data" (readDict readBytes) <*> optional "stringData" (readDict readText) <*>
    optional "type" readText <*> optional "immutable" readBool

/-- The bytes under a key: those in `data`, else the text in `stringData`. -/
def value? (c : Secret.Content) (key : String) : Option Bytes :=
  ((c.data.bind fun d => d.get? key)).or
    ((c.stringData.bind fun d => d.get? key).map Bytes.ofText)

end Secret.Content

end OdooKeeper
