import OdooKeeper.Json.Decode

/-! # Metadata

What every stored object has, whatever its kind. -/

namespace OdooKeeper

open Json Json.Shape

/-- A reference to an object that another one belongs to. -/
structure OwnerReference where
  apiVersion : String
  kind : String
  name : String
  uid : String
  controller : Option Bool := none
  blockOwnerDeletion : Option Bool := none
deriving DecidableEq

namespace OwnerReference

def toJson (r : OwnerReference) : Json :=
  record [("apiVersion", some (.string r.apiVersion)),
    ("blockOwnerDeletion", r.blockOwnerDeletion.map .bool),
    ("controller", r.controller.map .bool),
    ("kind", some (.string r.kind)),
    ("name", some (.string r.name)),
    ("uid", some (.string r.uid))]

def ofJson : Reader OwnerReference :=
  (mk <$> orZero "apiVersion" readText "" <*> orZero "kind" readText "" <*>
    orZero "name" readText "" <*> orZero "uid" readText "" <*>
    optional "controller" readBool <*> optional "blockOwnerDeletion" readBool).decodeObject
    "OwnerReference"

/-- Whether the reference is to the one owner that controls the object. -/
def controls (r : OwnerReference) : Bool := r.controller = some true

end OwnerReference

/-- The metadata of an object. `resourceVersion` and `uid` are assigned by the store. -/
structure Metadata where
  name : Option String := none
  ns : Option String := none
  generateName : Option String := none
  uid : Option String := none
  generation : Option Int64 := none
  resourceVersion : Option String := none
  labels : Option (Dict String) := none
  annotations : Option (Dict String) := none
  ownerReferences : Option (List OwnerReference) := none
deriving DecidableEq, Inhabited

namespace Metadata

def toJson (m : Metadata) : Json :=
  record [("annotations", m.annotations.map (ofDict .string)),
    ("generateName", m.generateName.map .string),
    ("generation", m.generation.map ofInt64),
    ("labels", m.labels.map (ofDict .string)),
    ("name", m.name.map .string),
    ("namespace", m.ns.map .string),
    ("ownerReferences", m.ownerReferences.map (ofList OwnerReference.toJson)),
    ("resourceVersion", m.resourceVersion.map .string),
    ("uid", m.uid.map .string)]

def ofJson : Reader Metadata :=
  (mk <$> optional "name" readText <*> optional "namespace" readText <*>
    optional "generateName" readText <*> optional "uid" readText <*>
    optional "generation" readInt64 <*> optional "resourceVersion" readText <*>
    optional "labels" (readDict readText) <*> optional "annotations" (readDict readText) <*>
    optional "ownerReferences" (readList OwnerReference.ofJson)).decodeObject "ObjectMeta"

/-- The name, or else the text that a generated name starts with, or else nothing. -/
def anyName (m : Metadata) : String := (m.name.or m.generateName).getD ""

def space (m : Metadata) : String := m.ns.getD "default"

/-- The owner references, none when the list is absent. -/
def owners (m : Metadata) : List OwnerReference := m.ownerReferences.getD []

def label? (m : Metadata) (key : String) : Option String := m.labels.bind fun l => l.get? key

end Metadata

end OdooKeeper
