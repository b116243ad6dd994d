import OdooKeeper.Object.Pod

/-! # Volume claims -/

namespace OdooKeeper

open Json Json.Shape

structure Claim.Spec where
  accessModes : Option (List String) := none
  storageClassName : Option String := none
  resources : Option Resources := none
  volumeName : Option String := none
deriving DecidableEq

namespace Claim.Spec

def toJson (s : Claim.Spec) : Json :=
  record [("accessModes", s.accessModes.map ofTexts),
    ("resources", s.resources.map Resources.toJson),
    ("storageClassName", s.storageClassName.map .string),
    ("volumeName", s.volumeName.map .string)]

def ofJson : Reader Claim.Spec :=
  (mk <$> optional "accessModes" (readList readText) <*> optional "storageClassName" readText <*>
    optional "resources" (Resources.shape.decodeObject "VolumeResourceRequirements") <*>
    optional "volumeName" readText).decodeObject "PersistentVolumeClaimSpec"

end Claim.Spec

structure Claim.Content where
  spec : Option Claim.Spec := none
deriving DecidableEq

namespace Claim.Content

def members (c : Claim.Content) : List (String × Option Json) :=
  [("spec", c.spec.map Claim.Spec.toJson)]

def shape : Shape Claim.Content := mk <$> optional "spec" Claim.Spec.ofJson

end Claim.Content

end OdooKeeper
