import OdooKeeper.Object.Pod

/-! # Deployments

A deployment keeps a number of equal pods running and replaces them little by little. -/

namespace OdooKeeper

open Json Json.Shape

namespace Deployment

structure Selector where
  matchLabels : Option (Dict String) := none
deriving DecidableEq

def Selector.toJson (s : Selector) : Json :=
  record [("matchLabels", s.matchLabels.map (ofDict .string))]

def Selector.ofJson : Reader Selector :=
  (Selector.mk <$> optional "matchLabels" (readDict readText)).decodeObject "LabelSelector"

/-- How many pods may be added or missing while pods are replaced. -/
structure RollingUpdate where
  maxSurge : Option IntOrText := none
  maxUnavailable : Option IntOrText := none
deriving DecidableEq

def RollingUpdate.toJson (r : RollingUpdate) : Json :=
  record [("maxSurge", r.maxSurge.map IntOrText.toJson),
    ("maxUnavailable", r.maxUnavailable.map IntOrText.toJson)]

def RollingUpdate.ofJson : Reader RollingUpdate :=
  (RollingUpdate.mk <$> optional "maxSurge" IntOrText.ofJson <*>
    optional "maxUnavailable" IntOrText.ofJson).decodeObject "RollingUpdateDeployment"

structure Strategy where
  type : Option String := none
  rollingUpdate : Option RollingUpdate := none
deriving DecidableEq

def Strategy.toJson (s : Strategy) : Json :=
  record [("rollingUpdate", s.rollingUpdate.map RollingUpdate.toJson), ("type", s.type.map .string)]

def Strategy.ofJson : Reader Strategy :=
  (Strategy.mk <$> optional "type" readText <*>
    optional "rollingUpdate" RollingUpdate.ofJson).decodeObject "DeploymentStrategy"

structure Spec where
  replicas : Option Int32 := none
  selector : Selector := {}
  template : PodTemplate := {}
  strategy : Option Strategy := none
  revisionHistoryLimit : Option Int32 := none
  progressDeadlineSeconds : Option Int32 := none
  minReadySeconds : Option Int32 := none
  paused : Option Bool := none
deriving DecidableEq

def Spec.toJson (s : Spec) : Json :=
  record [("minReadySeconds", s.minReadySeconds.map ofInt32),
    ("paused", s.paused.map .bool),
    ("progressDeadlineSeconds", s.progressDeadlineSeconds.map ofInt32),
    ("replicas", s.replicas.map ofInt32),
    ("revisionHistoryLimit", s.revisionHistoryLimit.map ofInt32),
    ("selector", some s.selector.toJson),
    ("strategy", s.strategy.map Strategy.toJson),
    ("template", some s.template.toJson)]

def Spec.ofJson : Reader Spec :=
  (Spec.mk <$> optional "replicas" readInt32 <*> orZero "selector" Selector.ofJson {} <*>
    orZero "template" PodTemplate.ofJson {} <*> optional "strategy" Strategy.ofJson <*>
    optional "revisionHistoryLimit" readInt32 <*> optional "progressDeadlineSeconds" readInt32 <*>
    optional "minReadySeconds" readInt32 <*> optional "paused" readBool).decodeObject
    "DeploymentSpec"

structure Status where
  replicas : Option Int32 := none
  readyReplicas : Option Int32 := none
deriving DecidableEq

def Status.toJson (s : Status) : Json :=
  record [("readyReplicas", s.readyReplicas.map ofInt32), ("replicas", s.replicas.map ofInt32)]

def Status.ofJson : Reader Status :=
  (Status.mk <$> optional "replicas" readInt32 <*> optional "readyReplicas" readInt32).decodeObject
    "DeploymentStatus"

structure Content where
  spec : Option Spec := none
  status : Option Status := none
deriving DecidableEq

def Content.members (c : Content) : List (String × Option Json) :=
  [("spec", c.spec.map Spec.toJson), ("status", c.status.map Status.toJson)]

def Content.shape : Shape Content :=
  Content.mk <$> optional "spec" Spec.ofJson <*> optional "status" Status.ofJson

end Deployment

end OdooKeeper
