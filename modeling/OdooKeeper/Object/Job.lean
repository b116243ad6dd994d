import OdooKeeper.Json.Time
import OdooKeeper.Object.Pod

/-! # Jobs

A job runs pods until one of them has ended well. -/

namespace OdooKeeper

open Json Json.Shape

namespace Job

/-- What a job runs and how often it tries. -/
structure Spec where
  template : PodTemplate := {}
  parallelism : Option Int32 := none
  backoffLimit : Option Int32 := none
deriving DecidableEq

def Spec.toJson (s : Spec) : Json :=
  record [("backoffLimit", s.backoffLimit.map ofInt32), ("parallelism", s.parallelism.map ofInt32),
    ("template", some s.template.toJson)]

def Spec.ofJson : Reader Spec :=
  (Spec.mk <$> orZero "template" PodTemplate.ofJson {} <*> optional "parallelism" readInt32 <*>
    optional "backoffLimit" readInt32).decodeObject "JobSpec"

/-- Something said about a job, with the times when it was last looked into and last changed. -/
structure Condition where
  type : String
  status : String
  reason : Option String := none
  message : Option String := none
  lastProbeTime : Option Timestamp := none
  lastTransitionTime : Option Timestamp := none
deriving DecidableEq

def Condition.toJson (c : Condition) : Json :=
  record [("lastProbeTime", c.lastProbeTime.map ofTime),
    ("lastTransitionTime", c.lastTransitionTime.map ofTime),
    ("message", c.message.map .string),
    ("reason", c.reason.map .string),
    ("status", some (.string c.status)),
    ("type", some (.string c.type))]

def Condition.ofJson : Reader Condition :=
  (Condition.mk <$> orZero "type" readText "" <*> orZero "status" readText "" <*>
    optional "reason" readText <*> optional "message" readText <*>
    optional "lastProbeTime" readTime <*> optional "lastTransitionTime" readTime).decodeObject
    "JobCondition"

/-- How many of a job's pods run, ended well and failed, and what is said about the job. -/
structure Status where
  active : Option Int32 := none
  succeeded : Option Int32 := none
  failed : Option Int32 := none
  ready : Option Int32 := none
  conditions : Option (List Condition) := none
deriving DecidableEq

def Status.toJson (s : Status) : Json :=
  record [("active", s.active.map ofInt32),
    ("conditions", s.conditions.map (ofList Condition.toJson)),
    ("failed", s.failed.map ofInt32), ("ready", s.ready.map ofInt32),
    ("succeeded", s.succeeded.map ofInt32)]

def Status.ofJson : Reader Status :=
  (Status.mk <$> optional "active" readInt32 <*> optional "succeeded" readInt32 <*>
    optional "failed" readInt32 <*> optional "ready" readInt32 <*>
    optional "conditions" (readList Condition.ofJson)).decodeObject "JobStatus"

structure Content where
  spec : Option Spec := none
  status : Option Status := none
deriving DecidableEq

def Content.members (c : Content) : List (String × Option Json) :=
  [("spec", c.spec.map Spec.toJson), ("status", c.status.map Status.toJson)]

def Content.shape : Shape Content :=
  Content.mk <$> optional "spec" Spec.ofJson <*> optional "status" Status.ofJson

end Job

end OdooKeeper
