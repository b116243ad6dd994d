import OdooKeeper.App.Spec
import OdooKeeper.Json.Time

/-! # What is known about an app

The status of an app: the objects that serve it, the modules that its database has, the job that is
installing modules, and the conditions that report on it. -/

namespace OdooKeeper

open Json Json.Shape

/-! ## Conditions -/

/-- A statement about an app, with the time when its status last changed. -/
structure Condition where
  type : String
  status : String
  reason : String
  message : String
  observedGeneration : Option Int64 := none
  lastTransitionTime : Timestamp
deriving DecidableEq

namespace Condition

def toJson (c : Condition) : Json :=
  record [("lastTransitionTime", some (ofTime c.lastTransitionTime)),
    ("message", some (.string c.message)),
    ("observedGeneration", c.observedGeneration.map ofInt64),
    ("reason", some (.string c.reason)),
    ("status", some (.string c.status)),
    ("type", some (.string c.type))]

/-- Reads a condition; absent texts are empty, but there must be a time. -/
def ofJson : Reader Condition :=
  (mk <$> orZero "type" readText "" <*> orZero "status" readText "" <*>
    orZero "reason" readText "" <*> orZero "message" readText "" <*>
    optional "observedGeneration" readInt64 <*>
    required "lastTransitionTime" readTime).decodeObject "Condition"

end Condition

/-! ## The job in flight -/

/-- The init job in flight. Without a name there is none. -/
structure JobRecord where
  name : String := ""
  ns : String := ""
  modules : List String := []
deriving DecidableEq

namespace JobRecord

def isIdle (r : JobRecord) : Bool := r.name = ""

def toJson (r : JobRecord) : Json :=
  record [("jobNamespace", some (.string r.ns)),
    ("modules", if r.modules.isEmpty then none else some (ofTexts r.modules)),
    ("name", some (.string r.name))]

def shape : Shape JobRecord :=
  mk <$> withDefault "name" readText "" <*> withDefault "jobNamespace" readText "" <*>
    withDefault "modules" (readList readText) []

def ofJson : Reader JobRecord := shape.decode "InitJobRecord"

end JobRecord

/-! ## The whole -/

structure App.Status where
  configSecretName : Option String := none
  dataClaimName : Option String := none
  installed : List String := []
  initJob : JobRecord := {}
  adminSecretName : Option String := none
  conditions : List Condition := []
deriving DecidableEq

namespace App.Status

def toJson (s : App.Status) : Json :=
  record [("conditions", some (ofList Condition.toJson s.conditions)),
    ("currentInitJob", some s.initJob.toJson),
    ("initModulesInstalled", some (ofTexts s.installed)),
    ("odooAdminSecretName", s.adminSecretName.map .string),
    ("odooConfigSecretName", s.configSecretName.map .string),
    ("odooDataPvcName", s.dataClaimName.map .string)]

def shape : Shape App.Status :=
  mk <$> optional "odooConfigSecretName" readText <*> optional "odooDataPvcName" readText <*>
    withDefault "initModulesInstalled" (readList readText) [] <*>
    withDefault "currentInitJob" JobRecord.ofJson {} <*>
    optional "odooAdminSecretName" readText <*>
    withDefault "conditions" (readList Condition.ofJson) []

def ofJson : Reader App.Status := shape.decode "OdooDeploymentStatus"

end App.Status

structure App.Content where
  spec : App.Spec
  status : Option App.Status := none
deriving DecidableEq

end OdooKeeper
