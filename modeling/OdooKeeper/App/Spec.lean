import OdooKeeper.Json.Decode

/-! # What an app asks for

The specification of one installation: its image, its database, its runtime settings, the modules to
install and the claim that holds its files. Every field has a value for when it is left out. -/

namespace OdooKeeper

open Json Json.Shape

/-! ## References to secrets -/

/-- One key of a secret in the namespace of the app. -/
structure SecretRef where
  name : String
  key : String
deriving DecidableEq

namespace SecretRef

/-- A reference counts only when both halves are filled in. -/
def isSet (r : SecretRef) : Bool := r.name ≠ "" && r.key ≠ ""

def toJson (r : SecretRef) : Json :=
  record [("key", some (.string r.key)), ("name", some (.string r.name))]

def shape : Shape SecretRef := mk <$> required "name" readText <*> required "key" readText

def ofJson : Reader SecretRef := shape.decode "SecretKeyRef"

end SecretRef

/-! ## Database -/

/-- How to reach the database. Each value is given outright and may be overridden by a secret. -/
structure DatabaseSettings where
  host : String := "postgresql"
  hostRef : Option SecretRef := none
  port : Int32 := 5432
  portRef : Option SecretRef := none
  user : String := "odoo"
  userRef : Option SecretRef := none
  password : Option String := none
  passwordRef : Option SecretRef := none
  name : String := "odoo"
  nameRef : Option SecretRef := none
  ssl : Bool := false
  sslRef : Option SecretRef := none
  maxConn : Int32 := 20
  maxConnRef : Option SecretRef := none
deriving DecidableEq

namespace DatabaseSettings

def toJson (d : DatabaseSettings) : Json :=
  record [("host", some (.string d.host)),
    ("hostFromSecret", d.hostRef.map SecretRef.toJson),
    ("maxConn", some (ofInt32 d.maxConn)),
    ("maxConnFromSecret", d.maxConnRef.map SecretRef.toJson),
    ("name", some (.string d.name)),
    ("nameFromSecret", d.nameRef.map SecretRef.toJson),
    ("password", d.password.map .string),
    ("passwordFromSecret", d.passwordRef.map SecretRef.toJson),
    ("port", some (ofInt32 d.port)),
    ("portFromSecret", d.portRef.map SecretRef.toJson),
    ("ssl", some (.bool d.ssl)),
    ("sslFromSecret", d.sslRef.map SecretRef.toJson),
    ("user", some (.string d.user)),
    ("userFromSecret", d.userRef.map SecretRef.toJson)]

def shape : Shape DatabaseSettings :=
  mk <$> withDefault "host" readText "postgresql" <*> optional "hostFromSecret" SecretRef.ofJson <*>
    withDefault "port" readInt32 5432 <*> optional "portFromSecret" SecretRef.ofJson <*>
    withDefault "user" readText "odoo" <*> optional "userFromSecret" SecretRef.ofJson <*>
    optional "password" readText <*> optional "passwordFromSecret" SecretRef.ofJson <*>
    withDefault "name" readText "odoo" <*> optional "nameFromSecret" SecretRef.ofJson <*>
    withDefault "ssl" readBool false <*> optional "sslFromSecret" SecretRef.ofJson <*>
    withDefault "maxConn" readInt32 20 <*> optional "maxConnFromSecret" SecretRef.ofJson

def ofJson : Reader DatabaseSettings := shape.decode "DatabaseConfig"

/-- Every reference that counts, in the order in which they are resolved. -/
def secretRefs (d : DatabaseSettings) : List SecretRef :=
  ([d.hostRef, d.portRef, d.userRef, d.passwordRef, d.nameRef, d.sslRef, d.maxConnRef].filterMap
    id).filter SecretRef.isSet

end DatabaseSettings

/-! ## Runtime -/

structure RuntimeSettings where
  adminSecretName : Option String := none
  debugMode : Bool := false
  dataDir : String := "/var/lib/odoo"
  withoutDemo : Bool := true
  proxyMode : Bool := true
  workers : Int32 := 2
  limitRequest : Int32 := 8192
  limitTimeReal : Int32 := 120
  limitTimeCpu : Int32 := 60
  limitMemorySoft : Int64 := 2147483648
  limitMemoryHard : Int64 := 2684354560
deriving DecidableEq

namespace RuntimeSettings

def toJson (r : RuntimeSettings) : Json :=
  record [("adminPasswordSecretName", r.adminSecretName.map .string),
    ("dataDir", some (.string r.dataDir)),
    ("debugMode", some (.bool r.debugMode)),
    ("limitMemoryHard", some (ofInt64 r.limitMemoryHard)),
    ("limitMemorySoft", some (ofInt64 r.limitMemorySoft)),
    ("limitRequest", some (ofInt32 r.limitRequest)),
    ("limitTimeCpu", some (ofInt32 r.limitTimeCpu)),
    ("limitTimeReal", some (ofInt32 r.limitTimeReal)),
    ("proxyMode", some (.bool r.proxyMode)),
    ("withoutDemo", some (.bool r.withoutDemo)),
    ("workers", some (ofInt32 r.workers))]

def shape : Shape RuntimeSettings :=
  mk <$> optional "adminPasswordSecretName" readText <*> withDefault "debugMode" readBool false <*>
    withDefault "dataDir" readText "/var/lib/odoo" <*> withDefault "withoutDemo" readBool true <*>
    withDefault "proxyMode" readBool true <*> withDefault "workers" readInt32 2 <*>
    withDefault "limitRequest" readInt32 8192 <*> withDefault "limitTimeReal" readInt32 120 <*>
    withDefault "limitTimeCpu" readInt32 60 <*>
    withDefault "limitMemorySoft" readInt64 2147483648 <*>
    withDefault "limitMemoryHard" readInt64 2684354560

def ofJson : Reader RuntimeSettings := shape.decode "OdooConfig"

end RuntimeSettings

/-! ## Files -/

/-- The claim that holds the files of the app. -/
structure FilestoreSettings where
  name : Option String := none
  createIfNotExists : Bool := true
  size : String := "10Gi"
  storageClassName : Option String := none
  accessModes : List String := ["ReadWriteOnce"]
deriving DecidableEq

namespace FilestoreSettings

def toJson (f : FilestoreSettings) : Json :=
  record [("accessModes", some (ofTexts f.accessModes)),
    ("createIfNotExists", some (.bool f.createIfNotExists)),
    ("name", f.name.map .string),
    ("size", some (.string f.size)),
    ("storageClassName", f.storageClassName.map .string)]

def shape : Shape FilestoreSettings :=
  mk <$> optional "name" readText <*> withDefault "createIfNotExists" readBool true <*>
    withDefault "size" readText "10Gi" <*> optional "storageClassName" readText <*>
    withDefault "accessModes" (readList readText) ["ReadWriteOnce"]

def ofJson : Reader FilestoreSettings := shape.decode "FilestoreSpec"

end FilestoreSettings

/-! ## The whole -/

structure App.Spec where
  name : String := ""
  replicas : Int32 := 1
  image : String := "odoo:18"
  imagePullPolicy : String := "IfNotPresent"
  database : DatabaseSettings := {}
  config : RuntimeSettings := {}
  modules : List String := ["base"]
  filestore : FilestoreSettings := {}
deriving DecidableEq

namespace App.Spec

def toJson (s : App.Spec) : Json :=
  record [("config", some s.config.toJson),
    ("database", some s.database.toJson),
    ("image", some (.string s.image)),
    ("imagePullPolicy", some (.string s.imagePullPolicy)),
    ("modules", some (ofTexts s.modules)),
    ("name", some (.string s.name)),
    ("odooFilestore", some s.filestore.toJson),
    ("replicas", some (ofInt32 s.replicas))]

def shape : Shape App.Spec :=
  mk <$> withDefault "name" readText "" <*> withDefault "replicas" readInt32 1 <*>
    withDefault "image" readText "odoo:18" <*>
    withDefault "imagePullPolicy" readText "IfNotPresent" <*>
    withDefault "database" DatabaseSettings.ofJson {} <*>
    withDefault "config" RuntimeSettings.ofJson {} <*>
    withDefault "modules" (readList readText) ["base"] <*>
    withDefault "odooFilestore" FilestoreSettings.ofJson {}

def ofJson : Reader App.Spec := shape.decode "OdooDeploymentSpec"

end App.Spec

end OdooKeeper
