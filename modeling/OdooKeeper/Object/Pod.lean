import OdooKeeper.Object.Metadata

/-! # Pods

What a pod runs: containers, the volumes they mount, and the account they run under. -/

namespace OdooKeeper

open Json Json.Shape

/-- A number or a text, such as a port by number or by name. -/
inductive IntOrText where
  | int (value : Int32)
  | text (value : String)
deriving DecidableEq

namespace IntOrText

def toJson : IntOrText → Json
  | .int n => ofInt32 n
  | .text s => .string s

def ofJson : Reader IntOrText :=
  let read : Json → Except DecodeError IntOrText
    | .string s => .ok (.text s)
    | .integer n =>
      if Int32.minValue.toInt ≤ n ∧ n ≤ Int32.maxValue.toInt then .ok (.int (Int32.ofInt n))
      else .error (.invalidValue (.integer n) "a 32-bit integer")
    | v => .error (.invalidType v "IntOrString")
  { scan := .entered read, read }

end IntOrText

/-! ## Containers -/

structure EnvVar where
  name : String
  value : Option String := none
deriving DecidableEq

namespace EnvVar

def toJson (e : EnvVar) : Json :=
  record [("name", some (.string e.name)), ("value", e.value.map .string)]

def ofJson : Reader EnvVar :=
  (mk <$> orZero "name" readText "" <*> optional "value" readText).decodeObject "EnvVar"

end EnvVar

structure ContainerPort where
  name : Option String := none
  containerPort : Int32
  protocol : Option String := none
deriving DecidableEq

namespace ContainerPort

def toJson (p : ContainerPort) : Json :=
  record [("containerPort", some (ofInt32 p.containerPort)), ("name", p.name.map .string),
    ("protocol", p.protocol.map .string)]

def ofJson : Reader ContainerPort :=
  (mk <$> optional "name" readText <*> orZero "containerPort" readInt32 0 <*>
    optional "protocol" readText).decodeObject "ContainerPort"

end ContainerPort

/-- What a container asks for and what it may use at most. -/
structure Resources where
  limits : Option (Dict String) := none
  requests : Option (Dict String) := none
deriving DecidableEq

namespace Resources

def toJson (r : Resources) : Json :=
  record [("limits", r.limits.map (ofDict .string)), ("requests", r.requests.map (ofDict .string))]

def shape : Shape Resources :=
  mk <$> optional "limits" (readDict readText) <*> optional "requests" (readDict readText)

def ofJson : Reader Resources := shape.decodeObject "ResourceRequirements"

end Resources

/-- A place in a container's file system where a volume of the pod appears. -/
structure VolumeMount where
  name : String
  mountPath : String
  subPath : Option String := none
  readOnly : Option Bool := none
deriving DecidableEq

namespace VolumeMount

def toJson (m : VolumeMount) : Json :=
  record [("mountPath", some (.string m.mountPath)), ("name", some (.string m.name)),
    ("readOnly", m.readOnly.map .bool), ("subPath", m.subPath.map .string)]

def ofJson : Reader VolumeMount :=
  (mk <$> orZero "name" readText "" <*> orZero "mountPath" readText "" <*>
    optional "subPath" readText <*> optional "readOnly" readBool).decodeObject "VolumeMount"

end VolumeMount

structure Container where
  name : String
  image : Option String := none
  imagePullPolicy : Option String := none
  command : Option (List String) := none
  args : Option (List String) := none
  env : Option (List EnvVar) := none
  ports : Option (List ContainerPort) := none
  resources : Option Resources := none
  volumeMounts : Option (List VolumeMount) := none
  terminationMessagePath : Option String := none
  terminationMessagePolicy : Option String := none
deriving DecidableEq

namespace Container

def toJson (c : Container) : Json :=
  record [("args", c.args.map ofTexts),
    ("command", c.command.map ofTexts),
    ("env", c.env.map (ofList EnvVar.toJson)),
    ("image", c.image.map .string),
    ("imagePullPolicy", c.imagePullPolicy.map .string),
    ("name", some (.string c.name)),
    ("ports", c.ports.map (ofList ContainerPort.toJson)),
    ("resources", c.resources.map Resources.toJson),
    ("terminationMessagePath", c.terminationMessagePath.map .string),
    ("terminationMessagePolicy", c.terminationMessagePolicy.map .string),
    ("volumeMounts", c.volumeMounts.map (ofList VolumeMount.toJson))]

def ofJson : Reader Container :=
  (mk <$> orZero "name" readText "" <*> optional "image" readText <*>
    optional "imagePullPolicy" readText <*> optional "command" (readList readText) <*>
    optional "args" (readList readText) <*> optional "env" (readList EnvVar.ofJson) <*>
    optional "ports" (readList ContainerPort.ofJson) <*> optional "resources" Resources.ofJson <*>
    optional "volumeMounts" (readList VolumeMount.ofJson) <*>
    optional "terminationMessagePath" readText <*>
    optional "terminationMessagePolicy" readText).decodeObject "Container"

end Container

/-! ## Volumes -/

structure ClaimVolume where
  claimName : String
  readOnly : Option Bool := none
deriving DecidableEq

namespace ClaimVolume

def toJson (v : ClaimVolume) : Json :=
  record [("claimName", some (.string v.claimName)), ("readOnly", v.readOnly.map .bool)]

def ofJson : Reader ClaimVolume :=
  (mk <$> orZero "claimName" readText "" <*> optional "readOnly" readBool).decodeObject
    "PersistentVolumeClaimVolumeSource"

end ClaimVolume

/-- A key of a secret and the file it becomes. -/
structure KeyToPath where
  key : String
  path : String
  mode : Option Int32 := none
deriving DecidableEq

namespace KeyToPath

def toJson (i : KeyToPath) : Json :=
  record [("key", some (.string i.key)), ("mode", i.mode.map ofInt32),
    ("path", some (.string i.path))]

def ofJson : Reader KeyToPath :=
  (mk <$> orZero "key" readText "" <*> orZero "path" readText "" <*>
    optional "mode" readInt32).decodeObject "KeyToPath"

end KeyToPath

/-- A volume with the values of a secret as files. -/
structure SecretVolume where
  secretName : Option String := none
  items : Option (List KeyToPath) := none
  defaultMode : Option Int32 := none
  optional : Option Bool := none
deriving DecidableEq

namespace SecretVolume

def toJson (v : SecretVolume) : Json :=
  record [("defaultMode", v.defaultMode.map ofInt32),
    ("items", v.items.map (ofList KeyToPath.toJson)),
    ("optional", v.optional.map .bool),
    ("secretName", v.secretName.map .string)]

def ofJson : Reader SecretVolume :=
  (mk <$> Shape.optional "secretName" readText <*>
    Shape.optional "items" (readList KeyToPath.ofJson) <*>
    Shape.optional "defaultMode" readInt32 <*> Shape.optional "optional" readBool).decodeObject
    "SecretVolumeSource"

end SecretVolume

/-- A volume that containers of a pod may mount by its name. -/
structure Volume where
  name : String
  claim : Option ClaimVolume := none
  secret : Option SecretVolume := none
deriving DecidableEq

namespace Volume

def toJson (v : Volume) : Json :=
  record [("name", some (.string v.name)),
    ("persistentVolumeClaim", v.claim.map ClaimVolume.toJson),
    ("secret", v.secret.map SecretVolume.toJson)]

def ofJson : Reader Volume :=
  (mk <$> orZero "name" readText "" <*> optional "persistentVolumeClaim" ClaimVolume.ofJson <*>
    optional "secret" SecretVolume.ofJson).decodeObject "Volume"

end Volume

/-! ## Pods -/

/-- The account that the processes of a pod run under. -/
structure PodSecurity where
  runAsUser : Option Int64 := none
  runAsGroup : Option Int64 := none
  runAsNonRoot : Option Bool := none
  fsGroup : Option Int64 := none
deriving DecidableEq

namespace PodSecurity

def toJson (s : PodSecurity) : Json :=
  record [("fsGroup", s.fsGroup.map ofInt64), ("runAsGroup", s.runAsGroup.map ofInt64),
    ("runAsNonRoot", s.runAsNonRoot.map .bool), ("runAsUser", s.runAsUser.map ofInt64)]

def ofJson : Reader PodSecurity :=
  (mk <$> optional "runAsUser" readInt64 <*> optional "runAsGroup" readInt64 <*>
    optional "runAsNonRoot" readBool <*> optional "fsGroup" readInt64).decodeObject
    "PodSecurityContext"

end PodSecurity

structure PodSpec where
  containers : List Container := []
  volumes : Option (List Volume) := none
  securityContext : Option PodSecurity := none
  restartPolicy : Option String := none
  dnsPolicy : Option String := none
  terminationGracePeriodSeconds : Option Int64 := none
  schedulerName : Option String := none
  nodeSelector : Option (Dict String) := none
  hostNetwork : Option Bool := none
  serviceAccountName : Option String := none
deriving DecidableEq

namespace PodSpec

def toJson (p : PodSpec) : Json :=
  record [("containers", some (ofList Container.toJson p.containers)),
    ("dnsPolicy", p.dnsPolicy.map .string),
    ("hostNetwork", p.hostNetwork.map .bool),
    ("nodeSelector", p.nodeSelector.map (ofDict .string)),
    ("restartPolicy", p.restartPolicy.map .string),
    ("schedulerName", p.schedulerName.map .string),
    ("securityContext", p.securityContext.map PodSecurity.toJson),
    ("serviceAccountName", p.serviceAccountName.map .string),
    ("terminationGracePeriodSeconds", p.terminationGracePeriodSeconds.map ofInt64),
    ("volumes", p.volumes.map (ofList Volume.toJson))]

def ofJson : Reader PodSpec :=
  (mk <$> orZero "containers" (readList Container.ofJson) [] <*>
    optional "volumes" (readList Volume.ofJson) <*>
    optional "securityContext" PodSecurity.ofJson <*> optional "restartPolicy" readText <*>
    optional "dnsPolicy" readText <*> optional "terminationGracePeriodSeconds" readInt64 <*>
    optional "schedulerName" readText <*> optional "nodeSelector" (readDict readText) <*>
    optional "hostNetwork" readBool <*> optional "serviceAccountName" readText).decodeObject
    "PodSpec"

end PodSpec

/-- The pods that a job or a deployment makes. -/
structure PodTemplate where
  metadata : Option Metadata := none
  spec : Option PodSpec := none
deriving DecidableEq

namespace PodTemplate

def toJson (t : PodTemplate) : Json :=
  record [("metadata", t.metadata.map Metadata.toJson), ("spec", t.spec.map PodSpec.toJson)]

def ofJson : Reader PodTemplate :=
  (mk <$> optional "metadata" Metadata.ofJson <*> optional "spec" PodSpec.ofJson).decodeObject
    "PodTemplateSpec"

end PodTemplate

structure Pod.Content where
  spec : Option PodSpec := none
deriving DecidableEq

namespace Pod.Content

def members (c : Pod.Content) : List (String × Option Json) := [("spec", c.spec.map PodSpec.toJson)]

def shape : Shape Pod.Content := mk <$> optional "spec" PodSpec.ofJson

end Pod.Content

end OdooKeeper
