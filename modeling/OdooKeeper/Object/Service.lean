import OdooKeeper.Object.Pod

/-! # Services

A service gives the pods that it selects one address. -/

namespace OdooKeeper

open Json Json.Shape

namespace Service

/-- A port of the service and the port of the pods behind it. -/
structure Port where
  name : Option String := none
  port : Int32
  targetPort : Option IntOrText := none
  protocol : Option String := none
  nodePort : Option Int32 := none
deriving DecidableEq

def Port.toJson (p : Port) : Json :=
  record [("name", p.name.map .string), ("nodePort", p.nodePort.map ofInt32),
    ("port", some (ofInt32 p.port)), ("protocol", p.protocol.map .string),
    ("targetPort", p.targetPort.map IntOrText.toJson)]

def Port.ofJson : Reader Port :=
  (Port.mk <$> optional "name" readText <*> orZero "port" readInt32 0 <*>
    optional "targetPort" IntOrText.ofJson <*> optional "protocol" readText <*>
    optional "nodePort" readInt32).decodeObject "ServicePort"

/-- What a service offers, and the addresses that the cluster gave it. -/
structure Spec where
  selector : Option (Dict String) := none
  ports : Option (List Port) := none
  type : Option String := none
  sessionAffinity : Option String := none
  internalTrafficPolicy : Option String := none
  clusterIP : Option String := none
  clusterIPs : Option (List String) := none
  ipFamilies : Option (List String) := none
  ipFamilyPolicy : Option String := none
deriving DecidableEq

def Spec.toJson (s : Spec) : Json :=
  record [("clusterIP", s.clusterIP.map .string),
    ("clusterIPs", s.clusterIPs.map ofTexts),
    ("internalTrafficPolicy", s.internalTrafficPolicy.map .string),
    ("ipFamilies", s.ipFamilies.map ofTexts),
    ("ipFamilyPolicy", s.ipFamilyPolicy.map .string),
    ("ports", s.ports.map (ofList Port.toJson)),
    ("selector", s.selector.map (ofDict .string)),
    ("sessionAffinity", s.sessionAffinity.map .string),
    ("type", s.type.map .string)]

def Spec.ofJson : Reader Spec :=
  (Spec.mk <$> optional "selector" (readDict readText) <*>
    optional "ports" (readList Port.ofJson) <*> optional "type" readText <*>
    optional "sessionAffinity" readText <*>
    optional "internalTrafficPolicy" readText <*> optional "clusterIP" readText <*>
    optional "clusterIPs" (readList readText) <*> optional "ipFamilies" (readList readText) <*>
    optional "ipFamilyPolicy" readText).decodeObject "ServiceSpec"

/-- How a port of the service fares on an address outside the cluster. -/
structure PortStatus where
  port : Int32
  protocol : String
  error : Option String := none
deriving DecidableEq

def PortStatus.toJson (p : PortStatus) : Json :=
  record [("error", p.error.map .string), ("port", some (ofInt32 p.port)),
    ("protocol", some (.string p.protocol))]

def PortStatus.ofJson : Reader PortStatus :=
  (PortStatus.mk <$> orZero "port" readInt32 0 <*> orZero "protocol" readText "" <*>
    optional "error" readText).decodeObject "PortStatus"

structure Ingress where
  hostname : Option String := none
  ip : Option String := none
  ipMode : Option String := none
  ports : Option (List PortStatus) := none
deriving DecidableEq

def Ingress.toJson (i : Ingress) : Json :=
  record [("hostname", i.hostname.map .string), ("ip", i.ip.map .string),
    ("ipMode", i.ipMode.map .string), ("ports", i.ports.map (ofList PortStatus.toJson))]

def Ingress.ofJson : Reader Ingress :=
  (Ingress.mk <$> optional "hostname" readText <*> optional "ip" readText <*>
    optional "ipMode" readText <*>
    optional "ports" (readList PortStatus.ofJson)).decodeObject "LoadBalancerIngress"

structure LoadBalancer where
  ingress : Option (List Ingress) := none
deriving DecidableEq

def LoadBalancer.toJson (l : LoadBalancer) : Json :=
  record [("ingress", l.ingress.map (ofList Ingress.toJson))]

def LoadBalancer.ofJson : Reader LoadBalancer :=
  (LoadBalancer.mk <$> optional "ingress" (readList Ingress.ofJson)).decodeObject
    "LoadBalancerStatus"

/-- Where the service can be reached from outside the cluster. -/
structure Status where
  loadBalancer : Option LoadBalancer := none
deriving DecidableEq

def Status.toJson (s : Status) : Json :=
  record [("loadBalancer", s.loadBalancer.map LoadBalancer.toJson)]

def Status.ofJson : Reader Status :=
  (Status.mk <$> optional "loadBalancer" LoadBalancer.ofJson).decodeObject "ServiceStatus"

structure Content where
  spec : Option Spec := none
  status : Option Status := none
deriving DecidableEq

def Content.members (c : Content) : List (String × Option Json) :=
  [("spec", c.spec.map Spec.toJson), ("status", c.status.map Status.toJson)]

def Content.shape : Shape Content :=
  Content.mk <$> optional "spec" Spec.ofJson <*> optional "status" Status.ofJson

end Service

end OdooKeeper
