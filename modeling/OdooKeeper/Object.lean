import OdooKeeper.App.Status
import OdooKeeper.Object.Claim
import OdooKeeper.Object.Deployment
import OdooKeeper.Object.Job
import OdooKeeper.Object.Secret
import OdooKeeper.Object.Service

/-! # Objects

A stored object has metadata and a content that its kind determines. -/

namespace OdooKeeper

open Json Json.Shape

/-! ## Kinds -/

/-- The kinds of objects that are read or written. -/
inductive Kind where
  | app
  | secret
  | claim
  | deployment
  | service
  | job
  | pod
deriving DecidableEq, Repr

namespace Kind

def all : List Kind := [.deployment, .job, .app, .claim, .pod, .secret, .service]

def name : Kind → String
  | .app => "OdooDeployment"
  | .secret => "Secret"
  | .claim => "PersistentVolumeClaim"
  | .deployment => "Deployment"
  | .service => "Service"
  | .job => "Job"
  | .pod => "Pod"

def ofName? (name : String) : Option Kind := all.find? fun k => k.name = name

/-- The group a kind belongs to; the core group has no name. -/
def group : Kind → String
  | .app => "odoo.abugharbia.com"
  | .deployment => "apps"
  | .job => "batch"
  | _ => ""

/-- The version in which a kind is read and written. -/
def version (_ : Kind) : String := "v1"

def apiVersion (k : Kind) : String :=
  if k.group = "" then k.version else k.group ++ "/" ++ k.version

/-- What an object of a kind holds besides its metadata. -/
abbrev Content : Kind → Type
  | .app => App.Content
  | .secret => Secret.Content
  | .claim => Claim.Content
  | .deployment => Deployment.Content
  | .service => Service.Content
  | .job => Job.Content
  | .pod => Pod.Content

instance (k : Kind) : DecidableEq k.Content := by
  cases k <;> infer_instance

end Kind

/-! ## Objects of a kind -/

structure Object (k : Kind) where
  metadata : Metadata
  content : k.Content
deriving DecidableEq

/-- A request for one installation, and what is known about it. -/
abbrev App := Object .app

abbrev Secret := Object .secret

abbrev Claim := Object .claim

/-- A number of equal pods that are kept running. -/
abbrev Deployment := Object .deployment

abbrev Service := Object .service

abbrev Job := Object .job

abbrev Pod := Object .pod

namespace Object

variable {k : Kind}

def name (o : Object k) : String := o.metadata.name.getD ""

/-! ## JSON -/

def contentMembers : {k : Kind} → k.Content → List (String × Option Json)
  | .app, c => [("spec", some c.spec.toJson), ("status", c.status.map App.Status.toJson)]
  | .secret, c => Secret.Content.members c
  | .claim, c => Claim.Content.members c
  | .deployment, c => Deployment.Content.members c
  | .service, c => Service.Content.members c
  | .job, c => Job.Content.members c
  | .pod, c => Pod.Content.members c

/-- Whether a member stands before the members that every object has. -/
def isEarly (member : String × Option Json) : Bool := member.1 < "kind"

/-- The object as JSON. It states its kind and has its metadata, even when that is empty. -/
def toJson (o : Object k) : Json :=
  let members := contentMembers o.content
  record (("apiVersion", some (.string k.apiVersion)) :: members.filter isEarly ++
    ("kind", some (.string k.name)) :: ("metadata", some o.metadata.toJson) ::
      members.filter fun m => !isEarly m)

/-- A kind that decodes only from its own version and kind, if these are stated, and whose metadata
may be absent. -/
def plain (k : Kind) (content : Shape k.Content) : Reader (Object k) :=
  ((fun _ _ metadata content => (⟨metadata, content⟩ : Object k)) <$>
    withDefault "apiVersion" (readExactly k.apiVersion) () <*>
    withDefault "kind" (readExactly k.name) () <*> orZero "metadata" Metadata.ofJson {} <*>
    content).decodeObject k.name

/-- The fields of an app. Its version and kind are not looked at. -/
def appShape : Shape App :=
  (fun metadata spec status => (⟨metadata, ⟨spec, status⟩⟩ : App)) <$>
    required "metadata" Metadata.ofJson <*> required "spec" App.Spec.ofJson <*>
    optionalMember "status" App.Status.ofJson

def ofJson : (k : Kind) → Reader (Object k)
  | .app => appShape.decode "OdooDeployment"
  | .secret => plain .secret Secret.Content.shape
  | .claim => plain .claim Claim.Content.shape
  | .deployment => plain .deployment Deployment.Content.shape
  | .service => plain .service Service.Content.shape
  | .job => plain .job Job.Content.shape
  | .pod => plain .pod Pod.Content.shape

end Object

end OdooKeeper
