import OdooKeeper.App.Names

/-! # Routing

Which apps a change of an object concerns: the app that controls the object, the apps that give it
its name, and for a secret the apps whose configuration depends on it. -/

namespace OdooKeeper

/-! ## Changes -/

/-- An object of one of the kinds that are watched. -/
inductive Watched where
  | secret (object : Secret)
  | claim (object : Claim)
  | deployment (object : Deployment)
  | service (object : Service)
  | job (object : Job)

namespace Watched

def kind : Watched → Kind
  | .secret _ => .secret
  | .claim _ => .claim
  | .deployment _ => .deployment
  | .service _ => .service
  | .job _ => .job

def metadata : Watched → Metadata
  | .secret o => o.metadata
  | .claim o => o.metadata
  | .deployment o => o.metadata
  | .service o => o.metadata
  | .job o => o.metadata

def key (w : Watched) : ObjectKey := ⟨w.metadata.space, w.metadata.name.getD ""⟩

end Watched

inductive Change where
  | created (object : Watched)
  | updated (old new : Watched)
  | deleted (object : Watched)

/-- The object as it is after the change, or as it was last. -/
def Change.current : Change → Watched
  | .created o | .updated _ o | .deleted o => o

/-! ## Payloads -/

/-- What a secret holds; absent values are none. -/
structure Payload where
  data : Dict Bytes
  stringData : Dict String
deriving DecidableEq

def Payload.of (secret : Secret) : Payload where
  data := secret.content.data.getD ∅
  stringData := secret.content.stringData.getD ∅

/-- Whether a change leaves what a secret holds as it was. -/
def Change.keepsPayload : Change → Bool
  | .updated (.secret old) (.secret new) => Payload.of old = Payload.of new
  | _ => false

/-! ## Names that apps give -/

/-- The objects that an app names in its own namespace. -/
def App.namedObjects (app : App) : List (Kind × ObjectKey) :=
  [(.secret, ⟨app.space, app.configSecretName⟩), (.secret, ⟨app.space, app.adminSecretName⟩),
    (.claim, ⟨app.space, app.claimName⟩), (.deployment, ⟨app.space, app.deploymentName⟩),
    (.service, ⟨app.space, app.httpServiceName⟩), (.service, ⟨app.space, app.pollServiceName⟩),
    (.job, ⟨app.space, app.initJobName⟩)]

/-- The claim and the job that the status of an app records. -/
def App.recordedObjects (app : App) : List (Kind × ObjectKey) :=
  match app.content.status with
  | none => []
  | some status =>
    let claim := (status.dataClaimName.map fun name => (Kind.claim, ⟨app.space, name⟩)).toList
    let job := status.initJob
    let ns := if job.ns = "" then app.space else job.ns
    claim ++ if job.isIdle then [] else [(.job, ⟨ns, job.name⟩)]

/-- Every object that an app names or records, and the app. -/
def ownership (apps : List App) : List ((Kind × ObjectKey) × ObjectKey) :=
  apps.flatMap fun app =>
    (app.namedObjects ++ app.recordedObjects).map fun object => (object, app.key)

def owners (apps : List App) (kind : Kind) (key : ObjectKey) : List ObjectKey :=
  ((ownership apps).filter fun entry => entry.1 = (kind, key)).map Prod.snd

/-! ## Routes -/

/-- The app that controls an object, by its owner references. -/
def controllerKey? (w : Watched) : Option ObjectKey :=
  (w.metadata.owners.find? fun r =>
    r.controls && r.kind = Kind.app.name && r.apiVersion = Kind.app.apiVersion).map fun r =>
      ⟨w.metadata.space, r.name⟩

def secretUsers (apps : List App) (key : ObjectKey) : List ObjectKey :=
  (apps.filter fun app => app.space = key.ns && app.usesSecret key.name).map App.key

/-- The apps that a change concerns. An update of a secret that keeps its payload concerns none. -/
def route (change : Change) (apps : List App) : KeySet :=
  if change.keepsPayload then ∅
  else
    let object := change.current
    let users := if object.kind = .secret then secretUsers apps object.key else []
    KeySet.ofList ((controllerKey? object).toList ++ owners apps object.kind object.key ++ users)

def ObjectKey.appReference (key : ObjectKey) : String :=
  s!"{Kind.app.name}.{Kind.app.version}.{Kind.app.group}/{key.name}.{key.ns}"

end OdooKeeper
