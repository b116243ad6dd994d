import OdooKeeper.App.Desired
import OdooKeeper.ConfigFile
import OdooKeeper.Dependent
import OdooKeeper.Json.Covers

/-! # The dependents of an app

The credentials secret, the config secret, the claim for the files, the deployment and the two
services. -/

namespace OdooKeeper

namespace Dependent

/-! ## Secrets -/

def hasAdminPassword (secret : Secret) : Bool :=
  (secret.content.data.getD ∅).contains adminPasswordKey

/-- The credentials secret. A password that exists is never replaced; `fresh` is used when there is
none. A secret that the user named does not belong to the app. -/
def adminSecret (fresh : String) : Dependent .secret where
  role := .adminSecret
  name := App.adminSecretName
  owned app := app.userAdminSecretName?.isNone
  desired app live :=
    match live with
    | none => pure (app.adminSecret fresh)
    | some live =>
      let data := live.content.data.getD ∅
      let data :=
        if data.contains adminPasswordKey then data
        else data.insert adminPasswordKey (Bytes.ofText fresh)
      pure { live with content := { live.content with data := some data } }
  drifted live _ := !hasAdminPassword live
  merge _ desired := desired
  recorded name := some (.adminSecret name)

def configSecret (adminPassword : String) : Dependent .secret where
  role := .configSecret
  name := App.configSecretName
  desired app _ := do
    let db ← Connection.resolve app
    pure (app.configSecret (ConfigFile.render db app.content.spec.config adminPassword))
  drifted live desired := live.content.data ≠ desired.content.data
  merge live desired :=
    { live with
      content := { live.content with data := desired.content.data, stringData := none } }
  recorded name := some (.configSecret name)

/-! ## Storage -/

/-- The claim for the files. A claim that exists is never changed. -/
def filestore : Dependent .claim where
  role := .filestore
  name := App.claimName
  createOnly := true
  desired app live :=
    if live.isNone ∧ ¬app.content.spec.filestore.createIfNotExists then
      throw (.claimMissing app.claimName)
    else pure app.filestoreClaim
  drifted _ _ := false
  merge live _ := live
  recorded name := some (.dataClaim name)

/-! ## Workload -/

def specJson {α : Type} (write : α → Json) (spec : Option α) : Json := (spec.map write).getD .null

def deployment : Dependent .deployment where
  role := .workload
  name := App.deploymentName
  desired app _ := pure app.deployment
  drifted live desired :=
    !(specJson Deployment.Spec.toJson live.content.spec).covers
      (specJson Deployment.Spec.toJson desired.content.spec)
  merge live desired := { live with content := { live.content with spec := desired.content.spec } }

/-! ## Services -/

inductive ServicePart where
  | http
  | poll
deriving DecidableEq, Repr

/-- What a service offers, with the addresses that the cluster gave the one that exists. -/
def keepAddresses (desired live : Service.Spec) : Service.Spec :=
  { desired with
    clusterIP := live.clusterIP
    clusterIPs := live.clusterIPs
    ipFamilies := live.ipFamilies
    ipFamilyPolicy := live.ipFamilyPolicy }

/-- The service of a part as it should be, given the one that exists. -/
def desiredService (part : ServicePart) (app : App) (live : Option Service) : Service :=
  let fresh := match part with
    | .http => app.httpService
    | .poll => app.pollService
  match fresh.content.spec, live.bind fun l => l.content.spec with
  | some desired, some live =>
    { fresh with content := { spec := some (keepAddresses desired live) } }
  | _, _ => fresh

def service (part : ServicePart) : Dependent .service where
  role := match part with
    | .http => .httpService
    | .poll => .pollService
  name := match part with
    | .http => App.httpServiceName
    | .poll => App.pollServiceName
  desired app live := pure (desiredService part app live)
  drifted live desired :=
    !(specJson Service.Spec.toJson live.content.spec).covers
      (specJson Service.Spec.toJson desired.content.spec)
  merge live desired := { live with content := { live.content with spec := desired.content.spec } }

end Dependent

/-! ## Steps -/

/-- One of the dependents, with what it needs to know. -/
inductive Step where
  | adminSecret (fresh : String)
  | configSecret (adminPassword : String)
  | filestore
  | deployment
  | service (part : Dependent.ServicePart)
deriving DecidableEq

namespace Step

abbrev kind : Step → Kind
  | .adminSecret _ | .configSecret _ => .secret
  | .filestore => .claim
  | .deployment => .deployment
  | .service _ => .service

def dependent : (s : Step) → Dependent s.kind
  | .adminSecret fresh => .adminSecret fresh
  | .configSecret adminPassword => .configSecret adminPassword
  | .filestore => .filestore
  | .deployment => .deployment
  | .service part => .service part

end Step

end OdooKeeper
