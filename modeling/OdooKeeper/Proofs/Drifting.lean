import Mathlib.Data.List.DropRight
import OdooKeeper.App.Sample
import OdooKeeper.Proofs.Abreast
import OdooKeeper.Proofs.Converging
import OdooKeeper.Proofs.Coverage

/-! # What makes a deployment drift

The spec of an app's deployment depends on six things about the app, and each of them stands in the spec
where it is compared. So a deployment is written again exactly when one of them has changed. -/

namespace OdooKeeper

/-! ## Directories -/

/-- Both are one path with any number of slashes at the end. -/
def SameButEndSlashes (a b : String) : Prop :=
  ∃ path m n, a.toList = path ++ List.replicate m '/' ∧ b.toList = path ++ List.replicate n '/'

section EndSlashes

variable {a b : String}

theorem withoutEndSlashes_of_append {path : List Char} {n : Nat}
    (h : a.toList = path ++ List.replicate n '/') :
    withoutEndSlashes a = String.ofList (path.rdropWhile fun c => c = '/') := by
  have hslashes : ∀ c ∈ List.replicate n '/', decide (c = '/') = true := fun c hc =>
    decide_eq_true (List.eq_of_mem_replicate hc)
  rw [withoutEndSlashes, h, List.reverse_append, List.reverse_replicate,
    List.dropWhile_append_of_pos hslashes]
  rfl

theorem exists_endSlashes (a : String) :
    ∃ n, a.toList = (withoutEndSlashes a).toList ++ List.replicate n '/' := by
  let slash : Char → Bool := fun c => c = '/'
  have hslashes : ∀ c ∈ a.toList.rtakeWhile slash, c = '/' := fun c hc =>
    of_decide_eq_true (List.mem_rtakeWhile_imp (p := slash) hc)
  refine ⟨(a.toList.rtakeWhile slash).length, ?_⟩
  rw [← List.eq_replicate_of_mem hslashes, withoutEndSlashes, String.toList_ofList]
  exact List.rdropWhile_append_rtakeWhile.symm

theorem withoutEndSlashes_eq_iff :
    withoutEndSlashes a = withoutEndSlashes b ↔ SameButEndSlashes a b := by
  constructor
  · intro hsame
    obtain ⟨m, ha⟩ := exists_endSlashes a
    obtain ⟨n, hb⟩ := exists_endSlashes b
    exact ⟨(withoutEndSlashes b).toList, m, n, hsame ▸ ha, hb⟩
  · rintro ⟨path, m, n, ha, hb⟩
    rw [withoutEndSlashes_of_append ha, withoutEndSlashes_of_append hb]

end EndSlashes

/-! ## What a deployment is made of -/

/-- Two apps want the same deployment. -/
structure App.AgreesOnDeployment (a b : App) : Prop where
  instanceName : a.instanceName = b.instanceName
  replicas : a.content.spec.replicas = b.content.spec.replicas
  image : a.content.spec.image = b.content.spec.image
  imagePullPolicy : a.content.spec.imagePullPolicy = b.content.spec.imagePullPolicy
  claimName : a.claimName = b.claimName
  dataDir : SameButEndSlashes a.content.spec.config.dataDir b.content.spec.config.dataDir

/-- What the spec of a deployment has from its app. -/
inductive Deployment.Part where
  | instanceName
  | replicas
  | image
  | imagePullPolicy
  | claimName
  | dataDir

namespace Deployment.Part

open Json (Path)

def pods : Path := [.key "template", .key "spec"]

/-- Where the spec has what it has from the app, at one place at least. -/
def path : Part → Path
  | instanceName => [.key "selector", .key "matchLabels", .key "app"]
  | replicas => [.key "replicas"]
  | image => pods ++ [.key "containers", .index 0, .key "image"]
  | imagePullPolicy => pods ++ [.key "containers", .index 0, .key "imagePullPolicy"]
  | claimName => pods ++ [.key "volumes", .index 0, .key "persistentVolumeClaim", .key "claimName"]
  | dataDir =>
    pods ++ [.key "containers", .index 0, .key "volumeMounts", .index 0, .key "mountPath"]

def value (app : App) : Part → Json
  | instanceName => .string app.instanceName
  | replicas => Json.ofInt32 app.content.spec.replicas
  | image => .string app.content.spec.image
  | imagePullPolicy => .string app.content.spec.imagePullPolicy
  | claimName => .string app.claimName
  | dataDir => .string (App.dataMount app.content.spec.config.dataDir "filestore").mountPath

end Deployment.Part

/-- The spec of an app's deployment, as it is compared. -/
def App.deploymentJson (app : App) : Json :=
  Dependent.specJson Deployment.Spec.toJson app.deployment.content.spec

section Parts

variable {a b app : App} {live : Json} {part : Deployment.Part}

theorem App.at?_deploymentJson (app : App) (part : Deployment.Part) :
    app.deploymentJson.at? part.path = some (part.value app) := by
  cases part <;> rfl

theorem Json.isEmpty_of_isScalar {value : Json} (h : value.isScalar = true) :
    value.isEmpty = false := by
  cases value <;> first | rfl | cases h

theorem Json.Meets.found {path : Path} {value : Json} (h : live.Meets path value)
    (hscalar : value.isScalar = true) (hfloat : ∀ x, value ≠ .float x) :
    live.at? path = some value := by
  cases h with
  | null => cases hscalar
  | scalar plain found => exact found
  | zero => exact absurd rfl (hfloat _)
  | array => cases hscalar
  | object => cases hscalar
  | missing lacks empty =>
    rw [Json.isEmpty_of_isScalar hscalar] at empty
    cases empty

theorem App.at?_of_covers (h : live.covers app.deploymentJson = true) (part : Deployment.Part) :
    live.at? part.path = some (part.value app) := by
  have htidy : app.deploymentJson.Tidy := Deployment.Spec.tidy _
  have hmeets := (Json.covers_iff htidy live).mp h part.path _ (app.at?_deploymentJson part)
  refine hmeets.found ?_ ?_ <;> cases part <;> simp [Deployment.Part.value, Json.isScalar, Json.ofInt32]

theorem App.agreesOnDeployment_iff :
    a.AgreesOnDeployment b ↔ ∀ part : Deployment.Part, part.value a = part.value b := by
  constructor
  · intro h part
    cases part <;> simp only [Deployment.Part.value]
    · rw [h.instanceName]
    · rw [h.replicas]
    · rw [h.image]
    · rw [h.imagePullPolicy]
    · rw [h.claimName]
    · rw [App.dataMount, withoutEndSlashes_eq_iff.mpr h.dataDir]
      rfl
  · intro h
    refine ⟨Json.string.inj (h .instanceName), ?_, Json.string.inj (h .image),
      Json.string.inj (h .imagePullPolicy), Json.string.inj (h .claimName), ?_⟩
    · exact Int32.toInt_inj.mp (Json.integer.inj (h .replicas))
    · have hmount := Json.string.inj (h .dataDir)
      simp only [dataMount, String.append_assoc] at hmount
      exact withoutEndSlashes_eq_iff.mp (String.append_left_inj _ |>.mp hmount)

theorem App.AgreesOnDeployment.spec (h : a.AgreesOnDeployment b) :
    a.deployment.content.spec = b.deployment.content.spec := by
  have hlabels : a.selectorLabels = b.selectorLabels := by
    rw [selectorLabels, selectorLabels, h.instanceName]
  have hvolumes : a.volumes = b.volumes := by
    rw [volumes, volumes, configSecretName, configSecretName, h.instanceName, h.claimName]
  have hcontainer : a.container = b.container := by
    have hdataDir := withoutEndSlashes_eq_iff.mpr h.dataDir
    simp only [container, dataMount, h.image, h.imagePullPolicy, hdataDir]
  simp only [deployment, podSpec, h.replicas, hlabels, hvolumes, hcontainer]

end Parts

/-! ## Drift -/

namespace Dependent

variable {a b : App} {live : Deployment} {s : Store}

theorem deployment_drifted_eq (live : Deployment) (app : App) :
    deployment.drifted live app.deployment =
      !(specJson Deployment.Spec.toJson live.content.spec).covers app.deploymentJson := rfl

/-- A deployment that is as one app wants it is as another wants it if both want the same. -/
theorem deployment_drifted_iff (h : deployment.drifted live a.deployment = false) :
    deployment.drifted live b.deployment = false ↔ a.AgreesOnDeployment b := by
  simp only [deployment_drifted_eq, Bool.not_eq_false'] at h ⊢
  constructor
  · intro hcovers
    refine App.agreesOnDeployment_iff.mpr fun part => Option.some.inj ?_
    rw [← App.at?_of_covers h part, App.at?_of_covers hcovers part]
  · intro hagrees
    unfold App.deploymentJson at *
    rwa [← hagrees.spec]

section Converge

variable (hread : ¬ s.Refuses (deployment.reading b))
  (hstored : s.objects.get? .deployment (deployment.place b) = some live)
include hread hstored

theorem deployment_left (hcontrolled : live.isControlledBy b = true)
    (hdrifted : deployment.drifted live b.deployment = false) :
    (deployment.converge b).Gives s ⟨live, .unchanged⟩ (s.recording (deployment.reading b)) := by
  have hrests : (deployment.createOnly || !deployment.needsWrite b live b.deployment) = true := by
    rw [needsWrite, hcontrolled, hdrifted, Bool.not_true, Bool.and_false]
    rfl
  refine converge_gives hread (Attempt.gives_pure.mpr ⟨rfl, rfl⟩) ?_
  rw [hstored, settle_left hrests]
  exact Attempt.gives_pure.mpr ⟨rfl, rfl⟩

theorem deployment_replaced (hdrifted : deployment.drifted live b.deployment = true)
    (hname : live.name = b.deploymentName)
    (hgranted : ¬ s.Refuses (deployment.replacing b live b.deployment)) :
    ∃ object u, (deployment.converge b).Gives s ⟨object, .updated⟩ u ∧
      u.objects.get? .deployment (deployment.place b) = some object ∧
      object.content.spec = b.deployment.content.spec := by
  have hwrites : ¬ (deployment.createOnly || !deployment.needsWrite b live b.deployment) = true := by
    rw [needsWrite, hdrifted, Bool.or_true]
    simp [deployment]
  let sent := deployment.withOwner b (deployment.merge live b.deployment)
  have hplace : (⟨b.space, sent.name⟩ : ObjectKey) = deployment.place b := by
    rw [withOwner_name]
    exact congrArg (ObjectKey.mk b.space) hname
  have hthere : s.objects.get? .deployment ⟨b.space, sent.name⟩ = some live := hplace ▸ hstored
  obtain ⟨object, hserve⟩ : ∃ object, ((s.recording (deployment.reading b)).serve
      (deployment.replacing b live b.deployment)).1 = .ok object :=
    Store.serve_replace_granted hthere (withOwner_version _) hgranted
  obtain ⟨-, -, -, hcontent, -, hafter⟩ := Store.serve_replace_ok hserve
  refine ⟨object, _, converge_gives hread (Attempt.gives_pure.mpr ⟨rfl, rfl⟩) ?_,
    (hafter _).trans (if_pos hplace.symm), ?_⟩
  · rw [hstored]
    exact settle_replaced hwrites hserve
  · rw [hcontent, withOwner_content]
    rfl

end Converge

/-- The deployment of one app serves another exactly when the two agree on what the spec has from
them; otherwise it is replaced. -/
theorem deployment_drift_exact (a b : App) :
    (deployment.drifted a.deployment b.deployment = false ↔ a.AgreesOnDeployment b) ∧
    ∀ (s : Store) (live : Deployment), ¬ s.Refuses (deployment.reading b) →
      s.objects.get? .deployment (deployment.place b) = some live →
      deployment.drifted live a.deployment = false →
      (a.AgreesOnDeployment b → live.isControlledBy b = true →
        (deployment.converge b).Gives s ⟨live, .unchanged⟩ (s.recording (deployment.reading b))) ∧
      (¬ a.AgreesOnDeployment b → live.name = b.deploymentName →
        ¬ s.Refuses (deployment.replacing b live b.deployment) →
        ∃ object u, (deployment.converge b).Gives s ⟨object, .updated⟩ u ∧
          u.objects.get? .deployment (deployment.place b) = some object ∧
          object.content.spec = b.deployment.content.spec) := by
  refine ⟨deployment_drifted_iff (deployment_undrifted rfl), ?_⟩
  intro s live hread hstored hlive
  refine ⟨fun hagrees hcontrolled => ?_, fun hdisagrees => ?_⟩
  · exact deployment_left hread hstored hcontrolled ((deployment_drifted_iff hlive).mpr hagrees)
  · refine deployment_replaced hread hstored (Bool.of_not_eq_false fun hsame => ?_)
    exact hdisagrees ((deployment_drifted_iff hlive).mp hsame)

end Dependent

namespace Sample

def changed (change : App.Spec → App.Spec) : App :=
  let app := App.sample "shop" "erp"
  { app with content := { app.content with spec := change app.content.spec } }

/-- The sample app that gives its data directory with a slash at the end. -/
def slashed : App :=
  changed fun spec => { spec with config := { spec.config with dataDir := "/var/lib/odoo/" } }

def scaled : App := changed fun spec => { spec with replicas := 3 }

def workload : Deployment :=
  let app := App.sample "shop" "erp"
  Store.stamp (app.deployment.ensureOwner app) app.key 1

def deployed : Store :=
  let app := App.sample "shop" "erp"
  ({} : Store).insert (app.deployment.ensureOwner app)

end Sample

theorem Dependent.deployment_drift_exact_sample :
    (App.sample "shop" "erp").AgreesOnDeployment Sample.slashed ∧
    (deployment.converge Sample.slashed).Gives Sample.deployed ⟨Sample.workload, .unchanged⟩
      (Sample.deployed.recording (deployment.reading Sample.slashed)) ∧
    ¬ (App.sample "shop" "erp").AgreesOnDeployment Sample.scaled ∧
    ∃ object u, (deployment.converge Sample.scaled).Gives Sample.deployed ⟨object, .updated⟩ u ∧
      u.objects.get? .deployment ⟨"erp", "shop"⟩ = some object ∧
      object.content.spec = Sample.scaled.deployment.content.spec := by
  have hstored : Sample.deployed.objects.get? .deployment ⟨"erp", "shop"⟩ = some Sample.workload := by
    decide +kernel
  have hcontrolled : Sample.workload.isControlledBy (App.sample "shop" "erp") = true := by
    decide +kernel
  have hlive : deployment.drifted Sample.workload (App.sample "shop" "erp").deployment = false :=
    deployment_undrifted rfl
  have hslashes : (App.sample "shop" "erp").AgreesOnDeployment Sample.slashed :=
    ⟨rfl, rfl, rfl, rfl, rfl, "/var/lib/odoo".toList, 0, 1, rfl, rfl⟩
  have hscaled : ¬ (App.sample "shop" "erp").AgreesOnDeployment Sample.scaled := by
    intro hagrees
    exact absurd hagrees.replicas (by decide)
  have hgranted : ∀ r, ¬ Sample.deployed.Refuses r := Store.not_refuses rfl
  obtain ⟨-, hleft⟩ := deployment_drift_exact (App.sample "shop" "erp") Sample.slashed
  obtain ⟨-, hreplaced⟩ := deployment_drift_exact (App.sample "shop" "erp") Sample.scaled
  exact ⟨hslashes, (hleft _ _ (hgranted _) hstored hlive).1 hslashes hcontrolled, hscaled,
    (hreplaced _ _ (hgranted _) hstored hlive).2 hscaled rfl (hgranted _)⟩

end OdooKeeper
