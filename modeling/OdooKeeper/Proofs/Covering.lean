import OdooKeeper.Json.Covers
import OdooKeeper.Object.Deployment
import OdooKeeper.Object.Service

/-! # Values that cover themselves

A value covers itself as long as none of its objects has a key twice. All that is written about
deployments and services is of this kind. -/

namespace OdooKeeper

namespace Json

/-- No object of the value has a key twice. -/
inductive Tidy : Json → Prop where
  | null : Tidy .null
  | bool (value : Bool) : Tidy (.bool value)
  | integer (value : Int) : Tidy (.integer value)
  | float (value : Decimal.Binary64) : Tidy (.float value)
  | string (value : String) : Tidy (.string value)
  | array {items : List Json} (each : ∀ item ∈ items, Tidy item) : Tidy (.array items)
  | object {members : List (String × Json)} (keys : (members.map Prod.fst).Nodup)
      (each : ∀ member ∈ members, Tidy member.2) : Tidy (.object members)

/-! ## Covering oneself -/

theorem coversItems_self {items : List Json} (h : ∀ item ∈ items, item.covers item = true) :
    coversItems items items = true := by
  induction items with
  | nil => rfl
  | cons item rest ih =>
    have hrest := ih fun item hitem => h item (List.mem_cons_of_mem _ hitem)
    rw [coversItems, h item List.mem_cons_self, hrest]
    rfl

theorem coversMembers_self {live members : List (String × Json)}
    (hlookup : ∀ member ∈ members, live.lookup member.1 = some member.2)
    (h : ∀ member ∈ members, member.2.covers member.2 = true) :
    coversMembers live members = true := by
  induction members with
  | nil => rfl
  | cons member rest ih =>
    have hrest := ih (fun m hm => hlookup m (List.mem_cons_of_mem _ hm))
      fun m hm => h m (List.mem_cons_of_mem _ hm)
    have hfirst := hlookup member List.mem_cons_self
    rw [coversMembers, hrest, hfirst, Bool.and_true]
    exact h member List.mem_cons_self

theorem Tidy.covers_self {value : Json} (h : value.Tidy) : value.covers value = true := by
  induction h with
  | null => rfl
  | bool value => simp [covers, sameScalar]
  | integer value => simp [covers, sameScalar]
  | float value => simp [covers, sameScalar, Decimal.Binary64.sameValue]
  | string value => simp [covers, sameScalar]
  | array each ih =>
    rw [covers]
    exact coversItems_self ih
  | object keys each ih =>
    rw [covers]
    exact coversMembers_self (fun member hmember => OrdMap.lookup_of_mem keys hmember) ih

/-! ## Writing tidily -/

attribute [simp] Tidy.null Tidy.bool Tidy.integer Tidy.float Tidy.string

def TidyIfAny (value : Option Json) : Prop := ∀ v ∈ value, v.Tidy

@[simp] theorem tidyIfAny_some {value : Json} : TidyIfAny (some value) ↔ value.Tidy := by
  simp [TidyIfAny]

@[simp] theorem tidyIfAny_map {α : Type} {write : α → Json} {a : Option α}
    (h : ∀ a, (write a).Tidy) : TidyIfAny (a.map write) := by
  intro value hvalue
  obtain ⟨a, -, rfl⟩ := Option.map_eq_some_iff.mp hvalue
  exact h a

theorem keys_record (members : List (String × Option Json)) :
    ((members.filterMap fun (key, value) => value.map fun v => (key, v)).map Prod.fst).Sublist
      (members.map Prod.fst) := by
  induction members with
  | nil => exact .slnil
  | cons member rest ih =>
    obtain ⟨key, value⟩ := member
    cases value with
    | none => exact ih.cons key
    | some value => exact ih.cons_cons key

theorem tidy_record {members : List (String × Option Json)} (keys : (members.map Prod.fst).Nodup)
    (each : ∀ member ∈ members, TidyIfAny member.2) : (record members).Tidy := by
  refine .object (keys.sublist (keys_record members)) fun member hmember => ?_
  obtain ⟨⟨key, value⟩, hmem, hvalue⟩ := List.mem_filterMap.mp hmember
  obtain ⟨v, rfl, rfl⟩ := Option.map_eq_some_iff.mp hvalue
  exact each _ hmem v rfl

@[simp] theorem tidy_ofInt32 (n : Int32) : (ofInt32 n).Tidy := .integer _

@[simp] theorem tidy_ofInt64 (n : Int64) : (ofInt64 n).Tidy := .integer _

@[simp] theorem tidy_ofTexts (texts : List String) : (ofTexts texts).Tidy := by
  refine .array fun item hitem => ?_
  obtain ⟨text, -, rfl⟩ := List.mem_map.mp hitem
  exact .string text

@[simp] theorem tidy_ofList {α : Type} {write : α → Json} {items : List α} (h : ∀ a, (write a).Tidy) :
    (ofList write items).Tidy := by
  refine .array fun item hitem => ?_
  obtain ⟨a, -, rfl⟩ := List.mem_map.mp hitem
  exact h a

@[simp] theorem tidy_ofDict {α : Type} {write : α → Json} {m : Dict α} (h : ∀ a, (write a).Tidy) :
    (ofDict write m).Tidy := by
  have hkeys : (m.entries.map Prod.fst).Nodup := by
    rw [List.nodup_iff_pairwise_ne, List.pairwise_map]
    refine m.ascending.imp fun {a b} hlt hsame => ?_
    rw [hsame, Std.compare_self] at hlt
    cases hlt
  refine .object ?_ fun member hmember => ?_
  · rw [List.map_map]
    exact hkeys
  · obtain ⟨⟨key, a⟩, -, rfl⟩ := List.mem_map.mp hmember
    exact h a

end Json

/-! ## Services and deployments -/

section Written

open Json

@[simp] theorem IntOrText.tidy (v : IntOrText) : v.toJson.Tidy := by
  cases v <;> simp [toJson]

@[simp] theorem Service.Port.tidy (p : Service.Port) : p.toJson.Tidy := by
  apply tidy_record <;> simp

@[simp] theorem Service.Spec.tidy (s : Service.Spec) : s.toJson.Tidy := by
  apply tidy_record <;> simp

@[simp] theorem OwnerReference.tidy (r : OwnerReference) : r.toJson.Tidy := by
  apply tidy_record <;> simp

@[simp] theorem Metadata.tidy (m : Metadata) : m.toJson.Tidy := by
  apply tidy_record <;> simp

@[simp] theorem EnvVar.tidy (e : EnvVar) : e.toJson.Tidy := by
  apply tidy_record <;> simp

@[simp] theorem ContainerPort.tidy (p : ContainerPort) : p.toJson.Tidy := by
  apply tidy_record <;> simp

@[simp] theorem Resources.tidy (r : Resources) : r.toJson.Tidy := by
  apply tidy_record <;> simp

@[simp] theorem VolumeMount.tidy (m : VolumeMount) : m.toJson.Tidy := by
  apply tidy_record <;> simp

@[simp] theorem Container.tidy (c : Container) : c.toJson.Tidy := by
  apply tidy_record <;> simp

@[simp] theorem ClaimVolume.tidy (v : ClaimVolume) : v.toJson.Tidy := by
  apply tidy_record <;> simp

@[simp] theorem KeyToPath.tidy (i : KeyToPath) : i.toJson.Tidy := by
  apply tidy_record <;> simp

@[simp] theorem SecretVolume.tidy (v : SecretVolume) : v.toJson.Tidy := by
  apply tidy_record <;> simp

@[simp] theorem Volume.tidy (v : Volume) : v.toJson.Tidy := by
  apply tidy_record <;> simp

@[simp] theorem PodSecurity.tidy (s : PodSecurity) : s.toJson.Tidy := by
  apply tidy_record <;> simp

@[simp] theorem PodSpec.tidy (p : PodSpec) : p.toJson.Tidy := by
  apply tidy_record <;> simp

@[simp] theorem PodTemplate.tidy (t : PodTemplate) : t.toJson.Tidy := by
  apply tidy_record <;> simp

@[simp] theorem Deployment.Selector.tidy (s : Deployment.Selector) : s.toJson.Tidy := by
  apply tidy_record <;> simp

@[simp] theorem Deployment.RollingUpdate.tidy (r : Deployment.RollingUpdate) : r.toJson.Tidy := by
  apply tidy_record <;> simp

@[simp] theorem Deployment.Strategy.tidy (s : Deployment.Strategy) : s.toJson.Tidy := by
  apply tidy_record <;> simp

@[simp] theorem Deployment.Spec.tidy (s : Deployment.Spec) : s.toJson.Tidy := by
  apply tidy_record <;> simp

end Written

end OdooKeeper
