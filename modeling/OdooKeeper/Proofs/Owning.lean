import OdooKeeper.App.Sample
import OdooKeeper.Owner

/-! # Objects that an app owns

An object that is to belong to an app gets one reference to it. References to other owners stay as
they are, and a controller other than the app gives way. -/

namespace OdooKeeper

/-- The reference is to an owner other than the one of an identity, and to no controller. -/
def OwnerReference.IsBystander (uid : String) (r : OwnerReference) : Bool :=
  !r.controls && r.uid ≠ uid

/-! ## Lists of references -/

section References

variable {refs : List OwnerReference} {owner : OwnerReference}

theorem ownerList_cases (refs : List OwnerReference) (owner : OwnerReference) :
    (∃ r ∈ refs, r.uid = owner.uid ∧ r.controls = true) ∧ ownerList refs owner = refs ∨
      ownerList refs owner = refs.filter (OwnerReference.IsBystander owner.uid) ++ [owner] := by
  unfold ownerList
  split
  · rename_i hany
    obtain ⟨r, hmem, hr⟩ := List.any_eq_true.mp hany
    rw [Bool.and_eq_true, decide_eq_true_eq] at hr
    exact .inl ⟨⟨r, hmem, hr⟩, rfl⟩
  · exact .inr rfl

theorem ownerList_of_controlling {r : OwnerReference} (hmem : r ∈ refs) (huid : r.uid = owner.uid)
    (hcontrols : r.controls = true) : ownerList refs owner = refs := by
  have hany : (refs.any fun r => r.uid = owner.uid && r.controls) = true :=
    List.any_eq_true.mpr ⟨r, hmem, by simp [huid, hcontrols]⟩
  rw [ownerList, if_pos hany]

theorem mem_ownerList (refs : List OwnerReference) (hcontrols : owner.controls = true) :
    ∃ r ∈ ownerList refs owner, r.uid = owner.uid ∧ r.controls = true := by
  rcases ownerList_cases refs owner with ⟨hthere, hsame⟩ | hnew
  · rw [hsame]
    exact hthere
  · rw [hnew]
    exact ⟨owner, by simp, rfl, hcontrols⟩

theorem ownerList_again (hcontrols : owner.controls = true) :
    ownerList (ownerList refs owner) owner = ownerList refs owner := by
  obtain ⟨r, hmem, huid, hr⟩ := mem_ownerList refs hcontrols
  exact ownerList_of_controlling hmem huid hr

theorem ownerList_bystanders (refs : List OwnerReference) (owner : OwnerReference) :
    (ownerList refs owner).filter (OwnerReference.IsBystander owner.uid) =
      refs.filter (OwnerReference.IsBystander owner.uid) := by
  rcases ownerList_cases refs owner with ⟨-, hsame⟩ | hnew
  · rw [hsame]
  · have howner : [owner].filter (OwnerReference.IsBystander owner.uid) = [] := by
      simp [OwnerReference.IsBystander]
    rw [hnew, List.filter_append, howner, List.append_nil, List.filter_filter]
    simp only [Bool.and_self]

theorem controllers_of_bystanders (refs : List OwnerReference) (uid : String) :
    (refs.filter (OwnerReference.IsBystander uid)).filter OwnerReference.controls = [] := by
  rw [List.filter_filter, List.filter_eq_nil_iff]
  intro r _
  cases hr : r.controls <;> simp [OwnerReference.IsBystander, hr]

theorem ownerList_controllers (hcontrols : owner.controls = true)
    (hone : (refs.filter OwnerReference.controls).length ≤ 1) :
    ∃ r, (ownerList refs owner).filter OwnerReference.controls = [r] ∧ r.uid = owner.uid ∧
      (r = owner ∨ r ∈ refs) := by
  rcases ownerList_cases refs owner with ⟨⟨r, hmem, huid, hr⟩, hsame⟩ | hnew
  · have hthere : r ∈ refs.filter OwnerReference.controls := List.mem_filter.mpr ⟨hmem, hr⟩
    obtain ⟨only, honly⟩ : ∃ only, refs.filter OwnerReference.controls = [only] :=
      List.length_eq_one_iff.mp (Nat.le_antisymm hone (List.length_pos_of_mem hthere))
    rw [honly, List.mem_singleton] at hthere
    subst hthere
    refine ⟨r, ?_, huid, .inr hmem⟩
    rw [hsame]
    exact honly
  · refine ⟨owner, ?_, rfl, .inl rfl⟩
    rw [hnew, List.filter_append, controllers_of_bystanders, List.nil_append]
    exact List.filter_cons_of_pos hcontrols

end References

/-! ## Objects -/

theorem App.ownerReference?_spec {app : App} {owner : OwnerReference}
    (h : app.ownerReference? = some owner) :
    owner.controls = true ∧ app.metadata.uid = some owner.uid := by
  unfold App.ownerReference? at h
  split at h
  · rename_i huid
    cases h
    exact ⟨rfl, huid⟩
  · cases h

theorem App.exists_ownerReference {app : App} (hname : app.metadata.name.isSome)
    (huid : app.metadata.uid.isSome) : ∃ owner, app.ownerReference? = some owner := by
  obtain ⟨name, hname⟩ := Option.isSome_iff_exists.mp hname
  obtain ⟨uid, huid⟩ := Option.isSome_iff_exists.mp huid
  unfold App.ownerReference?
  rw [hname, huid]
  exact ⟨_, rfl⟩

namespace Object

variable {k : Kind} {object object' : Object k} {app : App} {owner : OwnerReference}

@[simp] theorem ensureOwner_content (object : Object k) (app : App) :
    (object.ensureOwner app).content = object.content := by
  unfold ensureOwner
  split <;> rfl

theorem ensureOwner_metadata (object : Object k) (app : App) : (object.ensureOwner app).metadata =
    { object.metadata with
      ownerReferences := (object.ensureOwner app).metadata.ownerReferences } := by
  unfold ensureOwner
  split <;> rfl

@[simp] theorem ensureOwner_name (object : Object k) (app : App) :
    (object.ensureOwner app).name = object.name := by
  rw [name, ensureOwner_metadata]
  rfl

theorem ensureOwner_owners (howner : app.ownerReference? = some owner) (object : Object k) :
    (object.ensureOwner app).metadata.owners = ownerList object.metadata.owners owner := by
  unfold ensureOwner
  rw [howner]
  rfl

theorem ensureOwner_again (object : Object k) (app : App) :
    (object.ensureOwner app).ensureOwner app = object.ensureOwner app := by
  cases howner : app.ownerReference? with
  | none => simp only [ensureOwner, howner]
  | some owner =>
    obtain ⟨hcontrols, -⟩ := App.ownerReference?_spec howner
    simp only [ensureOwner, howner, Metadata.owners, Option.getD_some, ownerList_again hcontrols]

theorem isControlledBy_congr (h : object.metadata.owners = object'.metadata.owners) :
    object.isControlledBy app = object'.isControlledBy app := by
  unfold isControlledBy
  rw [h]

theorem isControlledBy_ensureOwner (object : Object k) (hname : app.metadata.name.isSome)
    (huid : app.metadata.uid.isSome) : (object.ensureOwner app).isControlledBy app = true := by
  obtain ⟨owner, howner⟩ := App.exists_ownerReference hname huid
  obtain ⟨hcontrols, hsame⟩ := App.ownerReference?_spec howner
  obtain ⟨r, hmem, hr, hrcontrols⟩ := mem_ownerList object.metadata.owners hcontrols
  rw [isControlledBy, ensureOwner_owners howner]
  exact List.any_eq_true.mpr ⟨r, hmem, by simp [hrcontrols, hsame, hr]⟩

/-- An object that is to belong to an app is controlled by it afterwards, by it alone if there was
one controller at most, and nothing else about the object changes. -/
theorem ensureOwner_exact {uid : String} (hname : app.metadata.name.isSome)
    (huid : app.metadata.uid = some uid) (object : Object k) :
    (object.ensureOwner app).isControlledBy app = true ∧
    (object.ensureOwner app).ensureOwner app = object.ensureOwner app ∧
    (object.ensureOwner app).metadata.owners.filter (OwnerReference.IsBystander uid) =
      object.metadata.owners.filter (OwnerReference.IsBystander uid) ∧
    object.ensureOwner app =
      { object with
        metadata :=
          { object.metadata with
            ownerReferences := (object.ensureOwner app).metadata.ownerReferences } } ∧
    ((object.metadata.owners.filter OwnerReference.controls).length ≤ 1 →
      ∃ r, (object.ensureOwner app).metadata.owners.filter OwnerReference.controls = [r] ∧
        r.uid = uid ∧ (app.ownerReference? = some r ∨ r ∈ object.metadata.owners)) := by
  have huid' : app.metadata.uid.isSome := Option.isSome_of_eq_some huid
  obtain ⟨owner, howner⟩ := App.exists_ownerReference hname huid'
  obtain ⟨hcontrols, hsame⟩ := App.ownerReference?_spec howner
  obtain rfl : uid = owner.uid := Option.some.inj (huid.symm.trans hsame)
  have howners := ensureOwner_owners howner object
  refine ⟨isControlledBy_ensureOwner object hname huid', ensureOwner_again object app, ?_, ?_,
    fun hone => ?_⟩
  · rw [howners]
    exact ownerList_bystanders object.metadata.owners owner
  · rw [← ensureOwner_metadata, ← ensureOwner_content object app]
  · obtain ⟨r, honly, hr, hfrom⟩ := ownerList_controllers hcontrols hone
    rw [howners]
    exact ⟨r, honly, hr, hfrom.imp_left fun hnew => by rw [howner, hnew]⟩

end Object

/-- A claim with another controller, to which the sample app and two bystanders have references. -/
def Sample.adopted : Claim where
  metadata :=
    { name := some "shop-filestore"
      ownerReferences := some
        [{ apiVersion := "v1", kind := "ConfigMap", name := "notes", uid := "uid-notes" },
          { apiVersion := "v1", kind := "Pod", name := "old", uid := "uid-old",
            controller := some true },
          { apiVersion := "v1", kind := "OdooDeployment", name := "shop", uid := "uid-shop",
            controller := some false },
          { apiVersion := "v1", kind := "ConfigMap", name := "notes", uid := "uid-notes",
            controller := some false }] }
  content := {}

theorem Object.ensureOwner_exact_adopted :
    let app := App.sample "shop" "erp"
    app.metadata.name.isSome ∧ app.metadata.uid = some "uid-shop" ∧
      (Sample.adopted.metadata.owners.filter OwnerReference.controls).length ≤ 1 ∧
      (Sample.adopted.ensureOwner app).isControlledBy app = true ∧
      (Sample.adopted.ensureOwner app).metadata.owners.filter
          (OwnerReference.IsBystander "uid-shop") =
        Sample.adopted.metadata.owners.filter (OwnerReference.IsBystander "uid-shop") ∧
      ∃ r, (Sample.adopted.ensureOwner app).metadata.owners.filter OwnerReference.controls = [r] ∧
        r.uid = "uid-shop" :=
  have huid : (App.sample "shop" "erp").metadata.uid = some "uid-shop" := by decide +kernel
  have hname : (App.sample "shop" "erp").metadata.name.isSome := rfl
  have ⟨hcontrolled, _, hbystanders, _, hone⟩ := ensureOwner_exact hname huid Sample.adopted
  have hcontrollers : (Sample.adopted.metadata.owners.filter OwnerReference.controls).length ≤ 1 := by
    decide
  have ⟨r, honly, hr, _⟩ := hone hcontrollers
  ⟨hname, huid, hcontrollers, hcontrolled, hbystanders, r, honly, hr⟩

end OdooKeeper
