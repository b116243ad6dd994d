import OdooKeeper.Proofs.Watching

/-! # Names of what serves an app

An app names seven objects. No two of one kind are called alike, unless the user has called the
credentials secret like the config secret. What apps name by themselves tells the apps apart, whatever
they are called: no name of one app and an ending is a name of another app and an ending. -/

namespace OdooKeeper

namespace App

variable {app other : App} {k : Kind}

/-! ## Endings -/

/-- What the names of the objects that serve an app end in. -/
def endings : Kind → List String
  | .app => [""]
  | .secret => ["-admin-password", "-config"]
  | .claim => ["-filestore"]
  | .deployment => [""]
  | .service => ["-http", "-poll"]
  | .job => ["-init"]
  | .pod => []

theorem endings_inj {a b x y : String} (hx : x ∈ endings k) (hy : y ∈ endings k)
    (h : a ++ x = b ++ y) : a = b := by
  by_cases hsame : x = y
  · rw [hsame] at h
    exact (String.append_left_inj y).mp h
  · -- Different endings of one kind have different last letters.
    have hlast := congrArg (fun text : String => text.toList.getLast?) h
    cases k <;> simp only [endings, List.mem_cons, List.not_mem_nil, or_false] at hx hy
    case secret | service =>
      rcases hx with rfl | rfl <;> rcases hy with rfl | rfl <;>
        simp [String.toList_append, List.getLast?_append] at hlast hsame
    all_goals exact absurd (hx.trans hy.symm) hsame

/-! ## Names that the user gives -/

theorem adminSecretName_eq (h : app.userAdminSecretName? = none) :
    app.adminSecretName = app.instanceName ++ "-admin-password" := by
  rw [App.adminSecretName, h]
  rfl

theorem claimName_eq (h : givenText? app.content.spec.filestore.name = none) :
    app.claimName = app.instanceName ++ "-filestore" := by
  rw [App.claimName, h]
  rfl

theorem adminSecretName_eq_configSecretName_iff : app.adminSecretName = app.configSecretName ↔
    app.userAdminSecretName? = some app.configSecretName := by
  cases h : app.userAdminSecretName? with
  | none => simp [adminSecretName_eq h, App.configSecretName]
  | some name => simp [App.adminSecretName, h]

/-! ## The seven objects -/

theorem named_ending {place : Kind × ObjectKey} (hadmin : app.userAdminSecretName? = none)
    (hclaim : givenText? app.content.spec.filestore.name = none) (h : place ∈ app.namedObjects) :
    ∃ ending ∈ endings place.1, place.2.name = app.instanceName ++ ending := by
  simp only [App.namedObjects, List.mem_cons, List.not_mem_nil, or_false] at h
  rcases h with rfl | rfl | rfl | rfl | rfl | rfl | rfl
  · exact ⟨"-config", by simp [endings], rfl⟩
  · exact ⟨"-admin-password", by simp [endings], adminSecretName_eq hadmin⟩
  · exact ⟨"-filestore", by simp [endings], claimName_eq hclaim⟩
  · exact ⟨"", by simp [endings], by simp [App.deploymentName]⟩
  · exact ⟨"-http", by simp [endings], rfl⟩
  · exact ⟨"-poll", by simp [endings], rfl⟩
  · exact ⟨"-init", by simp [endings], rfl⟩

theorem mem_namedObjects_iff {place : Kind × ObjectKey} :
    place ∈ app.namedObjects ↔ (∃ d : Step, place = d.place app) ∨ place = (.job, app.initJobKey) := by
  constructor
  · intro h
    simp only [App.namedObjects, List.mem_cons, List.not_mem_nil, or_false] at h
    rcases h with rfl | rfl | rfl | rfl | rfl | rfl | rfl
    · exact .inl ⟨.configSecret "", rfl⟩
    · exact .inl ⟨.adminSecret "", rfl⟩
    · exact .inl ⟨.filestore, rfl⟩
    · exact .inl ⟨.deployment, rfl⟩
    · exact .inl ⟨.service .http, rfl⟩
    · exact .inl ⟨.service .poll, rfl⟩
    · exact .inr rfl
  · rintro (⟨d, rfl⟩ | rfl)
    · exact d.named app
    · simp [App.namedObjects, App.initJobKey]

theorem namedObjects_nodup_iff :
    (app.namedObjects.map fun place => (place.1, place.2.name)).Nodup ↔
      app.userAdminSecretName? ≠ some app.configSecretName := by
  have hservices : app.httpServiceName ≠ app.pollServiceName := by
    simp [App.httpServiceName, App.pollServiceName]
  rw [ne_eq, ← adminSecretName_eq_configSecretName_iff]
  simp [App.namedObjects, hservices, eq_comm]

theorem named_alike_iff (hadmin : app.userAdminSecretName? = none)
    (hclaim : givenText? app.content.spec.filestore.name = none)
    (hadmin' : other.userAdminSecretName? = none)
    (hclaim' : givenText? other.content.spec.filestore.name = none) :
    (∃ place ∈ app.namedObjects, ∃ place' ∈ other.namedObjects,
      place.1 = place'.1 ∧ place.2.name = place'.2.name) ↔ app.instanceName = other.instanceName := by
  constructor
  · rintro ⟨⟨k, key⟩, hplace, ⟨k', key'⟩, hplace', hkind, hname⟩
    obtain rfl : k = k' := hkind
    obtain ⟨ending, hending, hkey⟩ := named_ending hadmin hclaim hplace
    obtain ⟨ending', hending', hkey'⟩ := named_ending hadmin' hclaim' hplace'
    exact endings_inj hending hending' (hkey.symm.trans (hname.trans hkey'))
  · intro hsame
    exact ⟨(.deployment, ⟨app.space, app.deploymentName⟩), by simp [App.namedObjects],
      (.deployment, ⟨other.space, other.deploymentName⟩), by simp [App.namedObjects], rfl, hsame⟩

/-- Two objects of one app, or of two apps, are called alike only if the user has called the
credentials secret like the config secret, or both apps alike. -/
theorem names_apart (app : App) :
    (∀ place, place ∈ app.namedObjects ↔
      (∃ d : Step, place = d.place app) ∨ place = (.job, app.initJobKey)) ∧
    ((app.namedObjects.map fun place => (place.1, place.2.name)).Nodup ↔
      app.userAdminSecretName? ≠ some app.configSecretName) ∧
    ∀ other : App,
      app.userAdminSecretName? = none → givenText? app.content.spec.filestore.name = none →
      other.userAdminSecretName? = none → givenText? other.content.spec.filestore.name = none →
      ((∃ place ∈ app.namedObjects, ∃ place' ∈ other.namedObjects,
        place.1 = place'.1 ∧ place.2.name = place'.2.name) ↔ app.instanceName = other.instanceName) :=
  ⟨fun _ => mem_namedObjects_iff, namedObjects_nodup_iff, fun _ => named_alike_iff⟩

theorem names_apart_sample :
    let app := App.sample "shop" "erp"
    let other := App.sample "shop-http" "erp"
    app.userAdminSecretName? = none ∧ givenText? app.content.spec.filestore.name = none ∧
      other.userAdminSecretName? = none ∧ givenText? other.content.spec.filestore.name = none ∧
      ¬ ∃ place ∈ app.namedObjects, ∃ place' ∈ other.namedObjects,
        place.1 = place'.1 ∧ place.2.name = place'.2.name := by
  intro app other
  have hadmin : app.userAdminSecretName? = none := by decide
  have hclaim : givenText? app.content.spec.filestore.name = none := by decide
  have hadmin' : other.userAdminSecretName? = none := by decide
  have hclaim' : givenText? other.content.spec.filestore.name = none := by decide
  refine ⟨hadmin, hclaim, hadmin', hclaim', ?_⟩
  rw [(names_apart app).2.2 other hadmin hclaim hadmin' hclaim']
  decide

end App

end OdooKeeper
