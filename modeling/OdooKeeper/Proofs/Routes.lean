import OdooKeeper.Proofs.Watching

/-! # Routes and the apps there are

A change is routed by looking at every app. Where it goes depends on which apps there are, not on
the order in which they are listed, and it stays in the namespace of the object: only the job of an
app may be elsewhere. -/

namespace OdooKeeper

variable {change : Change} {app : App} {xs ys : List App} {kind : Kind} {key place : ObjectKey}

/-! ## Apps -/

theorem route_append (change : Change) (xs ys : List App) :
    route change (xs ++ ys) = (route change xs).union (route change ys) := by
  refine KeySet.ext fun key => ?_
  rw [KeySet.contains_union, route_contains_iff, route_contains_iff, route_contains_iff]
  simp only [List.mem_append, or_and_right, exists_or, ← and_or_left]
  refine and_congr_right fun _ => ?_
  constructor
  · rintro (hcontrols | hxs | hys)
    · exact .inl (.inl hcontrols)
    · exact .inl (.inr hxs)
    · exact .inr (.inr hys)
  · rintro ((hcontrols | hxs) | hcontrols | hys)
    · exact .inl hcontrols
    · exact .inr (.inl hxs)
    · exact .inl hcontrols
    · exact .inr (.inr hys)

theorem route_mono (h : xs ⊆ ys) (hkey : (route change xs).contains key) :
    (route change ys).contains key := by
  obtain ⟨hkeeps, hconcerns⟩ := route_contains_iff.mp hkey
  refine route_contains_iff.mpr ⟨hkeeps, hconcerns.imp_right ?_⟩
  rintro ⟨app, happ, hdepends⟩
  exact ⟨app, h happ, hdepends⟩

theorem route_congr (h : ∀ app, app ∈ xs ↔ app ∈ ys) : route change xs = route change ys := by
  refine KeySet.ext fun key => ?_
  constructor
  · exact route_mono fun app => (h app).mp
  · exact route_mono fun app => (h app).mpr

/-! ## Namespaces -/

/-- The status of an app records a job in another namespace than its own. -/
def App.RecordsElsewhere (app : App) (place : ObjectKey) : Prop :=
  ∃ status, app.content.status = some status ∧ status.initJob.isIdle = false ∧
    status.initJob.ns ≠ "" ∧ status.initJob.ns ≠ app.space ∧
    place = ⟨status.initJob.ns, status.initJob.name⟩

theorem App.namedObjects_space (h : (kind, place) ∈ app.namedObjects) : place.ns = app.space := by
  simp only [App.namedObjects, List.mem_cons, List.not_mem_nil, or_false, Prod.mk.injEq] at h
  rcases h with ⟨-, rfl⟩ | ⟨-, rfl⟩ | ⟨-, rfl⟩ | ⟨-, rfl⟩ | ⟨-, rfl⟩ | ⟨-, rfl⟩ | ⟨-, rfl⟩ <;> rfl

theorem App.recordedObjects_space (h : (kind, place) ∈ app.recordedObjects) :
    place.ns = app.space ∨ kind = .job ∧ app.RecordsElsewhere place := by
  unfold App.recordedObjects at h
  cases hstatus : app.content.status with
  | none => simp [hstatus] at h
  | some status =>
    simp only [hstatus, List.mem_append, Option.mem_toList] at h
    rcases h with hclaim | hjob
    · obtain ⟨name, -, hplace⟩ := Option.map_eq_some_iff.mp hclaim
      obtain ⟨-, rfl⟩ := Prod.mk.inj hplace
      exact .inl rfl
    · by_cases hidle : status.initJob.isIdle = true
      · simp [hidle] at hjob
      · rw [if_neg hidle, List.mem_singleton] at hjob
        obtain ⟨rfl, rfl⟩ := Prod.mk.inj hjob
        by_cases hns : status.initJob.ns = ""
        · exact .inl (if_pos hns)
        · rw [if_neg hns]
          by_cases hspace : status.initJob.ns = app.space
          · exact .inl hspace
          · exact .inr ⟨rfl, status, hstatus, by simpa using hidle, hns, hspace, rfl⟩

theorem App.DependsOn.space (h : app.DependsOn (kind, place)) :
    place.ns = app.space ∨ kind = .job ∧ app.RecordsElsewhere place := by
  rcases h with h | ⟨ref, -, hplace⟩
  · rcases List.mem_append.mp h with hnamed | hrecorded
    · exact .inl (App.namedObjects_space hnamed)
    · exact App.recordedObjects_space hrecorded
  · obtain ⟨-, rfl⟩ := Prod.mk.inj hplace
    exact .inl rfl

theorem App.RecordsElsewhere.dependsOn (h : app.RecordsElsewhere place) :
    app.DependsOn (.job, place) := by
  obtain ⟨status, hstatus, hidle, hns, -, rfl⟩ := h
  refine .inl (List.mem_append_right _ ?_)
  simp [App.recordedObjects, hstatus, hidle, hns]

theorem controllerKey?_space {object : Watched} (h : controllerKey? object = some key) :
    key.ns = object.key.ns := by
  obtain ⟨owner, -, rfl⟩ := Option.map_eq_some_iff.mp h
  rfl

theorem route_space (hkey : (route change xs).contains key) :
    key.ns = change.current.key.ns ∨
      change.current.kind = .job ∧
        ∃ app ∈ xs, app.key = key ∧ app.RecordsElsewhere change.current.key := by
  obtain ⟨-, hcontrols | ⟨app, happ, rfl, hdepends⟩⟩ := route_contains_iff.mp hkey
  · exact .inl (controllerKey?_space hcontrols)
  · rcases hdepends.space with hspace | ⟨hjob, hrecords⟩
    · exact .inl hspace.symm
    · exact .inr ⟨hjob, app, happ, rfl, hrecords⟩

theorem keepsPayload_of_kind (h : change.current.kind ≠ .secret) :
    change.keepsPayload = false := by
  unfold Change.keepsPayload
  split
  · exact absurd rfl h
  · rfl

/-- Routing is about the set of apps, more of which never take a route away. A change of an object
reaches apps in its namespace, and only a job reaches others as well. -/
theorem route_members_space (change : Change) (xs ys : List App) :
    route change (xs ++ ys) = (route change xs).union (route change ys) ∧
      ((∀ app, app ∈ xs ↔ app ∈ ys) → route change xs = route change ys) ∧
      (xs ⊆ ys → ∀ key, (route change xs).contains key → (route change ys).contains key) ∧
      (change.current.kind ≠ .job →
        ∀ key, (route change xs).contains key → key.ns = change.current.key.ns) ∧
      (change.current.kind = .job →
        ∀ key, (route change xs).contains key ∧ key.ns ≠ change.current.key.ns ↔
          ∃ app ∈ xs, app.key = key ∧ app.RecordsElsewhere change.current.key) := by
  refine ⟨route_append change xs ys, route_congr, fun h key => route_mono h,
    fun hkind key hkey => ?_, fun hkind key => ⟨?_, ?_⟩⟩
  · exact (route_space hkey).resolve_right fun hjob => hkind hjob.1
  · rintro ⟨hkey, hspace⟩
    exact ((route_space hkey).resolve_left hspace).2
  · rintro ⟨app, happ, rfl, hrecords⟩
    have hkeeps : change.keepsPayload = false := keepsPayload_of_kind (by simp [hkind])
    refine ⟨route_contains happ hkeeps (hkind ▸ hrecords.dependsOn), ?_⟩
    obtain ⟨status, -, -, -, hother, hplace⟩ := hrecords
    rw [hplace]
    exact hother.symm

namespace Sample

def spread : App :=
  { App.sample Sample.key.name Sample.key.ns with
    content.status := some { initJob := { name := "shop-init", ns := "jobs" } } }

def remoteJob : Job where
  metadata := { name := some "shop-init", ns := some "jobs" }
  content := {}

end Sample

example : route (.deleted (.job Sample.remoteJob)) [Sample.spread] = KeySet.ofList [Sample.key] := by
  decide +kernel

end OdooKeeper
