import OdooKeeper.Proofs.Resting
import OdooKeeper.Proofs.Runs
import OdooKeeper.Routing

/-! # What a pass reads is watched

A pass over an app reads objects that the app names or records, and the secrets that its settings
refer to. A change of any of them concerns the app, so no pass works from a stale read. -/

namespace OdooKeeper

/-! ## What a pass depends on -/

/-- The object in a place is one that the app names or records, or a secret that it refers to. -/
def App.DependsOn (app : App) (place : Kind × ObjectKey) : Prop :=
  place ∈ app.namedObjects ++ app.recordedObjects ∨
    ∃ ref ∈ app.secretRefs, place = (.secret, ⟨app.space, ref.name⟩)

/-- The request reads nothing but what the app depends on. -/
def Request.Dependent (app : App) (r : Request) : Prop :=
  ∀ place, r.reads? = some place → app.DependsOn place

section Depends

variable {app : App} {r : Request}

theorem Request.dependent_of_reads? (h : r.reads? = none) : r.Dependent app := by
  intro place hplace
  rw [h] at hplace
  cases hplace

theorem Request.dependent_get {kind : Kind} {ns name : String}
    (h : app.DependsOn (kind, ⟨ns, name⟩)) : (Request.get kind ns name).Dependent app := by
  rintro place ⟨⟩
  exact h

theorem Request.Refers.dependent (h : r.Refers app) : r.Dependent app := by
  obtain ⟨ref, href, rfl⟩ := h
  exact Request.dependent_get (.inr ⟨ref, href, rfl⟩)

theorem App.dependsOn_of_named {place : Kind × ObjectKey} (h : place ∈ app.namedObjects) :
    app.DependsOn place :=
  .inl (List.mem_append_left _ h)

theorem App.dependsOn_initJob : app.DependsOn (.job, app.initJobKey) :=
  App.dependsOn_of_named (by simp [App.namedObjects, App.initJobKey])

theorem App.dependsOn_recorded (h : app.progress.initJob.isIdle = false) :
    app.DependsOn (.job, InitJob.recordedKey app app.progress.initJob) := by
  refine .inl (List.mem_append_right _ ?_)
  unfold App.progress at h ⊢
  cases hstatus : app.content.status with
  | none =>
    rw [hstatus] at h
    cases h
  | some status =>
    rw [hstatus] at h
    change status.initJob.isIdle = false at h
    simp only [App.recordedObjects, hstatus, h, Bool.false_eq_true, if_false]
    exact List.mem_append_right _ (List.mem_singleton.mpr rfl)

theorem Step.named (d : Step) (app : App) : d.place app ∈ app.namedObjects := by
  cases d with
  | service part =>
    cases part <;>
      simp [Step.place, Dependent.place, Step.dependent, Dependent.service, App.namedObjects]
  | _ =>
    simp [Step.place, Dependent.place, Step.dependent, Dependent.adminSecret,
      Dependent.configSecret, Dependent.filestore, Dependent.deployment, App.namedObjects]

theorem Step.converge_dependent (d : Step) (app : App) :
    (d.dependent.converge app).Asks (Request.Dependent app) fun _ => True := by
  refine d.converge_requests app ?_ (fun r hr => hr.dependent) fun r hr => ?_
  · exact Request.dependent_get (App.dependsOn_of_named (d.named app))
  · exact Request.dependent_of_reads? (Request.reads?_of_changes? hr)

end Depends

namespace Pass

variable {others : Store → Store → Prop} {settings : PassSettings} {now : Timestamp}
  {fresh : String} {app : App} {s t : Store} {log : List Event}
  {result : Except Failure (Option Nat)}

theorem track_dependent {r : Report} (poll : Nat) (h : r.Tells app app.progress) :
    (InitJob.track poll r.app r.status).Asks (Request.Dependent app) fun _ => True := by
  have hkey : r.app.key = app.key := h.1.key
  have hrecord : r.status.initJob = app.progress.initJob := congrArg Progress.initJob h.2
  refine InitJob.track_requests (fun r _ hr => Request.dependent_of_reads? ?_) poll ?_
    (Request.dependent_of_reads? rfl) fun hopen => ?_
  · cases r with
    | get => simp [Request.call] at hr
    | _ => rfl
  · have hown : (⟨r.app.space, r.app.initJobName⟩ : ObjectKey) = app.initJobKey := by
      obtain ⟨version, status, happ⟩ := h.1
      rw [happ]
      rfl
    exact Request.dependent_get (hown ▸ App.dependsOn_initJob)
  · have hrecorded : (⟨InitJob.recordedSpace r.app r.status.initJob, r.status.initJob.name⟩ :
        ObjectKey) = InitJob.recordedKey app app.progress.initJob := by
      rw [← hrecord, ← InitJob.recordedKey_congr hkey]
      rfl
    exact Request.dependent_get (hrecorded ▸ App.dependsOn_recorded (hrecord ▸ hopen))

/-- All that a pass over an app reads is what the app depends on, whatever others do meanwhile. -/
theorem course_dependent (h : Course others settings now fresh app s log result t) :
    ∀ e ∈ log, e.request.Dependent app := by
  have hprepare : (prepare now fresh app).Asks (Request.Dependent app)
      fun r => r.Tells app app.progress :=
    prepare_requests (fun _ _ _ => Request.dependent_of_reads? rfl)
      (fun d _ => d.converge_dependent app) now fresh
  cases h with
  | unprepared hrun => exact (hrun.asked hprepare).1
  | prepared hrun hjob hrest =>
    obtain ⟨hbefore, hready⟩ := hrun.asked hprepare
    have htells := hready _ rfl
    obtain ⟨tracked, outcome, x₀, x, htrack, -, rfl, -, hconcludes⟩ := jobStep_parts _ _ _ hjob
    have htracked := (htrack.asked (track_dependent _ htells)).1
    have hworkload := (hrest.asked (afterwards_asks (hconcludes.tells htells) fun requeue r hr =>
      workload_requests (fun _ _ _ => Request.dependent_of_reads? rfl)
        (fun d _ => d.converge_dependent app) hr)).1
    intro e he
    simp only [List.mem_append, List.mem_singleton] at he
    rcases he with he | (he | rfl) | he
    · exact hbefore e he
    · exact htracked e he
    · exact Request.dependent_of_reads? rfl
    · exact hworkload e he

end Pass

/-! ## What a change concerns -/

section Concerns

variable {change : Change} {app : App} {apps : List App} {kind : Kind} {key place : ObjectKey}

theorem mem_owners : key ∈ owners apps kind place ↔
    ∃ app ∈ apps, app.key = key ∧ (kind, place) ∈ app.namedObjects ++ app.recordedObjects := by
  unfold owners ownership
  simp only [List.mem_map, List.mem_filter, List.mem_flatMap, decide_eq_true_eq]
  constructor
  · rintro ⟨_, ⟨⟨app, happ, object, hobject, rfl⟩, rfl⟩, rfl⟩
    exact ⟨app, happ, rfl, hobject⟩
  · rintro ⟨app, happ, rfl, hobject⟩
    exact ⟨_, ⟨⟨app, happ, _, hobject, rfl⟩, rfl⟩, rfl⟩

theorem mem_secretUsers : key ∈ secretUsers apps place ↔
    ∃ app ∈ apps, app.key = key ∧ app.space = place.ns ∧ app.usesSecret place.name := by
  simp [secretUsers, and_comm, and_left_comm]

theorem App.dependsOn_iff : app.DependsOn (kind, place) ↔
    (kind, place) ∈ app.namedObjects ++ app.recordedObjects ∨
      kind = .secret ∧ app.space = place.ns ∧ app.usesSecret place.name := by
  constructor
  · rintro (h | ⟨ref, href, hplace⟩)
    · exact .inl h
    · obtain ⟨rfl, rfl⟩ := Prod.mk.inj hplace
      have hany : (app.secretRefs.any fun r => r.name = ref.name) = true :=
        List.any_eq_true.mpr ⟨ref, href, by simp⟩
      exact .inr ⟨rfl, rfl, by simp [App.usesSecret, hany]⟩
  · rintro (h | ⟨rfl, hspace, huses⟩)
    · exact .inl h
    · have hplace : place = ⟨app.space, place.name⟩ := by rw [hspace]
      rcases Bool.or_eq_true_iff.mp huses with hany | huser
      · obtain ⟨ref, href, hname⟩ := List.any_eq_true.mp hany
        exact .inr ⟨ref, href, by rw [hplace, of_decide_eq_true hname]⟩
      · refine App.dependsOn_of_named ?_
        have hadmin : app.adminSecretName = place.name := by
          simp [App.adminSecretName, of_decide_eq_true huser]
        rw [hplace]
        simp [App.namedObjects, hadmin]

/-- A change concerns the app that controls the object and the apps that depend on it, unless the
object is a secret that holds what it held. -/
theorem route_contains_iff : (route change apps).contains key ↔
    change.keepsPayload = false ∧
      (controllerKey? change.current = some key ∨
        ∃ app ∈ apps, app.key = key ∧
          app.DependsOn (change.current.kind, change.current.key)) := by
  unfold route
  cases change.keepsPayload with
  | true => simp
  | false =>
    have husers : key ∈ (if change.current.kind = .secret then
        secretUsers apps change.current.key else []) ↔
        ∃ app ∈ apps, app.key = key ∧ change.current.kind = .secret ∧
          app.space = change.current.key.ns ∧ app.usesSecret change.current.key.name := by
      by_cases hkind : change.current.kind = .secret <;> simp [mem_secretUsers, hkind]
    simp only [Bool.false_eq_true, if_false, KeySet.contains_ofList, List.mem_append, mem_owners,
      husers, Option.mem_toList, App.dependsOn_iff, or_assoc, true_and, and_or_left,
      exists_or]

theorem route_contains (happ : app ∈ apps) (hkeeps : change.keepsPayload = false)
    (h : app.DependsOn (change.current.kind, change.current.key)) :
    (route change apps).contains app.key :=
  route_contains_iff.mpr ⟨hkeeps, .inr ⟨app, happ, rfl, h⟩⟩

end Concerns

/-- Whatever object a pass over an app reads, the app is told when one appears in that place, when
it is taken away, and when it is updated, which for a secret means that it holds something else. -/
theorem reads_watched {others : Store → Store → Prop} {settings : PassSettings} {now : Timestamp}
    {fresh ns name : String} {app : App} {s t : Store} {first : Event} {rest : List Event}
    {result : Except Failure (Option Nat)}
    (hpass : (reconcile settings now fresh ns name).run.Executes others s (first :: rest) result t)
    (hstored : first.store.objects.get? .app ⟨ns, name⟩ = some app) {e : Event}
    (he : e ∈ first :: rest) {object : Watched}
    (hread : e.request.reads? = some (object.kind, object.key)) {apps : List App}
    (happ : app ∈ apps) :
    (route (.created object) apps).contains app.key ∧
      (route (.deleted object) apps).contains app.key ∧
      ∀ old, (Change.updated old object).keepsPayload = false →
        (route (.updated old object) apps).contains app.key := by
  obtain ⟨s', rest', -, hlog, hcourse⟩ := Pass.reconcile_course hpass
  obtain ⟨rfl, rfl⟩ := List.cons.inj hlog
  have hdepends : app.DependsOn (object.kind, object.key) := by
    rcases List.mem_cons.mp he with rfl | he
    · -- The app itself is read first, and it is of none of the kinds that are watched.
      have hkind : Kind.app = object.kind := congrArg Prod.fst (Option.some.inj hread)
      cases object <;> cases hkind
    · rcases hcourse with ⟨rfl, -⟩ | ⟨app', happ', hcourse⟩
      · cases he
      · obtain rfl : app = app' := Option.some.inj (hstored.symm.trans happ')
        exact Pass.course_dependent hcourse e he _ hread
  exact ⟨route_contains happ rfl hdepends, route_contains happ rfl hdepends,
    fun old hkeeps => route_contains happ hkeeps hdepends⟩

namespace Sample

def emptied : Watched := .secret (Secret.ofTexts "web" "db-creds" [])

def renewed : Watched := .secret (Secret.ofTexts "web" "db-creds" [("password", "hunter3")])

end Sample

theorem reads_watched_sample :
    ∃ (app : App) (e : Event), Sample.store.objects.get? .app Sample.key = some app ∧
      e ∈ Sample.starting.log ∧
      e.request.reads? = some (Sample.renewed.kind, Sample.renewed.key) ∧
      (route (.created Sample.renewed) [app]).contains app.key ∧
      (route (.deleted Sample.renewed) [app]).contains app.key ∧
      (route (.updated Sample.emptied Sample.renewed) [app]).contains app.key := by
  obtain ⟨e, he, hread⟩ : ∃ e ∈ Sample.starting.log,
      e.request.reads? = some (Sample.renewed.kind, Sample.renewed.key) := by decide +kernel
  obtain ⟨result, hpass⟩ : Sample.starting.Passes Sample.key := Round.passes_play ..
  obtain ⟨first, rest, hlog⟩ := List.exists_cons_of_ne_nil (List.ne_nil_of_mem he)
  rw [hlog] at hpass he
  have hfirst : first.store = Sample.store := hpass.first
  obtain ⟨app, happ⟩ : ∃ app : App, Sample.store.objects.get? .app Sample.key = some app := ⟨_, rfl⟩
  obtain ⟨hcreated, hdeleted, hupdated⟩ :=
    reads_watched hpass (hfirst ▸ happ) he hread (List.mem_singleton.mpr rfl)
  exact ⟨app, e, happ, hlog ▸ he, hread, hcreated, hdeleted, hupdated _ (by decide)⟩

end OdooKeeper
