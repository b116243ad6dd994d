import OdooKeeper.Proofs.Abreast
import OdooKeeper.Proofs.Footprint
import OdooKeeper.Proofs.Naming
import OdooKeeper.Proofs.Resolving
import OdooKeeper.Proofs.Runs

/-! # Passes of two apps

Two programs that change nothing that the other looks at come to the same in either order, and leave
the same. Passes over two apps of one namespace are such programs. -/

namespace OdooKeeper

variable {α β : Type} {s t : Store} {v w : View}

/-! ## Programs that keep apart -/

namespace Program

/-- The program reads no more than a view looks at. What it changes is looked at too; of pods, it
does no more than to delete some that are looked at. -/
structure Local (p : Program α) (v : View) (changes : Kind → ObjectKey → Prop)
    (ready : Store → Prop) : Prop where
  alike : ∀ s, ready s → v.Alike s s
  contents : ∀ key content content', v.secrets key content content' → content' = content
  covers : ∀ k key, changes k key → v.covers k key
  same : ∀ s t, ready s → ready t → v.Alike s t → p.Pairs p s t v.Same
  elsewhere : ∀ s, ready s → ∀ k key, k ≠ .pod → ¬ changes k key →
    (p.run s).2.objects.get? k key = s.objects.get? k key
  removes : ∀ s, ready s → ∀ key pod, (p.run s).2.objects.get? .pod key = some pod →
    s.objects.get? .pod key = some pod
  spares : ∀ s, ready s → ∀ key pod, s.objects.get? .pod key = some pod → ¬ v.pods key pod →
    (p.run s).2.objects.get? .pod key = some pod

variable {p : Program α} {q : Program β} {changes changes' : Kind → ObjectKey → Prop}
  {ready ready' : Store → Prop}

/-- What is changed in one view is not looked at in the other. -/
structure Apart (v w : View) (changes changes' : Kind → ObjectKey → Prop) : Prop where
  left : ∀ k key, changes k key → ¬ w.covers k key
  right : ∀ k key, changes' k key → ¬ v.covers k key
  pods : ∀ key pod, v.pods key pod → ¬ w.pods key pod

theorem Apart.symm (h : Apart v w changes changes') : Apart w v changes' changes :=
  ⟨h.right, h.left, fun key pod hw hv => h.pods key pod hv hw⟩

namespace Local

theorem unseen (hp : p.Local v changes ready) (hq : q.Local w changes' ready')
    (hapart : Apart v w changes changes') (hs : ready s) (hs' : ready' s) :
    v.Alike s (q.run s).2 := by
  obtain ⟨log, hexecutes⟩ := exists_executes_run q s
  have h := hp.alike s hs
  refine ⟨h.granted, hexecutes.refusals.2.trans h.granted, h.wellFormed,
    hexecutes.wellFormed_alone h.wellFormed, h.bears, fun k key hk hcover => ?_, fun key pod hlooked => ?_⟩
  · rw [hq.elsewhere s hs' k key hk fun hchanges => hapart.right k key hchanges hcover]
    exact h.objects k key hk hcover
  · exact ⟨fun hget => hq.spares s hs' key pod hget (hapart.pods key pod hlooked),
      hq.removes s hs' key pod⟩

theorem pods_left (hp : p.Local v changes ready) (hq : q.Local w changes' ready')
    (hafter : v.Alike (p.run s).2 (p.run (q.run s).2).2)
    (hafter' : w.Alike (q.run s).2 (q.run (p.run s).2).2) (hs : ready s) (hs' : ready' s)
    (hready : ready (q.run s).2) (hready' : ready' (p.run s).2) {key : ObjectKey} {pod : Pod}
    (hleft : (q.run (p.run s).2).2.objects.get? .pod key = some pod) :
    (p.run (q.run s).2).2.objects.get? .pod key = some pod := by
  have hfirst := hq.removes _ hready' key pod hleft
  by_cases hv : v.pods key pod
  · exact (hafter.pods key pod hv).mp hfirst
  · refine hp.spares _ hready key pod ?_ hv
    by_cases hw : w.pods key pod
    · exact (hafter'.pods key pod hw).mpr hleft
    · exact hq.spares _ hs' key pod (hp.removes _ hs key pod hfirst) hw

end Local

/-- Two programs that keep apart come to the same in either order and leave the same objects, up to
versions and identities that the store has made. -/
theorem Local.commute (hp : p.Local v changes ready) (hq : q.Local w changes' ready')
    (hapart : Apart v w changes changes') (hs : ready s) (hs' : ready' s)
    (hready : ready (q.run s).2) (hready' : ready' (p.run s).2) :
    (p.run (q.run s).2).1 = (p.run s).1 ∧ (q.run (p.run s).2).1 = (q.run s).1 ∧
      ∀ k key, Option.Rel (Object.Alike key) ((q.run (p.run s).2).2.objects.get? k key)
        ((p.run (q.run s).2).2.objects.get? k key) := by
  obtain ⟨hresult, hafter⟩ := hp.same _ _ hs hready (hp.unseen hq hapart hs hs')
  obtain ⟨hresult', hafter'⟩ := hq.same _ _ hs' hready' (hq.unseen hp hapart.symm hs' hs)
  refine ⟨hresult, hresult', fun k key => ?_⟩
  by_cases hk : k = .pod
  · subst hk
    have hsame : (p.run (q.run s).2).2.objects.get? .pod key =
        (q.run (p.run s).2).2.objects.get? .pod key :=
      Option.ext fun pod => ⟨hq.pods_left hp hafter' hafter hs' hs hready' hready,
        hp.pods_left hq hafter hafter' hs hs' hready hready'⟩
    rw [hsame]
    exact Object.Alike.rel_refl ..
  -- An object is changed by one of the programs at most, which does the same with it in both orders.
  by_cases hchanges : changes k key
  · have hother : ¬ changes' k key :=
      fun hchanges' => hapart.right k key hchanges' (hp.covers k key hchanges)
    rw [hq.elsewhere _ hready' k key hk hother]
    exact rel_imp (hafter.objects k key hk (hp.covers k key hchanges))
      fun _ _ hsame => hsame.alike hp.contents
  rw [hp.elsewhere _ hready k key hk hchanges]
  by_cases hchanges' : changes' k key
  · exact rel_symm (hafter'.objects k key hk (hq.covers k key hchanges'))
      fun _ _ hsame => (hsame.alike hq.contents).symm
  · rw [hq.elsewhere _ hready' k key hk hchanges', hp.elsewhere _ hs k key hk hchanges,
      hq.elsewhere _ hs' k key hk hchanges']
    exact Object.Alike.rel_refl ..

end Program

/-! ## Passes and pods -/

def Request.AddsNoPod (r : Request) : Prop := r.changes? = some .pod → r.call.verb = .delete

theorem Request.Quiet.addsNoPod {kinds : List Kind} {key : ObjectKey} {progress : Progress}
    {r : Request} (h : r.Quiet kinds key progress) (hpod : .pod ∉ kinds) : r.AddsNoPod := by
  intro hchanges
  rcases h with hamong | ⟨sent, rfl, -, -⟩
  · rw [Request.Among, Request.kind_of_changes? hchanges] at hamong
    exact absurd hamong hpod
  · cases hchanges

theorem Store.serve_addsNoPod {r : Request} (hr : r.AddsNoPod) {key : ObjectKey} {pod : Pod}
    (h : (s.serve r).2.objects.get? .pod key = some pod) : s.objects.get? .pod key = some pod := by
  by_cases hchanges : r.changes? = some .pod
  · have hdelete := hr hchanges
    cases r with
    | delete k ns name =>
      rcases serve_cases s (.delete k ns name) with ⟨e, hs⟩ | ⟨-, hs⟩ <;> rw [hs] at h
      · exact h
      · exact get?_without (s := s.recording (.delete k ns name)) h
    | get => cases hchanges
    | list => cases hchanges
    | create => cases hdelete
    | replace => cases hdelete
    | replaceStatus => cases hchanges
  · rwa [Objects.get?, serve_table s hchanges] at h

theorem Pass.reconcile_addsNoPod {settings : PassSettings} {now : Timestamp} {fresh ns name : String}
    {others : Store → Store → Prop} {log : List Event} {result : Except Failure (Option Nat)}
    (h : (reconcile settings now fresh ns name).run.Executes others s log result t) :
    ∀ e ∈ log, e.request.AddsNoPod := by
  obtain ⟨u, rest, -, rfl, ⟨rfl, -⟩ | ⟨app, -, hcourse⟩⟩ := reconcile_course h
  · simp [Request.AddsNoPod, Request.changes?]
  refine List.forall_mem_cons.mpr ⟨by simp [Request.AddsNoPod, Request.changes?], ?_⟩
  cases hcourse with
  | unprepared prepare =>
    have hprepare := (prepare.asked (prepare_quiet now fresh app)).1
    exact fun e he => (hprepare e he).addsNoPod (by simp)
  | @prepared r _ _ _ _ _ _ _ _ prepare job rest =>
    obtain ⟨hprepare, htells⟩ := prepare.asked (prepare_quiet now fresh app)
    obtain ⟨tracked, outcome, x₀, x, htrack, -, rfl, -, hconcludes⟩ := jobStep_parts _ _ _ job
    have hasks : (InitJob.track settings.requeueJobPoll r.app r.status).Asks Request.AddsNoPod
        fun _ => True := by
      refine InitJob.track_requests (fun r _ hverb hchanges => ?_) _ ?_ ?_ fun _ => ?_
      · cases r with
        | list => cases hchanges
        | delete => rfl
        | _ => simp [Request.call] at hverb
      all_goals
        intro hchanges
        cases hchanges
    have hrest := (rest.asked (afterwards_quiet (hconcludes.tells (htells r rfl)))).1
    refine List.forall_mem_append.mpr ⟨fun e he => (hprepare e he).addsNoPod (by simp),
      List.forall_mem_append.mpr ⟨List.forall_mem_append.mpr ⟨(htrack.asked hasks).1,
        List.forall_mem_singleton.mpr ?_⟩, fun e he => (hrest e he).addsNoPod (by simp)⟩⟩
    simp [Request.AddsNoPod, Request.changes?]

/-! ## Names of two apps -/

/-- The app bears a plain name, names nothing that serves it, and has no job recorded but its own. -/
structure App.Conventional (app : App) : Prop where
  name : Text.IsPlain app.instanceName
  adminSecret : app.userAdminSecretName? = none
  claim : givenText? app.content.spec.filestore.name = none
  record : app.progress.initJob.isIdle = true ∨
    InitJob.recordedKey app app.progress.initJob = app.initJobKey

/-- The database settings of an app refer to no secret that a pass over another one writes. -/
def App.Ignores (app other : App) : Prop :=
  ∀ ref ∈ app.secretRefs, ref.name ≠ other.configSecretName ∧ ref.name ≠ other.adminSecretName

namespace App.Conventional

variable {o o' : Objects} {k : Kind} {key : ObjectKey} {app other : App}

theorem adminSecretName (h : app.Conventional) :
    app.adminSecretName = app.instanceName ++ "-admin-password" :=
  App.adminSecretName_eq h.adminSecret

theorem claimName (h : app.Conventional) : app.claimName = app.instanceName ++ "-filestore" :=
  App.claimName_eq h.claim

theorem hasPlainNames (h : app.Conventional) : app.HasPlainNames := by
  refine ⟨h.name, ?_⟩
  rcases h.record with hidle | hown
  · have hname : app.progress.initJob.name = "" := by simpa [JobRecord.isIdle] using hidle
    rw [hname]
    decide
  · have hname : app.progress.initJob.name = app.initJobName := congrArg ObjectKey.name hown
    rw [hname]
    exact h.name.append (by decide)

theorem recordedKey (h : app.Conventional) (hrecorded : app.progress.initJob.isIdle = false) :
    InitJob.recordedKey app app.progress.initJob = app.initJobKey :=
  h.record.resolve_left (by simp [hrecorded])

theorem recordedPart (h : app.Conventional) (hrecorded : app.progress.initJob.isIdle = false)
    (hpart : o.PartOfJob (InitJob.recordedKey app app.progress.initJob) k key) :
    o.PartOfJob app.initJobKey k key := by
  rwa [h.recordedKey hrecorded] at hpart

theorem touches (h : app.Conventional) (htouches : app.Touches o k key) (hk : k ≠ .pod) :
    key.ns = app.space ∧ ∃ ending ∈ endings k, key.name = app.instanceName ++ ending := by
  have hjob : o.PartOfJob app.initJobKey k key →
      key.ns = app.space ∧ ∃ ending ∈ endings k, key.name = app.instanceName ++ ending := by
    intro hpart
    cases hpart with
    | job => exact ⟨rfl, "-init", by simp [endings], rfl⟩
    | pod => exact absurd rfl hk
  cases htouches with
  | adminSecret => exact ⟨rfl, _, by simp [endings], h.adminSecretName⟩
  | configSecret => exact ⟨rfl, "-config", by simp [endings], rfl⟩
  | claim => exact ⟨rfl, _, by simp [endings], h.claimName⟩
  | ownJob hpart => exact hjob hpart
  | recordedJob hrecorded hpart => exact hjob (h.recordedPart hrecorded hpart)
  | deployment => exact ⟨rfl, "", by simp [endings], by simp [App.deploymentName]⟩
  | httpService => exact ⟨rfl, "-http", by simp [endings], rfl⟩
  | pollService => exact ⟨rfl, "-poll", by simp [endings], rfl⟩
  | status => exact ⟨rfl, "", by simp [endings], by simp [App.key]⟩

end App.Conventional

theorem App.Touches.of_ne_pod {app : App} {o o' : Objects} {k : Kind} {key : ObjectKey}
    (h : app.Touches o k key) (hk : k ≠ .pod) : app.Touches o' k key := by
  have hpart : ∀ {job : ObjectKey}, o.PartOfJob job k key → o'.PartOfJob job k key := by
    intro job hpart
    cases hpart with
    | job => exact .job
    | pod => exact absurd rfl hk
  cases h with
  | adminSecret => exact .adminSecret
  | configSecret => exact .configSecret
  | claim => exact .claim
  | ownJob part => exact .ownJob (hpart part)
  | recordedJob recorded part => exact .recordedJob recorded (hpart part)
  | deployment => exact .deployment
  | httpService => exact .httpService
  | pollService => exact .pollService
  | status => exact .status

theorem App.Touches.not_pod_empty {app : App} {key : ObjectKey} : ¬ app.Touches {} .pod key := by
  have hpart : ∀ {job : ObjectKey}, ¬ Objects.PartOfJob {} job .pod key := by
    rintro job (_ | ⟨hstored, -, -⟩)
    cases hstored
  intro h
  cases h with
  | ownJob part => exact hpart part
  | recordedJob recorded part => exact hpart part

/-! ## What a pass looks at -/

/-- What a pass over an app looks at: what it may change, and the secrets that the app refers to. -/
def App.view (app : App) : View where
  covers k key := app.Touches {} k key ∨
    k = .secret ∧ ∃ ref ∈ app.secretRefs, key = ⟨app.space, ref.name⟩
  writes k key := ∃ d : Step, (k, key) = d.place app
  pods key pod := key.ns = app.space ∧ pod.metadata.label? "job-name" = some app.initJobName
  secrets _ content content' := content' = content
  secrets_refl _ _ := rfl

/-- A store that refuses nothing and whose pods have names has an app. -/
structure Store.Hosts (s : Store) (app : App) : Prop where
  granted : s.refusals = []
  wellFormed : s.WellFormed
  keyed : s.Keyed
  named : ∀ key, ∀ pod : Pod, s.objects.get? .pod key = some pod → pod.metadata.name.isSome
  stored : s.objects.get? .app app.key = some app

namespace App.Conventional

variable {app other : App}

theorem takes (d : Step) : app.view.Takes d.kind (d.dependent.place app) :=
  ⟨.inl (.dependent d rfl), d, rfl⟩

theorem sees (h : app.Conventional) : app.view.SeesJob app.initJobKey := by
  refine ⟨.inl (.ownJob .job), fun key pod hns hlabels => ⟨hns, ?_⟩⟩
  have hname : Text.IsPlain app.initJobName := h.hasPlainNames.initJobName
  change Store.hasLabels ("job-name=" ++ app.initJobName) pod = true at hlabels
  rw [Store.hasLabels, Selector.parse_job hname] at hlabels
  simpa using hlabels

theorem looks (h : app.Conventional) {o : Objects} {key : ObjectKey} {pod : Pod}
    (htouches : app.Touches o .pod key) (hpod : o.get? .pod key = some pod) :
    app.view.pods key pod := by
  have hpart : o.PartOfJob app.initJobKey .pod key → app.view.pods key pod := by
    rintro (_ | ⟨hstored, hns, hlabel⟩)
    rw [hpod] at hstored
    cases hstored
    exact ⟨hns, hlabel⟩
  cases htouches with
  | ownJob part => exact hpart part
  | recordedJob recorded part => exact hpart (h.recordedPart recorded part)

theorem knows (h : app.Conventional) : app.view.Knows app where
  status := .inl .status
  claim := takes .filestore
  job := h.sees
  deployment := takes .deployment
  service part := takes (.service part)
  adminSecret := takes (.adminSecret "")
  configSecret := takes (.configSecret "")
  refs ref href := .inr ⟨rfl, ref, href, rfl⟩
  contents _ _ _ hsame := hsame
  recorded hrecorded := by
    rw [h.recordedKey hrecorded]
    exact h.sees

theorem unseen (h : app.Conventional) (hother : other.Conventional)
    (hname : other.instanceName ≠ app.instanceName) (hrefs : other.Ignores app) {k : Kind}
    {key : ObjectKey} (htouches : app.Touches {} k key) : ¬ other.view.covers k key := by
  have hk : k ≠ .pod := by
    rintro rfl
    exact htouches.not_pod_empty
  obtain ⟨-, ending, hending, hkey⟩ := h.touches htouches hk
  rintro (htouches' | ⟨rfl, ref, href, rfl⟩)
  · obtain ⟨-, ending', hending', hkey'⟩ := hother.touches htouches' hk
    exact hname (endings_inj hending' hending (hkey'.symm.trans hkey))
  · obtain ⟨hconfig, hadmin⟩ := hrefs ref href
    simp only [endings, List.mem_cons, List.not_mem_nil, or_false] at hending
    rcases hending with rfl | rfl
    · exact hadmin (hkey.trans h.adminSecretName.symm)
    · exact hconfig hkey

theorem apart (h : app.Conventional) (hother : other.Conventional)
    (hname : other.instanceName ≠ app.instanceName) (hrefs : app.Ignores other)
    (hrefs' : other.Ignores app) :
    Program.Apart app.view other.view (app.Touches {}) (other.Touches {}) := by
  refine ⟨fun k key => h.unseen hother hname hrefs', fun k key => hother.unseen h hname.symm hrefs, ?_⟩
  rintro key pod ⟨-, hlabel⟩ ⟨-, hlabel'⟩
  rw [hlabel, Option.some.injEq] at hlabel'
  exact hname ((String.append_left_inj "-init").mp hlabel').symm

end App.Conventional

/-! ## Passes -/

section Passes

variable {app other : App} {settings : PassSettings} {now : Timestamp} {fresh : String}

theorem Store.Hosts.alike (h : s.Hosts app) : app.view.Alike s s :=
  ⟨h.granted, h.granted, h.wellFormed, h.wellFormed, fun k key object _ hget =>
    .inl (h.keyed k key object hget), fun _ _ _ _ => View.Resembles.rel_refl .., fun _ _ _ => .rfl⟩

theorem Store.Hosts.namesPods (h : s.Hosts app) : s.objects.NamesPods := by
  intro key pod hpod
  obtain ⟨name, hname⟩ := Option.isSome_iff_exists.mp (h.named key pod hpod)
  have hkey : pod.name = key.name := h.keyed .pod key pod hpod
  rw [hname, ← hkey, Object.name, hname]
  rfl

theorem Store.Hosts.within (h : s.Hosts app) (happ : app.Conventional) {log : List Event}
    {result : Except Failure (Option Nat)}
    (hexecutes : (reconcile settings now fresh app.key.ns app.key.name).run.Executes Eq s log result t)
    {k : Kind} {key : ObjectKey} (hkey : ¬ app.Touches s.objects k key) :
    t.objects.get? k key = s.objects.get? k key := by
  have hstored : ∀ found : App, s.objects.get? .app app.key = some found → found = app :=
    fun found hfound => Option.some.inj (hfound.symm.trans h.stored)
  have hwithin := Pass.reconcile_within h.wellFormed h.namesPods
    (fun found hfound => by
      rw [hstored found hfound]
      exact ⟨rfl, happ.hasPlainNames⟩) hexecutes
  refine hexecutes.elsewhere (fun e he => (hwithin e he).2) ?_
  rintro ⟨found, hfound, htouches⟩
  rw [hstored found hfound] at htouches
  exact hkey htouches

/-- A pass over an app keeps to what it looks at. -/
theorem App.Conventional.pass_local (happ : app.Conventional) :
    (reconcile settings now fresh app.key.ns app.key.name).run.Local app.view (app.Touches {})
      fun s => s.Hosts app where
  alike s hs := hs.alike
  contents _ _ _ hsame := hsame
  covers _ _ htouches := .inl htouches
  same s t hs ht halike := by
    let read : Request := .get .app app.key.ns app.key.name
    have hsame : (t.recording read).objects.get? .app app.key =
        (s.recording read).objects.get? .app app.key := ht.stored.trans hs.stored.symm
    unfold Program.Pairs
    rw [Pass.reconcile_run hs.granted hs.stored, Pass.reconcile_run ht.granted ht.stored]
    exact View.same_of_pairs
      (Pass.converge_pairs happ.knows fresh hsame (halike.recording read read))
  elsewhere s hs k key hk hkey := by
    obtain ⟨log, hexecutes⟩ := Program.exists_executes_run
      (reconcile settings now fresh app.key.ns app.key.name).run s
    exact hs.within happ hexecutes fun htouches => hkey (htouches.of_ne_pod hk)
  removes s hs key pod hget := by
    obtain ⟨log, hexecutes⟩ := Program.exists_executes_run
      (reconcile settings now fresh app.key.ns app.key.name).run s
    exact (hexecutes.keeps Request.AddsNoPod
      (fun u => u.objects.get? .pod key = some pod → s.objects.get? .pod key = some pod)
      (Pass.reconcile_addsNoPod hexecutes) (fun _ _ he h => he ▸ h)
      (fun u r hr h hget => h (Store.serve_addsNoPod hr hget)) id).2 hget
  spares s hs key pod hget hlooked := by
    obtain ⟨log, hexecutes⟩ := Program.exists_executes_run
      (reconcile settings now fresh app.key.ns app.key.name).run s
    refine (hs.within happ hexecutes fun htouches => hlooked ?_).trans hget
    exact happ.looks htouches hget

theorem Store.Hosts.run {q : Program β} {changes : Kind → ObjectKey → Prop} {ready : Store → Prop}
    (h : s.Hosts app) (hq : q.Local w changes ready) (hs : ready s) (hkey : ¬ changes .app app.key) :
    (q.run s).2.Hosts app := by
  obtain ⟨log, hexecutes⟩ := Program.exists_executes_run q s
  refine ⟨hexecutes.refusals.2.trans h.granted, hexecutes.wellFormed_alone h.wellFormed,
    hexecutes.keyed h.keyed, fun key pod hget => h.named key pod (hq.removes s hs key pod hget), ?_⟩
  rw [hq.elsewhere s hs .app app.key (by simp) hkey]
  exact h.stored

/-- Passes over two apps with different names come to the same in either order and leave the same
objects, up to versions and identities that the store has made. -/
theorem passes_commute {now' : Timestamp} {fresh' : String} (hs : s.Hosts app) (hs' : s.Hosts other)
    (happ : app.Conventional) (hother : other.Conventional)
    (hname : other.instanceName ≠ app.instanceName) (hrefs : app.Ignores other)
    (hrefs' : other.Ignores app) :
    let pass := (reconcile settings now fresh app.key.ns app.key.name).run
    let pass' := (reconcile settings now' fresh' other.key.ns other.key.name).run
    (pass.run (pass'.run s).2).1 = (pass.run s).1 ∧
      (pass'.run (pass.run s).2).1 = (pass'.run s).1 ∧
      ∀ k key, Option.Rel (Object.Alike key) ((pass'.run (pass.run s).2).2.objects.get? k key)
        ((pass.run (pass'.run s).2).2.objects.get? k key) := by
  intro pass pass'
  have hapart := happ.apart hother hname hrefs hrefs'
  have hkey : ¬ other.Touches {} .app app.key :=
    fun htouches => hapart.right _ _ htouches (.inl .status)
  have hkey' : ¬ app.Touches {} .app other.key :=
    fun htouches => hapart.left _ _ htouches (.inl .status)
  exact happ.pass_local.commute hother.pass_local hapart hs hs'
    (hs.run hother.pass_local hs' hkey) (hs'.run happ.pass_local hs hkey')

end Passes

/-! ## Samples -/

namespace Sample

def otherKey : ObjectKey := ⟨"web", "crm"⟩

/-- The sample store with another app that reads the same secret. -/
def pair : Store := store.insert (App.sample otherKey.name otherKey.ns)

theorem pair_wellFormed : pair.WellFormed := ((Store.wellFormed_empty.insert _).insert _).insert _

theorem pair_keyed : pair.Keyed := ((Store.keyed_empty.insert _).insert _).insert _

theorem pair_hosts {app : App} (h : pair.objects.get? .app app.key = some app) :
    pair.Hosts app := by
  refine ⟨rfl, pair_wellFormed, pair_keyed, fun key pod hpod => ?_, h⟩
  have hnone : pair.objects.table .pod = ∅ := by decide +kernel
  rw [Objects.get?, hnone] at hpod
  cases hpod

theorem pair_app {place : ObjectKey} (h : place = key ∨ place = otherKey) : ∃ app : App,
    pair.objects.get? .app place = some app ∧ app.key = place ∧ app.Conventional ∧
      (∀ ref ∈ app.secretRefs, ref.name = "db-creds") ∧ app.configSecretName ≠ "db-creds" ∧
      app.adminSecretName ≠ "db-creds" := by
  have hfacts : (pair.objects.get? .app place).any fun app : App => app.key = place ∧
      Text.IsPlain app.instanceName ∧ app.userAdminSecretName? = none ∧
      givenText? app.content.spec.filestore.name = none ∧ app.progress.initJob.isIdle ∧
      (app.secretRefs.all fun ref => ref.name = "db-creds") ∧ app.configSecretName ≠ "db-creds" ∧
      app.adminSecretName ≠ "db-creds" := by
    rcases h with rfl | rfl <;> decide +kernel
  obtain ⟨app, happ, hfacts⟩ := (Option.any_eq_true ..).mp hfacts
  obtain ⟨hkey, hplain, hadmin, hclaim, hidle, hrefs, hothers⟩ := of_decide_eq_true hfacts
  exact ⟨app, happ, hkey, ⟨hplain, hadmin, hclaim, .inl hidle⟩, by simpa using hrefs, hothers⟩

theorem pair_apps : ∃ shop crm : App, pair.objects.get? .app key = some shop ∧
    pair.objects.get? .app otherKey = some crm ∧ shop.key = key ∧ crm.key = otherKey ∧
    shop.Conventional ∧ crm.Conventional ∧ crm.instanceName ≠ shop.instanceName ∧
    shop.Ignores crm ∧ crm.Ignores shop := by
  obtain ⟨shop, hshop, hkey, hconventional, hrefs, hconfig, hadmin⟩ := pair_app (.inl rfl)
  obtain ⟨crm, hcrm, hkey', hconventional', hrefs', hconfig', hadmin'⟩ := pair_app (.inr rfl)
  refine ⟨shop, crm, hshop, hcrm, hkey, hkey', hconventional, hconventional', ?_, ?_, ?_⟩
  · rw [show crm.instanceName = "crm" from congrArg ObjectKey.name hkey',
      show shop.instanceName = "shop" from congrArg ObjectKey.name hkey]
    decide
  · exact fun ref href => (hrefs ref href).symm ▸ ⟨hconfig'.symm, hadmin'.symm⟩
  · exact fun ref href => (hrefs' ref href).symm ▸ ⟨hconfig.symm, hadmin.symm⟩

end Sample

theorem passes_commute_sample : ∃ shop crm : App,
    Sample.pair.objects.get? .app Sample.key = some shop ∧
    Sample.pair.objects.get? .app Sample.otherKey = some crm ∧
    let pass := (reconcile {} (.ofUnix 0) "fresh" shop.key.ns shop.key.name).run
    let pass' := (reconcile {} (.ofUnix 0) "new" crm.key.ns crm.key.name).run
    (pass.run (pass'.run Sample.pair).2).1 = (pass.run Sample.pair).1 ∧
      (pass'.run (pass.run Sample.pair).2).1 = (pass'.run Sample.pair).1 ∧
      ∀ k key, Option.Rel (Object.Alike key)
        ((pass'.run (pass.run Sample.pair).2).2.objects.get? k key)
        ((pass.run (pass'.run Sample.pair).2).2.objects.get? k key) := by
  obtain ⟨shop, crm, hshop, hcrm, hkey, hkey', hconventional, hconventional', hname, hrefs, hrefs'⟩ :=
    Sample.pair_apps
  exact ⟨shop, crm, hshop, hcrm, passes_commute (Sample.pair_hosts (hkey ▸ hshop))
    (Sample.pair_hosts (hkey' ▸ hcrm)) hconventional hconventional' hname hrefs hrefs'⟩

end OdooKeeper
