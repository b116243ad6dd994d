import OdooKeeper.Proofs.Conditions
import OdooKeeper.Proofs.Resting
import OdooKeeper.Proofs.Runs

/-! # The steady state

A pass that need not be repeated leaves a store on which every further pass is idle: all dependents are
at rest, no modules have to be installed, and the status says so already. -/

namespace OdooKeeper

/-! ## What a steady store has -/

/-- The app is stored with the status of the report. -/
def Report.Kept (r : Report) (s : Store) : Prop :=
  r.InStep s ∧ r.app.content.status = some r.status

/-- The objects that the init job needs are at rest, and the status names them. -/
def Store.Prepared (s : Store) (app : App) (status : App.Status) : Prop :=
  ∃ secret password config claim,
    (∀ fresh, (Step.adminSecret fresh).Rests s app secret) ∧
    adminPassword secret = .ok password ∧
    (Step.configSecret password).Rests s app config ∧ Step.filestore.Rests s app claim ∧
    status.adminSecretName = some secret.metadata.anyName ∧
    status.configSecretName = some config.metadata.anyName ∧
    status.dataClaimName = some claim.metadata.anyName

/-- The workload is at rest. -/
def Store.Working (s : Store) (app : App) : Prop :=
  (∃ deployment, Step.deployment.Rests s app deployment) ∧
    ∀ part, ∃ service, (Step.service part).Rests s app service

section Under

variable {s : Store} {app : App} {status : App.Status} {status' : Option App.Status}
  {version : Option String}

theorem Store.Prepared.under (h : s.Prepared app status) :
    s.Prepared (app.under version status') status := by
  obtain ⟨secret, password, config, claim, hsecret, hpassword, hconfig, hclaim, hrecorded⟩ := h
  exact ⟨secret, password, config, claim, fun fresh => (hsecret fresh).under, hpassword,
    hconfig.under, hclaim.under, hrecorded⟩

theorem Store.Working.under (h : s.Working app) : s.Working (app.under version status') := by
  obtain ⟨⟨deployment, hdeployment⟩, hservices⟩ := h
  refine ⟨⟨deployment, hdeployment.under⟩, fun part => ?_⟩
  obtain ⟨service, hservice⟩ := hservices part
  exact ⟨service, hservice.under⟩

end Under

/-- There is nothing to do about the app of the report, and nothing new to tell. -/
structure Report.Steady (r : Report) (s : Store) : Prop where
  granted : s.refusals = []
  kept : r.Kept s
  prepared : s.Prepared r.app r.status
  idle : r.status.initJob.isIdle = true
  settled : needsInit r.status.installed r.app.content.spec.modules = false
  working : s.Working r.app
  succeeded : ∀ now, r.succeed now = r

/-! ## Passes on a steady store -/

section Idle

variable {s t : Store} {r r' : Report} {now : Timestamp} {fresh : String} {settings : PassSettings}

theorem Store.serve_status_same {app : App} (hget : s.objects.get? .app app.key = some app)
    (hgranted : s.refusals = []) :
    s.serve (.replaceStatus app) = (.ok app, s.recording (.replaceStatus app)) := by
  rw [serve_granted (not_refuses hgranted _), perform]
  rcases replaceStatus_cases (s.recording (.replaceStatus app)) app with
    ⟨hnone, -⟩ | ⟨stored, hsome, ⟨hstale, -⟩ | ⟨-, -, hp⟩ | ⟨cleared, -, hne, -⟩⟩
  · rw [recording_objects, hget] at hnone
    cases hnone
  all_goals
    rw [recording_objects, hget] at hsome
    cases hsome
  · simp [isStale] at hstale
  · exact hp
  · exact absurd rfl hne

theorem Report.Kept.save_idles (h : r.Kept s) (hgranted : s.refusals = []) : r.save.Idles s r := by
  intro t ht
  have hwritten : r.written = r.app := by
    unfold Report.written
    rw [← h.2]
  have hserve : t.serve (.replaceStatus r.written) =
      (.ok r.app, t.recording (.replaceStatus r.app)) := by
    rw [hwritten]
    refine Store.serve_status_same ?_ (ht.refusals.trans hgranted)
    rw [ht.objects]
    exact h.1
  have haccepted : r.accepted r.app = r := by
    unfold Report.accepted
    rw [hwritten]
  have hstays : t.Stays (t.recording (.replaceStatus r.app)) := Store.stays_recording rfl
  refine ⟨_, ?_, ht.trans hstays⟩
  unfold Attempt.Gives
  rw [Report.save_eq, Program.run_bind, Program.run_ask, hserve]
  simp only [haccepted]
  rfl

namespace Pass

theorem gives_step {k : Kind} {d : Dependent k} {converged : Converged k} {u : Store}
    (hconverge : (d.converge r.app).Gives s converged u)
    (hsave : (r.apply (d.recorded converged.object.metadata.anyName).toList).save.Gives u r' t) :
    (step now d r).Gives s (converged.object, r') t := by
  unfold Attempt.Gives step at *
  rw [ExceptT.run_mk, Program.run_bind, hconverge]
  simp only [Program.run_bind]
  rw [hsave]
  rfl

theorem step_idles {step : Step} {live : Object step.kind} (hrests : step.Rests s r.app live)
    (hrecorded : r.apply (step.dependent.recorded live.metadata.anyName).toList = r)
    (hkept : r.Kept s) (hgranted : s.refusals = []) :
    (Pass.step now step.dependent r).Idles s (live, r) := by
  intro t ht
  obtain ⟨u, hconverge, hu⟩ := hrests.converge_idles hgranted t ht
  obtain ⟨v, hsave, hv⟩ := hkept.save_idles hgranted u hu
  refine ⟨v, gives_step hconverge ?_, hv⟩
  rw [hrecorded]
  exact hsave

end Pass

theorem InitJob.track_idle {poll : Nat} {app : App} {status : App.Status}
    (hidle : status.initJob.isIdle = true)
    (hsettled : needsInit status.installed app.content.spec.modules = false) :
    track poll app status = pure {} := by
  unfold track startIfNeeded
  simp [hidle, hsettled]

namespace Report.Steady

variable (h : r.Steady s)
include h

theorem prepare_idles : (Pass.prepare now fresh r.app).Idles s r := by
  obtain ⟨secret, password, config, claim, hsecret, hpassword, hconfig, hclaim, hnames⟩ := h.prepared
  obtain ⟨hsecretName, hconfigName, hclaimName⟩ := hnames
  have hstart : Report.start r.app = r := by
    unfold Report.start
    rw [h.kept.2]
    rfl
  have hrecorded : ∀ update, StatusUpdate.apply r.status update = r.status →
      r.apply (some update).toList = r := fun update hupdate => congrArg (Report.mk r.app) hupdate
  unfold Pass.prepare
  rw [hstart]
  refine (Pass.step_idles (hsecret fresh) (hrecorded _ ?_) h.kept h.granted).bind ?_
  · simp only [StatusUpdate.apply, ← hsecretName]
  simp only [hpassword]
  refine (Pass.step_idles hconfig (hrecorded _ ?_) h.kept h.granted).bind ?_
  · simp only [StatusUpdate.apply, ← hconfigName]
  refine (Pass.step_idles hclaim (hrecorded _ ?_) h.kept h.granted).bind ?_
  · simp only [StatusUpdate.apply, ← hclaimName]
  exact Attempt.idles_pure r s

theorem jobStep_idles : (Pass.jobStep settings now r).Idles s (none, r) := by
  unfold Pass.jobStep
  rw [InitJob.track_idle h.idle h.settled]
  exact (h.kept.save_idles h.granted).bind (Attempt.idles_pure (none, r) s)

theorem workload_idles : (Pass.workload now none r).Idles s none := by
  obtain ⟨⟨deployment, hdeployment⟩, hservices⟩ := h.working
  obtain ⟨http, hhttp⟩ := hservices .http
  obtain ⟨poll, hpoll⟩ := hservices .poll
  unfold Pass.workload
  refine (Pass.step_idles hdeployment rfl h.kept h.granted).bind ?_
  refine (Pass.step_idles hhttp rfl h.kept h.granted).bind ?_
  refine (Pass.step_idles hpoll rfl h.kept h.granted).bind ?_
  simp only [h.succeeded now]
  exact (h.kept.save_idles h.granted).bind (Attempt.idles_pure none s)

theorem reconcile_idles (settings : PassSettings) (now : Timestamp) (fresh : String)
    {ns name : String} (hkey : r.app.key = ⟨ns, name⟩) :
    (reconcile settings now fresh ns name).Idles s none := by
  have hget := Attempt.idles_get .app .app ns name h.granted
  have hstored : s.objects.get? .app ⟨ns, name⟩ = some r.app := by
    rw [← hkey]
    exact h.kept.1
  rw [hstored] at hget
  refine hget.bind ?_
  simp only
  rw [Pass.converge_eq]
  refine h.prepare_idles.bind (h.jobStep_idles.bind ?_)
  exact h.workload_idles

end Report.Steady

end Idle

/-! ## What a step leaves -/

/-- The app has a name and an identity, and does not depend on its own configuration file. -/
structure App.Independent (app : App) : Prop where
  name : app.metadata.name.isSome
  uid : app.metadata.uid.isSome
  refs : ∀ ref ∈ app.secretRefs, ref.name ≠ app.configSecretName
  admin : app.userAdminSecretName? ≠ some app.configSecretName

def App.Status.SameNames (status status' : App.Status) : Prop :=
  status'.adminSecretName = status.adminSecretName ∧
    status'.configSecretName = status.configSecretName ∧
    status'.dataClaimName = status.dataClaimName

/-- The report is about the app, and the store has it. -/
structure Report.Stands (r : Report) (app : App) (s : Store) : Prop where
  about : r.About app
  inStep : r.InStep s
  wellFormed : s.WellFormed

section Reach

variable {app : App} {r r' : Report} {s t : Store} {now : Timestamp} {fresh : String}
  {settings : PassSettings}

theorem Report.Stands.accepted {stored : App} (h : r.Stands app s)
    (hserve : (s.serve (.replaceStatus r.written)).1 = .ok stored) :
    (r.accepted stored).Stands app (s.serve (.replaceStatus r.written)).2 :=
  ⟨h.about.accepted stored, h.inStep.accepted hserve, h.wellFormed.serve _⟩

theorem Report.Stands.save (h : r.Stands app s) (hsave : r.save.Gives s r' t) :
    r'.Stands app t ∧ r'.status = r.status ∧ r'.app.content.status = some r'.status ∧
      s.SameOutside [] t := by
  obtain ⟨stored, hserve, rfl, rfl⟩ := Report.save_gives hsave
  exact ⟨h.accepted hserve, rfl, rfl, .serve_status s _⟩

theorem Pass.step_leaves (step : Step) {object : Object step.kind} (happ : app.Independent)
    (h : (Pass.step now step.dependent r).Gives s (object, r') t) (hr : r.Stands app s) :
    step.Rests t app object ∧ r'.Stands app t ∧
      r'.status =
        StatusUpdate.applyAll r.status (step.dependent.recorded object.metadata.anyName).toList ∧
      s.SameOutside [step.place app] t := by
  obtain ⟨converged, u, hconverge, rfl, hsave⟩ := Pass.step_gives h
  have hkind : Kind.app ∉ [Kind.secret, step.kind] := by cases step <;> simp
  have htable := hconverge.table (step.converge_asks (by simp) (by simp) r.app) hkind
  have hwell := hconverge.wellFormed hr.wellFormed
  obtain ⟨version, status, habout⟩ := hr.about
  rw [habout, step.converge_under] at hconverge
  have hrests := Step.converge_rests hconverge hr.wellFormed happ.name happ.uid happ.refs
  have houtside := Step.converge_outside hconverge hr.wellFormed
  have happlied : (r.apply (step.dependent.recorded converged.object.metadata.anyName).toList).Stands
      app u := ⟨hr.about, hr.inStep.of_table htable, hwell⟩
  obtain ⟨hstands, hstatus, -, hsaved⟩ := happlied.save hsave
  refine ⟨hrests.elsewhere hsaved (by simp) (by simp), hstands, hstatus, ?_⟩
  exact houtside.trans hsaved

theorem Store.Prepared.elsewhere {places : List (Kind × ObjectKey)} {status status' : App.Status}
    (h : s.Prepared app status) (hsame : s.SameOutside places t)
    (hplaces : ∀ place ∈ places, place.1 ≠ .secret ∧ place.1 ≠ .claim)
    (hnames : status.SameNames status') : t.Prepared app status' := by
  obtain ⟨secret, password, config, claim, hsecret, hpassword, hconfig, hclaim, hrecorded⟩ := h
  obtain ⟨hsecretName, hconfigName, hclaimName⟩ := hnames
  have hrefs : ∀ ref ∈ app.secretRefs, (Kind.secret, ⟨app.space, ref.name⟩) ∉ places :=
    fun ref _ hplace => (hplaces _ hplace).1 rfl
  refine ⟨secret, password, config, claim, fun fresh => ?_, hpassword, ?_, ?_, ?_⟩
  · exact (hsecret fresh).elsewhere hsame (fun hplace => (hplaces _ hplace).1 rfl) hrefs
  · exact hconfig.elsewhere hsame (fun hplace => (hplaces _ hplace).1 rfl) hrefs
  · exact hclaim.elsewhere hsame (fun hplace => (hplaces _ hplace).2 rfl) hrefs
  · rw [hsecretName, hconfigName, hclaimName]
    exact hrecorded

theorem App.Independent.adminSecretName_ne (h : app.Independent) :
    app.adminSecretName ≠ app.configSecretName := by
  intro hsame
  unfold App.adminSecretName at hsame
  cases huser : app.userAdminSecretName? with
  | none =>
    rw [huser, Option.getD_none, App.configSecretName] at hsame
    have hlength := congrArg String.length hsame
    rw [String.length_append, String.length_append, Nat.add_left_cancel_iff] at hlength
    exact absurd hlength (by decide)
  | some name =>
    rw [huser, Option.getD_some] at hsame
    apply h.admin
    rw [huser, hsame]

theorem Report.ended_names (r : Report) (now : Timestamp) (outcome : Outcome) :
    (StatusUpdate.applyAll r.status outcome.updates).SameNames
      (r.ended now .initJob outcome).status := by
  unfold Report.ended Report.moved
  cases outcome.failure <;> cases outcome.report <;> exact ⟨rfl, rfl, rfl⟩

namespace Pass

theorem prepare_leaves (happ : app.Independent) (h : (prepare now fresh app).Gives s r t)
    (hget : s.objects.get? .app app.key = some app) (hs : s.WellFormed) :
    t.Prepared app r.status ∧ r.Stands app t ∧ t.refusals = s.refusals := by
  obtain ⟨secret, r₁, s₁, password, config, r₂, s₂, claim, h₁, hpassword, h₂, h₃⟩ := prepare_gives h
  obtain ⟨hsecret, hr₁, hstatus₁, hsame₁⟩ :=
    step_leaves (.adminSecret fresh) happ h₁ ⟨.start, Report.inStep_start hget, hs⟩
  obtain ⟨hconfig, hr₂, hstatus₂, hsame₂⟩ := step_leaves (.configSecret password) happ h₂ hr₁
  obtain ⟨hclaim, hr₃, hstatus₃, hsame₃⟩ := step_leaves .filestore happ h₃ hr₂
  have hlater := hsame₂.trans hsame₃
  refine ⟨⟨secret, password, config, claim, fun fresh' => ?_, hpassword, ?_, hclaim, ?_, ?_, ?_⟩,
    hr₃, ?_⟩
  · -- The config secret has another name, and nothing refers to it.
    refine (hsecret.elsewhere hlater ?_ fun ref href => ?_).refresh
    · simp [Step.place, Step.dependent, Dependent.place, Dependent.adminSecret,
        Dependent.configSecret, happ.adminSecretName_ne]
    · simp [Step.place, Step.dependent, Dependent.place, Dependent.configSecret,
        happ.refs ref href]
  · refine hconfig.elsewhere hsame₃ ?_ fun ref _ => ?_
    · simp [Step.place]
    · simp [Step.place]
  · rw [hstatus₃, hstatus₂, hstatus₁]
    rfl
  · rw [hstatus₃, hstatus₂]
    rfl
  · rw [hstatus₃]
    rfl
  · exact (hsame₁.trans hlater).1

theorem sameOutside_onJobs {α : Type} {x : Program α} {log : List Event} {a : α}
    (h : x.Executes Eq s log a t) (hlog : ∀ e ∈ log, e.request.OnJobs) : s.SameOutside [] t := by
  refine ⟨h.refusals.2, fun k key hk _ => ?_⟩
  have htable : t.objects.table k = s.objects.table k := by
    refine (h.table fun e he hchanges => ?_).2
    have hjobs := hlog e he
    rw [Request.OnJobs, Request.kind_of_changes? hchanges] at hjobs
    rcases hjobs with rfl | rfl <;> simp at hk
  rw [Objects.get?, htable]
  rfl

theorem jobStep_leaves (h : (jobStep settings now r).Gives s (none, r') t) (hr : r.Stands app s) :
    r'.Stands app t ∧ s.SameOutside [] t ∧ r.status.SameNames r'.status ∧
      r'.status.initJob.isIdle = true ∧
      needsInit r'.status.installed app.content.spec.modules = false := by
  obtain ⟨log, hexecutes⟩ := h.executes
  obtain ⟨tracked, outcome, u, _, htrack, rfl, -, rfl, hconcludes⟩ :=
    jobStep_parts _ _ _ hexecutes
  obtain ⟨hfailure, hrequeue, stored, hserve, hr'⟩ := hconcludes _ rfl
  simp only at hrequeue hr'
  subst hr'
  have hasked := (htrack.asked (InitJob.track_asks ..)).1
  have htable := (htrack.table fun e he => (hasked e he).changes?_ne_app).2
  have hsame := (sameOutside_onJobs htrack hasked).trans
    (.serve_status u (r.ended now .initJob outcome).written)
  have hended : (r.ended now .initJob outcome).Stands app u := by
    have hwell := htrack.wellFormed_alone hr.wellFormed
    refine ⟨?_, ?_, hwell⟩
    · unfold Report.About
      rw [Report.ended_app]
      exact hr.about
    · unfold Report.InStep
      rw [Report.ended_app]
      exact hr.inStep.of_table htable
  have hprogress : (r.ended now .initJob outcome).status.progress =
      (StatusUpdate.applyAll r.status outcome.updates).progress := Report.ended_progress
  refine ⟨hended.accepted hserve, hsame, ?_⟩
  -- The moves other than `idle` leave something to wait for.
  cases InitJob.track_meets _ _ _ _ htrack with
  | idle updates installed record settled =>
    have hneeds := settled hrequeue.symm hfailure
    have hidle := congrArg Progress.initJob hprogress
    have hinstalled := congrArg Progress.installed hprogress
    refine ⟨?_, ?_, ?_⟩
    · have hnames := Report.ended_names r now outcome
      rcases updates with hupdates | hupdates <;> rw [hupdates] at hnames <;> exact hnames
    · exact (congrArg JobRecord.isIdle hidle).trans record
    · rw [hr.about.spec, ← installed] at hneeds
      rw [← hneeds]
      exact congrArg (needsInit · _) hinstalled
  | started updated installs requeue => simp [← hrequeue] at requeue
  | waiting updates reads unfinished => simp [← hrequeue, hfailure] at unfinished
  | succeeded e rest job record first found phase updates unfinished =>
    simp [← hrequeue, hfailure] at unfinished

theorem workload_leaves {requeue out : Option Nat} (happ : app.Independent)
    (h : (workload now requeue r).Gives s out t) (hr : r.Stands app s) :
    ∃ r' : Report, r'.Stands app t ∧ r'.app.content.status = some r'.status ∧ t.Working app ∧
      s.SameOutside [Step.deployment.place app, (Step.service .http).place app,
        (Step.service .poll).place app] t ∧
      r'.status.progress = r.status.progress ∧ r.status.SameNames r'.status ∧
      ∀ now', r'.succeed now' = r' := by
  unfold workload at h
  obtain ⟨⟨deployment, r₁⟩, s₁, h₁, h⟩ := Attempt.gives_bind.mp h
  obtain ⟨hdeployment, hr₁, hstatus₁, hsame₁⟩ := step_leaves .deployment happ h₁ hr
  obtain ⟨⟨http, r₂⟩, s₂, h₂, h⟩ := Attempt.gives_bind.mp h
  obtain ⟨hhttp, hr₂, hstatus₂, hsame₂⟩ := step_leaves (.service .http) happ h₂ hr₁
  obtain ⟨⟨poll, r₃⟩, s₃, h₃, h⟩ := Attempt.gives_bind.mp h
  obtain ⟨hpoll, hr₃, hstatus₃, hsame₃⟩ := step_leaves (.service .poll) happ h₃ hr₂
  obtain ⟨r₄, u, hsave, h⟩ := Attempt.gives_bind.mp h
  obtain ⟨-, rfl⟩ := Attempt.gives_pure.mp h
  obtain ⟨stored, hserve, rfl, rfl⟩ := Report.save_gives hsave
  have hsaved : s₃.SameOutside [] (s₃.serve (.replaceStatus (r₃.succeed now).written)).2 :=
    .serve_status s₃ _
  have hsucceed : (r₃.succeed now).Stands app s₃ := ⟨hr₃.about, hr₃.inStep, hr₃.wellFormed⟩
  have hstatus : r₃.status = r.status := by
    rw [hstatus₃, hstatus₂, hstatus₁]
    rfl
  refine ⟨_, hsucceed.accepted hserve, rfl, ⟨⟨deployment, ?_⟩, ?_⟩, ?_, ?_, ?_, ?_⟩
  · refine hdeployment.elsewhere (hsame₂.trans (hsame₃.trans hsaved)) ?_ fun ref _ => ?_
    · simp [Step.place]
    · simp [Step.place]
  · intro part
    cases part with
    | http =>
      refine ⟨http, hhttp.elsewhere (hsame₃.trans hsaved) ?_ fun ref _ => ?_⟩
      · simp [Step.place, Step.dependent, Dependent.place, Dependent.service,
          App.httpServiceName, App.pollServiceName]
      · simp [Step.place]
    | poll => exact ⟨poll, hpoll.elsewhere hsaved (by simp) (by simp)⟩
  · exact hsame₁.trans (hsame₂.trans (hsame₃.trans hsaved))
  · rw [Report.accepted_status, Report.succeed_progress, hstatus]
  · rw [← hstatus]
    exact ⟨rfl, rfl, rfl⟩
  · intro now'
    exact Report.succeed_succeed now'

theorem workload_out {requeue out : Option Nat} (h : (workload now requeue r).Gives s out t) :
    requeue = out := by
  unfold workload at h
  obtain ⟨_, _, -, h⟩ := Attempt.gives_bind.mp h
  obtain ⟨_, _, -, h⟩ := Attempt.gives_bind.mp h
  obtain ⟨_, _, -, h⟩ := Attempt.gives_bind.mp h
  obtain ⟨_, _, -, h⟩ := Attempt.gives_bind.mp h
  exact (Attempt.gives_pure.mp h).1

/-- The first status that a pass writes is refused when the app bears the name of another one. -/
theorem converge_key {out : Option Nat} {key : ObjectKey}
    (h : (converge settings now fresh app).Gives s out t) (hget : s.objects.get? .app key = some app)
    (hs : s.WellFormed) : app.key = key := by
  rw [converge_eq] at h
  obtain ⟨r, s₁, hprepare, -⟩ := Attempt.gives_bind.mp h
  obtain ⟨_, _, _, _, _, _, _, _, hstep, -⟩ := prepare_gives hprepare
  obtain ⟨converged, v, hconverge, -, hsave⟩ := step_gives hstep
  obtain ⟨stored, hserve, -, -⟩ := Report.save_gives hsave
  obtain ⟨old, hold, hstale, -⟩ := Store.serve_status_ok hserve
  have hasks : ((Step.adminSecret fresh).dependent.converge app).Asks
      (Request.Among [.secret]) fun _ => True := Step.converge_asks _ (by simp) (by simp) app
  have htable : v.objects.table .app = s.objects.table .app := hconverge.table hasks (by simp)
  have hlive : v.objects.get? .app key = some app := by
    rw [Objects.get?, htable]
    exact hget
  rw [Report.written_key] at hold
  exact (hconverge.wellFormed hs).accepted_key hlive hold rfl hstale

/-- A pass that need not be repeated leaves a steady store. -/
theorem converge_steady (happ : app.Independent) (h : (converge settings now fresh app).Gives s none t)
    (hget : s.objects.get? .app app.key = some app) (hs : s.WellFormed) (hgranted : s.refusals = []) :
    ∃ r : Report, r.About app ∧ r.Steady t := by
  rw [converge_eq] at h
  obtain ⟨r₁, s₁, hprepare, h⟩ := Attempt.gives_bind.mp h
  obtain ⟨hprepared, hr₁, hrefusals⟩ := prepare_leaves happ hprepare hget hs
  obtain ⟨⟨requeue, r₂⟩, s₂, hjob, h⟩ := Attempt.gives_bind.mp h
  -- Only a pass that has nothing to wait for ends like this, so it goes on to the workload.
  have hworkload : (workload now requeue r₂).Gives s₂ none t := by
    simp only at h
    split at h
    · rename_i hwaits
      obtain ⟨rfl, -⟩ := Attempt.gives_pure.mp h
      cases hwaits
    · exact h
  obtain rfl := workload_out hworkload
  obtain ⟨hr₂, hjobs, hnames₂, hidle, hsettled⟩ := jobStep_leaves hjob hr₁
  obtain ⟨r, hr, hstatus, hworking, hserved, hprogress, hnames, hsucceeded⟩ :=
    workload_leaves happ hworkload hr₂
  have hprepared₂ := hprepared.elsewhere hjobs (by simp) hnames₂
  have hprepared₃ := hprepared₂.elsewhere hserved (by simp [Step.place]) hnames
  obtain ⟨version, status, habout⟩ := hr.about
  refine ⟨r, hr.about, ?_, ⟨hr.inStep, hstatus⟩, ?_, ?_, ?_, ?_, hsucceeded⟩
  · rw [hserved.1, hjobs.1, hrefusals, hgranted]
  · rw [habout]
    exact hprepared₃.under
  · exact (congrArg (fun p => p.initJob.isIdle) hprogress).trans hidle
  · rw [hr.about.spec]
    have hinstalled := congrArg Progress.installed hprogress
    exact (congrArg (needsInit · _) hinstalled).trans hsettled
  · rw [habout]
    exact hworking.under

end Pass

end Reach

/-! ## Repeating a pass -/

/-- A pass that need not be repeated is idle when it is repeated. -/
theorem reconcile_again {settings : PassSettings} {now : Timestamp} {fresh ns name : String}
    {s t : Store} {app : App} (hs : s.WellFormed) (hgranted : s.refusals = [])
    (hget : s.objects.get? .app ⟨ns, name⟩ = some app) (hname : app.metadata.name.isSome)
    (hrefs : ∀ ref ∈ app.secretRefs, ref.name ≠ app.configSecretName)
    (hadmin : app.userAdminSecretName? ≠ some app.configSecretName)
    (hfirst : (reconcile settings now fresh ns name).run.run s = (.ok none, t))
    (settings' : PassSettings) (now' : Timestamp) (fresh' : String) :
    ∃ calls, (∀ call ∈ calls, call.verb.isWrite = false) ∧
      (reconcile settings' now' fresh' ns name).run.run t =
        (.ok none, { t with calls := t.calls ++ calls }) := by
  have happ : app.Independent := ⟨hname, (hs.fits _ _ _ hget).uid, hrefs, hadmin⟩
  obtain ⟨found, u, hread, hconverge⟩ := Attempt.gives_bind.mp hfirst
  obtain ⟨hfound, rfl⟩ := Attempt.gives_request hread
  rw [Store.serve_get_granted (Store.not_refuses hgranted _), hget] at hfound hconverge
  cases hfound
  -- The app is stored under its own name, or its status could not have been written.
  have hread := hs.recording (.get .app ns name)
  have hkey := Pass.converge_key hconverge hget hread
  rw [← hkey] at hget
  obtain ⟨r, hr, hsteady⟩ := Pass.converge_steady happ hconverge hget hread hgranted
  obtain ⟨v, hagain, calls, hcalls, hv⟩ :=
    hsteady.reconcile_idles settings' now' fresh' (hr.key.trans hkey) t (.refl t)
  exact ⟨calls, hcalls, hv ▸ hagain⟩

theorem reconcile_again_sample : ∃ calls, (∀ call ∈ calls, call.verb.isWrite = false) ∧
    (reconcile {} (.ofUnix 180) "another" Sample.key.ns Sample.key.name).run.run
        Sample.serving.stop =
      (.ok none, { Sample.serving.stop with calls := Sample.serving.stop.calls ++ calls }) := by
  obtain ⟨result, hpass⟩ : Sample.serving.Passes Sample.key := Round.passes_play ..
  have hfirst := hpass.run_eq
  have hnone : result = .ok none := by
    have hplayed : ((reconcile Sample.serving.settings Sample.serving.now Sample.serving.fresh
        Sample.key.ns Sample.key.name).run.run Sample.serving.start).1.toOption = some none := by
      decide +kernel
    rw [hfirst] at hplayed
    cases result with
    | error failure => cases hplayed
    | ok requeue => exact congrArg Except.ok (Option.some.inj hplayed)
  have hsample : Sample.serving.start.refusals = [] ∧
      (Sample.serving.start.objects.get? .app Sample.key).any fun app : App =>
        app.metadata.name.isSome ∧ (∀ ref ∈ app.secretRefs, ref.name ≠ app.configSecretName) ∧
          app.userAdminSecretName? ≠ some app.configSecretName := by decide +kernel
  obtain ⟨hgranted, hsample⟩ := hsample
  obtain ⟨app, hget, happ⟩ := (Option.any_eq_true ..).mp hsample
  obtain ⟨hname, hrefs, hadmin⟩ := of_decide_eq_true happ
  rw [hnone] at hfirst
  exact reconcile_again Sample.serving_wellFormed hgranted hget hname hrefs hadmin hfirst _ _ _

end OdooKeeper
