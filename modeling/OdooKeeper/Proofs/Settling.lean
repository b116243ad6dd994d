import OdooKeeper.Proofs.Installed
import OdooKeeper.Proofs.SteadyState

/-! # How soon an app is settled

When every job has ended well by the next pass, each pass that asks to be repeated brings the app
nearer to its end. A measure of what is left to do bounds the passes. -/

namespace OdooKeeper

/-! ## Jobs -/

namespace Store

variable {s t : Store}

def hasJob (s : Store) (key : ObjectKey) : Bool := (s.objects.get? .job key).isSome

def JobsDone (s : Store) : Prop :=
  ∀ key, ∀ job : Job, s.objects.get? .job key = some job → job.phase = .succeeded

theorem hasJob_congr (s t : Store) (h : s = t) : t.hasJob = s.hasJob := by rw [h]

theorem hasJob_of_table (h : t.objects.table .job = s.objects.table .job) :
    t.hasJob = s.hasJob := by
  funext key
  unfold hasJob Objects.get?
  rw [h]

theorem hasJob_serve (s : Store) {r : Request} (hr : r.changes? ≠ some .job) :
    (s.serve r).2.hasJob = s.hasJob :=
  hasJob_of_table (s.serve_table hr)

theorem hasJob_delete (s : Store) {ns name : String} {done : Unit}
    (h : (s.serve (.delete .job ns name)).1 = .ok done) (key : ObjectKey) :
    (s.serve (.delete .job ns name)).2.hasJob key = (key ≠ ⟨ns, name⟩ && s.hasJob key) := by
  rw [hasJob, serve_delete_ok h, Objects.get?_erase_self]
  by_cases hkey : key = ⟨ns, name⟩ <;> simp [hkey, hasJob]

theorem JobsDone.of_table (hs : s.JobsDone) (h : t.objects.table .job = s.objects.table .job) :
    t.JobsDone := by
  intro key job hjob
  rw [Objects.get?, h] at hjob
  exact hs key job hjob

end Store

theorem Program.Executes.spares_jobs {α : Type} {others : Store → Store → Prop} {x : Program α}
    {s t : Store} {log : List Event} {a : α} (h : x.Executes others s log a t)
    (hothers : ∀ s s', others s s' → s'.hasJob = s.hasJob)
    (hlog : ∀ e ∈ log, e.request.changes? ≠ some .job) : t.hasJob = s.hasJob :=
  (h.keeps (fun r => r.changes? ≠ some .job) (fun u => u.hasJob = s.hasJob) hlog
    (fun _ _ hu hs => (hothers _ _ hu).trans hs) (fun u _ hr hs => (u.hasJob_serve hr).trans hs)
    rfl).2

namespace InitJob

variable {s t : Store} {app : App} {status : App.Status} {poll : Nat}

/-! ## Removing -/

section Jobs

variable {others : Store → Store → Prop} {ns name : String}
  (hothers : ∀ s s', others s s' → s'.hasJob = s.hasJob)
include hothers

theorem remove_jobs : (remove ns name).run.Meets others s fun _ result t => match result with
    | .ok _ => ∀ key, t.hasJob key = (key ≠ ⟨ns, name⟩ && s.hasJob key)
    | .error _ => t.hasJob = s.hasJob := by
  intro log result t h
  have hlisting : (Attempt.request .initJobPod .list name
      (Program.list .pod ns ("job-name=" ++ name))).Asks (fun r => r.changes? ≠ some .job)
      fun _ => True :=
    Attempt.asks_request (r := .list .pod ns ("job-name=" ++ name)) (by simp [Request.changes?])
      fun _ => trivial
  have hdeleting : ∀ pods : List Pod, (pods.forM fun pod : Pod =>
      Attempt.request .initJobPod .delete pod.metadata.anyName
        (Program.delete .pod ns pod.metadata.anyName)).Asks (fun r => r.changes? ≠ some .job)
      fun _ => True := fun pods =>
    Attempt.asks_forM fun pod _ => Attempt.asks_request
      (r := .delete .pod ns pod.metadata.anyName) (by simp [Request.changes?]) fun _ => trivial
  unfold remove at h
  rcases Attempt.executes_bind h with ⟨failure, hlist, rfl⟩ | ⟨log₁, rest, pods, u, rfl, hlist, h⟩
  · exact hlist.spares_jobs hothers (hlist.asked hlisting).1
  have hu := hlist.spares_jobs hothers (hlist.asked hlisting).1
  rcases Attempt.executes_bind h with ⟨failure, hfirst, rfl⟩ | ⟨log₂, log₃, _, v, rfl, hfirst, hlast⟩
  · exact (hfirst.spares_jobs hothers (hfirst.asked (hdeleting pods)).1).trans hu
  have hv := (hfirst.spares_jobs hothers (hfirst.asked (hdeleting pods)).1).trans hu
  obtain ⟨w, hw, -, rfl, rfl⟩ := Attempt.executes_request hlast
  rw [← hothers _ _ hw] at hv
  cases hanswer : (w.serve (.delete .job ns name)).1 with
  | error cause => exact (congrArg Store.hasJob (Store.serve_error hanswer)).trans hv
  | ok done => exact fun key => hv ▸ w.hasJob_delete hanswer key

theorem reusable_jobs (hthere : s.hasJob ⟨ns, name⟩ = true) (modules : List String) :
    (reusable ns name modules).run.Meets others s fun _ result t => match result with
      | .ok false => ∀ key, t.hasJob key = (key ≠ ⟨ns, name⟩ && s.hasJob key)
      | _ => t.hasJob = s.hasJob := by
  have hread : ∀ u, others s u → (u.recording (.get .job ns name)).hasJob = s.hasJob :=
    fun u hu => hothers s u hu
  refine reusable_cases (fun u _ hu => hread u hu) (fun u hu hgone => ?_)
    (fun u _ hu _ _ _ => hread u hu) fun u _ hu _ _ => ?_
  · rw [← hothers _ _ hu, Store.hasJob, hgone] at hthere
    cases hthere
  · rw [← hread u hu]
    refine (remove_jobs hothers).mono fun log result t h => ?_
    cases result with
    | ok done => exact h
    | error failure => exact h

end Jobs

theorem reusable_done {ns name : String} {modules : List String} (hdone : s.JobsDone) :
    (reusable ns name modules).run.Meets Eq s fun _ result _ => result ≠ .ok true := by
  refine reusable_cases (by simp) (by simp) ?_ fun u _ _ _ _ log result t _ => ?_
  · rintro u job rfl hstored hflight
    rw [Job.isInFlight, hdone _ job hstored] at hflight
    cases hflight
  · cases result <;> simp [Except.map]

theorem advance_done {ns : String} {record : JobRecord} {job : Job}
    (hphase : job.phase = .succeeded) :
    (advance poll ns record job).Meets Eq s fun _ outcome t => outcome.failure = none →
      outcome.updates = [.initJobSucceeded] ∧
        ∀ key, t.hasJob key = (key ≠ ⟨ns, record.name⟩ && s.hasJob key) := by
  refine advance_cases (by simp [hphase]) fun report updates hended => ?_
  obtain ⟨-, rfl⟩ | ⟨hfailed, -⟩ := hended
  · refine (remove_jobs Store.hasJob_congr).mono fun log removed t h hfailure => ?_
    cases removed with
    | ok done => exact ⟨rfl, h⟩
    | error failure => cases hfailure
  · rw [hphase] at hfailed
    cases hfailed

/-! ## Turns -/

/-- No job is recorded, or the one that is recorded is not there. -/
def Unrecorded (app : App) (record : JobRecord) (jobs : ObjectKey → Bool) : Prop :=
  record.isIdle = true ∨ jobs (recordedKey app record) = false

/-- What a run comes to that another one is to follow: where there were jobs, all of which have
succeeded, the progress that is made, and where jobs are left. -/
inductive Turn (app : App) (status : App.Status) (jobs : ObjectKey → Bool) (p : Progress)
    (left : ObjectKey → Bool) : Prop where
  | collected (record : status.initJob.isIdle = false)
      (found : jobs (recordedKey app status.initJob) = true)
      (progress : p = ⟨status.initJob.modules, {}⟩)
      (left_eq : ∀ key, left key = (key ≠ recordedKey app status.initJob && jobs key))
  | started (unrecorded : Unrecorded app status.initJob jobs)
      (needed : needsInit status.installed app.content.spec.modules = true)
      (progress : p = ⟨status.installed, app.initJobRecord⟩)
      (left_eq : ∀ key, left key = (key = app.initJobKey || jobs key))
  | cleared (unrecorded : Unrecorded app status.initJob jobs)
      (needed : needsInit status.installed app.content.spec.modules = true)
      (taken : jobs app.initJobKey = true) (installed : p.installed = status.installed)
      (idle : p.initJob.isIdle = true)
      (left_eq : ∀ key, left key = (key ≠ app.initJobKey && jobs key))

theorem started_progress {updates : List StatusUpdate}
    (h : (StatusUpdate.applyAll status updates).installed = status.installed) :
    (StatusUpdate.applyAll status (started poll app updates).updates).progress =
      ⟨status.installed, app.initJobRecord⟩ := by
  unfold started StatusUpdate.applyAll
  rw [List.foldl_append]
  exact congrArg (Progress.mk · app.initJobRecord) h

theorem startIfNeeded_turn {updates : List StatusUpdate} (hdone : s.JobsDone)
    (hunrecorded : Unrecorded app status.initJob s.hasJob)
    (hinstalled : (StatusUpdate.applyAll status updates).installed = status.installed)
    (hidle : (StatusUpdate.applyAll status updates).initJob.isIdle = true) :
    (startIfNeeded poll app status.installed updates).Meets Eq s fun _ outcome t =>
      outcome.failure = none → outcome.requeue.isSome → Turn app status s.hasJob
        (StatusUpdate.applyAll status outcome.updates).progress t.hasJob := by
  refine startIfNeeded_cases (fun _ _ hrequeue => by cases hrequeue)
    (fun _ u _ _ hfailure => by cases hfailure) ?_ ?_
  · rintro hneeded u job rfl - - hstored - -
    refine .started hunrecorded hneeded (started_progress hinstalled) fun key => ?_
    rw [Store.hasJob, hstored]
    by_cases hkey : key = app.initJobKey <;> simp [hkey, Store.hasJob]
  · -- What is in the way has ended, so it makes room for a new one.
    rintro hneeded u rfl htaken log result t hreusable
    have hdone' : (s.recording app.initJobRequest).JobsDone := hdone
    have htaken' : (s.recording app.initJobRequest).hasJob app.initJobKey = true := htaken
    have hreused := reusable_done hdone' _ _ _ hreusable
    have hleft := reusable_jobs Store.hasJob_congr htaken' _ _ _ _ hreusable
    cases result with
    | error failure => exact fun hfailure => by cases hfailure
    | ok reused =>
      cases reused with
      | true => exact absurd rfl hreused
      | false =>
        exact fun report _ _ => .cleared hunrecorded hneeded htaken hinstalled hidle hleft

theorem track_turn (hdone : s.JobsDone) :
    (track poll app status).Meets Eq s fun _ outcome t =>
      outcome.failure = none → outcome.requeue.isSome → Turn app status s.hasJob
        (StatusUpdate.applyAll status outcome.updates).progress t.hasJob := by
  cases hrecord : status.initJob.isIdle with
  | true =>
    rw [track_unrecorded hrecord]
    exact startIfNeeded_turn hdone (.inl hrecord) rfl hrecord
  | false =>
    refine track_recorded hrecord (fun _ _ _ _ hfailure => by cases hfailure)
      (fun e hbefore hreads hgone => ?_) fun e job hbefore hfound => ?_
    · have hmissing : s.hasJob (recordedKey app status.initJob) = false := by
        rw [Store.hasJob, hbefore, hgone]
        rfl
      rw [Event.after, ← hbefore, Store.serve_reading s hreads]
      exact startIfNeeded_turn (s := s.recording _) hdone (.inr hmissing) rfl rfl
    · have hstored := hfound.stored
      rw [← hbefore] at hstored
      have hthere : s.hasJob (recordedKey app status.initJob) = true := by
        rw [Store.hasJob, hstored]
        rfl
      rw [Event.after, ← hbefore, Store.serve_reading s hfound.reads]
      refine (advance_done (hdone _ job hstored)).mono fun log outcome t h hfailure _ => ?_
      obtain ⟨hupdates, hleft⟩ := h hfailure
      rw [hupdates]
      exact .collected hrecord hthere rfl hleft

end InitJob

/-! ## What is left to do -/

/-- The passes that are left when no job is recorded, if it is known which modules are installed and
whether a job is in the way of a new one. -/
def startLeft (installed desired : List String) (taken : Bool) : Nat :=
  -- What is in the way is removed, a job is started, the job is collected, and one pass more.
  if needsInit installed desired then if taken then 4 else 3 else 1

/-- The passes that are left for an app with a progress, given where there are jobs. -/
def Progress.passesLeft (p : Progress) (app : App) (jobs : ObjectKey → Bool) : Nat :=
  let recorded := InitJob.recordedKey app p.initJob
  let modules := app.content.spec.modules
  if !p.initJob.isIdle && jobs recorded then
    1 + startLeft p.initJob.modules modules (app.initJobKey ≠ recorded && jobs app.initJobKey)
  else startLeft p.installed modules (jobs app.initJobKey)

section Left

variable {app app' : App} {installed desired : List String} {taken : Bool} {p : Progress}
  {jobs left : ObjectKey → Bool}

theorem startLeft_pos : 1 ≤ startLeft installed desired taken := by
  unfold startLeft
  split
  · split <;> omega
  · omega

theorem startLeft_le : startLeft installed desired taken ≤ 4 := by
  unfold startLeft
  split
  · split <;> omega
  · omega

theorem needsInit_self (modules : List String) : needsInit modules modules = false := by
  unfold needsInit
  cases modules <;> simp

theorem App.initJobRecord_isIdle (app : App) : app.initJobRecord.isIdle = false := by
  simp [JobRecord.isIdle, App.initJobRecord, App.initJobName]

namespace Progress

theorem passesLeft_pos : 1 ≤ p.passesLeft app jobs := by
  unfold passesLeft
  simp only
  split
  · omega
  · exact startLeft_pos

theorem passesLeft_le : p.passesLeft app jobs ≤ 5 := by
  unfold passesLeft
  simp only
  split
  · exact Nat.add_le_add_left startLeft_le 1
  · exact Nat.le_succ_of_le startLeft_le

theorem passesLeft_congr (hkey : app'.key = app.key)
    (hspec : app'.content.spec = app.content.spec) :
    p.passesLeft app' jobs = p.passesLeft app jobs := by
  have hown : app'.initJobKey = app.initJobKey := by
    rw [App.initJobKey_eq, App.initJobKey_eq, hkey]
  unfold passesLeft
  rw [InitJob.recordedKey_congr hkey, hspec, hown]

theorem passesLeft_of_unrecorded (h : InitJob.Unrecorded app p.initJob jobs) :
    p.passesLeft app jobs =
      startLeft p.installed app.content.spec.modules (jobs app.initJobKey) := by
  unfold passesLeft
  simp only
  rw [if_neg]
  rcases h with h | h <;> simp [h]

end Progress

/-- Every turn leaves less to do. -/
theorem InitJob.Turn.lowers {status : App.Status} (h : InitJob.Turn app status jobs p left) :
    p.passesLeft app left < status.progress.passesLeft app jobs := by
  cases h with
  | collected record found progress left_eq =>
    have hidle : Unrecorded app p.initJob left := by
      rw [progress]
      exact .inl rfl
    have hbefore : status.progress.passesLeft app jobs =
        1 + startLeft status.initJob.modules app.content.spec.modules (left app.initJobKey) := by
      rw [left_eq, Progress.passesLeft, if_pos]
      · rfl
      · simp [App.Status.progress, record, found]
    rw [hbefore, Progress.passesLeft_of_unrecorded hidle, progress, Nat.add_comm]
    exact Nat.lt_succ_self _
  | started unrecorded needed progress left_eq =>
    have hafter : p.passesLeft app left = 2 := by
      have hthere : left app.initJobKey = true := by simp [left_eq]
      unfold Progress.passesLeft
      simp only [progress, InitJob.recordedKey_initJobRecord, hthere, app.initJobRecord_isIdle,
        Bool.not_false, Bool.and_self, if_true, ne_eq, not_true_eq_false, decide_false,
        Bool.false_and]
      simp [App.initJobRecord, startLeft, needsInit_self]
    have hbefore := Progress.passesLeft_of_unrecorded (p := status.progress) unrecorded
    have hneeded : needsInit status.progress.installed app.content.spec.modules = true := needed
    rw [startLeft, if_pos hneeded] at hbefore
    rw [hafter, hbefore]
    split <;> omega
  | cleared unrecorded needed taken installed idle left_eq =>
    have hbefore := Progress.passesLeft_of_unrecorded (p := status.progress) unrecorded
    have hneeded : needsInit status.progress.installed app.content.spec.modules = true := needed
    have hgone : left app.initJobKey = false := by simp [left_eq]
    rw [hbefore, Progress.passesLeft_of_unrecorded (.inl idle), installed, startLeft, startLeft,
      if_pos needed, if_pos hneeded, hgone, taken]
    decide

end Left

/-! ## Passes -/

namespace Pass

variable {settings : PassSettings} {now : Timestamp} {fresh : String} {app : App} {r r' : Report}
  {spec : App.Spec} {p : Progress} {s t : Store} {delay : Nat}

theorem jobStep_lowers (hready : r.Ready s) (htells : r.Tells app p) (hs : s.Holds app.key spec p)
    (hdone : s.JobsDone) (h : (jobStep settings now r).Gives s (some delay, r') t) :
    ∃ p', t.Holds app.key spec p' ∧ r'.Tells app p' ∧
      p'.passesLeft app t.hasJob < p.passesLeft app s.hasJob := by
  obtain ⟨log, hexecutes⟩ := h.executes
  obtain ⟨tlog, outcome, u, sent, stored, htrack, rfl, rfl, hserve, hsent, hprogress, hu, hout⟩ :=
    jobStep_alone hready htells hs _ _ _ hexecutes
  obtain ⟨hfailure, hrequeue, htells'⟩ := hout _ rfl
  have hturn := InitJob.track_turn hdone _ _ _ htrack hfailure (by rw [← hrequeue]; rfl)
  rw [← hsent] at hu
  have hafter := (hu.serve_status hserve).1
  rw [hsent] at hafter
  refine ⟨sent.progress, hafter, htells', ?_⟩
  have hjobs : (u.serve (.replaceStatus sent)).2.hasJob = u.hasJob :=
    Store.hasJob_of_table (Store.serve_table u (by simp [Request.changes?]))
  have hlowers := hturn.lowers
  rw [← hprogress, htells.2, Progress.passesLeft_congr htells.1.key htells.1.spec,
    Progress.passesLeft_congr htells.1.key htells.1.spec] at hlowers
  rw [hjobs]
  exact hlowers

theorem converge_lowers (h : (converge settings now fresh app).Gives s (some delay) t)
    (hget : s.objects.get? .app app.key = some app) (hdone : s.JobsDone) :
    ∃ p, t.Holds app.key app.content.spec p ∧
      p.passesLeft app t.hasJob < app.progress.passesLeft app s.hasJob := by
  rw [converge_eq] at h
  obtain ⟨r, u, hprepare, h⟩ := Attempt.gives_bind.mp h
  obtain ⟨⟨requeue, r'⟩, v, hjob, h⟩ := Attempt.gives_bind.mp h
  obtain ⟨plog, hprepared⟩ := hprepare.executes
  obtain ⟨hquiet, htells⟩ := hprepared.asked (prepare_quiet now fresh app)
  obtain ⟨-, hu, hjobs⟩ := hprepared.quiet hquiet ⟨app, hget, rfl, rfl, rfl⟩ (by simp) (by simp)
  have hrest : (afterwards settings now (.ok (requeue, r'))).Gives v (some delay) t := h
  -- Whether it waits for the job or not, it gives what the tracker has asked for.
  obtain rfl : requeue = some delay := by
    simp only at h
    split at h
    · exact (Attempt.gives_pure.mp h).1
    · exact workload_out h
  obtain ⟨p, hv, htells', hlowers⟩ := jobStep_lowers (prepare_ready hprepare hget) (htells r rfl) hu
    (hdone.of_table hjobs) hjob
  obtain ⟨wlog, hrest⟩ := hrest.executes
  have hworkload := (hrest.asked (afterwards_quiet fun out ho => by cases ho; exact htells')).1
  obtain ⟨-, ht, hwjobs⟩ := hrest.quiet hworkload hv (by simp) (by simp)
  refine ⟨p, ht, ?_⟩
  rw [Store.hasJob_of_table hwjobs, ← Store.hasJob_of_table hjobs]
  exact hlowers

end Pass

def Store.passesLeft (s : Store) (key : ObjectKey) : Nat :=
  match s.objects.get? .app key with
  | some (app : App) => app.progress.passesLeft app s.hasJob
  | none => 1

namespace Store

variable {s t : Store} {key : ObjectKey} {app : App} {p : Progress}

theorem passesLeft_pos : 1 ≤ s.passesLeft key := by
  unfold passesLeft
  split
  · exact Progress.passesLeft_pos
  · exact Nat.le_refl 1

theorem passesLeft_le : s.passesLeft key ≤ 5 := by
  unfold passesLeft
  split
  · exact Progress.passesLeft_le
  · decide

theorem Holds.passesLeft (h : s.Holds app.key app.content.spec p) :
    s.passesLeft app.key = p.passesLeft app s.hasJob := by
  obtain ⟨app', hget, hkey, hspec, rfl⟩ := h
  unfold Store.passesLeft
  rw [hget]
  exact Progress.passesLeft_congr hkey hspec

theorem passesLeft_of_tables (happ : t.objects.table .app = s.objects.table .app)
    (hjobs : t.hasJob = s.hasJob) : t.passesLeft key = s.passesLeft key := by
  unfold passesLeft Objects.get?
  rw [happ, hjobs]

end Store

theorem reconcile_lowers {settings : PassSettings} {now : Timestamp} {fresh : String}
    {key : ObjectKey} {s t : Store} {delay : Nat} (hs : s.WellFormed) (hdone : s.JobsDone)
    (h : (reconcile settings now fresh key.ns key.name).Gives s (some delay) t) :
    t.passesLeft key < s.passesLeft key := by
  unfold reconcile at h
  obtain ⟨found, u, hread, h⟩ := Attempt.gives_bind.mp h
  obtain ⟨hfound, rfl⟩ := Attempt.gives_request hread
  have hget := Store.serve_get_ok hfound
  rw [Store.serve_reading s rfl] at h
  cases found with
  | none => cases (Attempt.gives_pure.mp h).1
  | some app =>
    obtain rfl : App.key app = key := Pass.converge_key h hget (hs.recording _)
    obtain ⟨p, ht, hlowers⟩ := Pass.converge_lowers h hget hdone
    have hholds : s.Holds (App.key app) app.content.spec (App.progress app) :=
      ⟨app, hget, rfl, rfl, rfl⟩
    rw [ht.passesLeft, hholds.passesLeft]
    exact hlowers

/-! ## Runs -/

/-- The status of the job counts one pod that has succeeded. -/
def Job.Finished (job : Job) : Prop :=
  ∃ status, job.content.status = some status ∧ status.succeeded = some 1

/-- All jobs are made to succeed. None comes or goes, and no other objects change. -/
structure Store.FinishesJobs (s s' : Store) : Prop where
  wellFormed : s.WellFormed → s'.WellFormed
  others : ∀ k ≠ Kind.job, s'.objects.table k = s.objects.table k
  jobs : s'.hasJob = s.hasJob
  finished : ∀ key, ∀ job : Job, s'.objects.get? .job key = some job → job.Finished

def Round.result (round : Round) (key : ObjectKey) : Except Failure (Option Nat) :=
  ((reconcile round.settings round.now round.fresh key.ns key.name).run.run round.start).1

section Finish

variable {s : Store} {keys : List ObjectKey}

def Store.finishAt (s : Store) (keys : List ObjectKey) : Store :=
  keys.foldl (fun s key => s.modify .job key.ns key.name Sample.finish) s

def Store.finishJobs (s : Store) : Store := s.finishAt (s.objects.table .job).keys

theorem Store.hasJob_modify (ns name : String) (change : Job → Job) :
    (s.modify .job ns name change).hasJob = s.hasJob := by
  funext key
  unfold hasJob
  rw [get?_modify]
  split
  · exact Option.isSome_map
  · rfl

theorem Store.finishAt_keeps (s : Store) (keys : List ObjectKey) :
    (s.WellFormed → (s.finishAt keys).WellFormed) ∧ (s.finishAt keys).hasJob = s.hasJob ∧
      ∀ k ≠ Kind.job, (s.finishAt keys).objects.table k = s.objects.table k := by
  induction keys generalizing s with
  | nil => exact ⟨id, rfl, fun _ _ => rfl⟩
  | cons key rest ih =>
    obtain ⟨hwell, hjobs, htables⟩ := ih (s.modify .job key.ns key.name Sample.finish)
    refine ⟨fun hs => hwell (hs.modify ..), hjobs.trans (hasJob_modify ..), fun k hk => ?_⟩
    exact (htables k hk).trans (modify_table hk ..)

theorem Store.finishAt_finishes {key : ObjectKey} {job : Job}
    (h : (s.finishAt keys).objects.get? .job key = some job) :
    job.Finished ∨ key ∉ keys ∧ s.objects.get? .job key = some job := by
  induction keys generalizing s with
  | nil => exact .inr ⟨by simp, h⟩
  | cons first rest ih =>
    rcases ih h with hfinished | ⟨hrest, hjob⟩
    · exact .inl hfinished
    rw [get?_modify] at hjob
    split at hjob
    · obtain ⟨old, -, rfl⟩ := Option.map_eq_some_iff.mp hjob
      exact .inl ⟨_, rfl, rfl⟩
    · rename_i hkey
      exact .inr ⟨by simpa using ⟨hkey, hrest⟩, hjob⟩

theorem Store.finishesJobs_finishJobs (s : Store) : s.FinishesJobs s.finishJobs := by
  obtain ⟨hwell, hjobs, htables⟩ := s.finishAt_keeps (s.objects.table .job).keys
  refine ⟨hwell, htables, hjobs, fun key job hjob => ?_⟩
  rcases finishAt_finishes hjob with hfinished | ⟨hnot, hbefore⟩
  · exact hfinished
  · refine absurd (OrdMap.mem_keys.mpr ?_) hnot
    exact Option.isSome_of_eq_some hbefore

end Finish

section Run

variable {key : ObjectKey} {first s s' : Store} {round : Round} {rounds : List Round}

theorem Store.FinishesJobs.done (h : s.FinishesJobs s') : s'.JobsDone := by
  intro key job hjob
  obtain ⟨status, hstatus, hsucceeded⟩ := h.finished key job hjob
  unfold Job.phase
  simp [hstatus, hsucceeded]

theorem Round.Passes.gives {out : Option Nat} (h : round.Passes key)
    (hresult : round.result key = .ok out) :
    (reconcile round.settings round.now round.fresh key.ns key.name).Gives round.start out
      round.stop := by
  obtain ⟨result, hpass⟩ := h
  have hrun := hpass.run_eq
  rw [Round.result, hrun] at hresult
  rw [Attempt.Gives, hrun]
  exact congrArg (Prod.mk · round.stop) hresult

/-- Every pass that has to be repeated is paid for by what is left to do. -/
theorem Run.passesLeft_add_length_le (hfirst : first.WellFormed)
    (h : Run Store.FinishesJobs key first rounds s)
    (hrepeat : ∀ round ∈ rounds, ∃ delay, round.result key = .ok (some delay)) :
    s.WellFormed ∧ s.passesLeft key + rounds.length ≤ 5 := by
  induction h with
  | nil => exact ⟨hfirst, Store.passesLeft_le⟩
  | @snoc rounds s round before others pass ih =>
    obtain ⟨hs, hleft⟩ := ih fun earlier hearlier =>
      hrepeat earlier (List.mem_append_left _ hearlier)
    obtain ⟨delay, hdelay⟩ := hrepeat round (by simp)
    have hstart := others.wellFormed hs
    have hlowers := reconcile_lowers hstart others.done (pass.gives hdelay)
    rw [Store.passesLeft_of_tables (others.others .app (by simp)) others.jobs] at hlowers
    refine ⟨pass.wellFormed hstart, ?_⟩
    rw [List.length_append, List.length_singleton]
    omega

/-- If all jobs have succeeded before each of five passes, one of the passes fails or is the last
one that is needed. -/
theorem settles_within_five_passes (hfirst : first.WellFormed)
    (h : Run Store.FinishesJobs key first rounds s) (hfive : rounds.length = 5) :
    ∃ round ∈ rounds,
      (∃ failure, round.result key = .error failure) ∨ round.result key = .ok none := by
  refine Classical.byContradiction fun hnever => ?_
  have hrepeat : ∀ round ∈ rounds, ∃ delay, round.result key = .ok (some delay) := by
    intro round hround
    cases hresult : round.result key with
    | error failure => exact absurd ⟨round, hround, .inl ⟨failure, hresult⟩⟩ hnever
    | ok out =>
      cases out with
      | none => exact absurd ⟨round, hround, .inr hresult⟩ hnever
      | some delay => exact ⟨delay, rfl⟩
  have hleft := (h.passesLeft_add_length_le hfirst hrepeat).2
  have hpos : 1 ≤ s.passesLeft key := Store.passesLeft_pos
  omega

end Run

namespace Sample

/-- The sample store when the status records another job than the one that is needed, and both jobs
are there. -/
def crowded : Store :=
  ((store.modify .app key.ns key.name fun app : App =>
    { app with content := { app.content with status := some {
      initJob := { name := "old-init", ns := key.ns, modules := ["sale", "stock"] } } } }).insert
    (⟨{ name := some "old-init", ns := some key.ns }, {}⟩ : Job)).insert
    (⟨{ name := some "shop-init", ns := some key.ns }, {}⟩ : Job)

/-- A number of passes from there on, each after all jobs have succeeded, and the store they
leave. -/
def settling : Nat → List Round × Store
  | 0 => ([], crowded)
  | n + 1 =>
    let round : Round := .play {} (.ofUnix 0) "fresh" key (settling n).2.finishJobs
    ((settling n).1 ++ [round], round.stop)

theorem run_settling (n : Nat) :
    Run Store.FinishesJobs key crowded (settling n).1 (settling n).2 := by
  induction n with
  | zero => exact .nil
  | succ n ih => exact .snoc ih (Store.finishesJobs_finishJobs _) (Round.passes_play ..)

theorem crowded_wellFormed : crowded.WellFormed :=
  ((((Store.wellFormed_empty.insert _).insert _).modify ..).insert _).insert _

end Sample

/-- From that store on, all five passes are needed: the recorded job is collected, the other job is
removed, a new one is started and collected, and the last pass has nothing to wait for. -/
theorem settles_within_five_passes_sample :
    (Sample.settling 5).1.map (fun round => (round.result Sample.key).toOption) =
        [some (some 30), some (some 30), some (some 30), some (some 30), some none] ∧
      ∃ round ∈ (Sample.settling 5).1,
        (∃ failure, round.result Sample.key = .error failure) ∨
          round.result Sample.key = .ok none :=
  ⟨by decide +kernel,
    settles_within_five_passes Sample.crowded_wellFormed (Sample.run_settling 5) rfl⟩

end OdooKeeper
