import OdooKeeper.Proofs.Halting
import OdooKeeper.Proofs.Interruption
import OdooKeeper.Proofs.Settling

/-! # Init jobs that are left

A pass with nothing more to do leaves no init job, unless an earlier pass has lost sight of it: the
store has refused to remove it when the status told already that it has ended, or the store has
refused to record it and the app does not ask for its modules any more. -/

namespace OdooKeeper

/-! ## Among others -/

/-- Others may change the store in any way, but the app with a key keeps its progress, and no job comes
or goes. -/
structure Store.Spared (key : ObjectKey) (s s' : Store) : Prop where
  progress : ∀ p, s.Knows key p → s'.Knows key p
  jobs : s'.hasJob = s.hasJob

theorem Store.Spared.refl (key : ObjectKey) (s : Store) : Store.Spared key s s := ⟨fun _ => id, rfl⟩

section Spared

variable {α : Type} {x : Program α} {key : ObjectKey} {s s' t : Store} {log : List Event} {a : α}
  {p : Progress}

theorem Program.Executes.spared_knows {allowed : Request → Prop}
    (h : x.Executes (Store.Spared key) s log a t) (hlog : ∀ e ∈ log, allowed e.request)
    (hserve : ∀ (u : Store) spec r, allowed r → u.Holds key spec p → (u.serve r).2.Holds key spec p)
    (hs : s.Knows key p) : t.Knows key p := by
  refine (h.keeps allowed (Store.Knows · key p) hlog (fun _ _ hspared hs => hspared.progress p hs) ?_
    hs).2
  rintro u r hr ⟨spec, hu⟩
  exact ⟨spec, hserve u spec r hr hu⟩

theorem Program.Executes.spared_quiet {kinds : List Kind}
    (h : x.Executes (Store.Spared key) s log a t) (hlog : ∀ e ∈ log, e.request.Quiet kinds key p)
    (hs : s.Knows key p) (happ : Kind.app ∉ kinds) (hjob : Kind.job ∉ kinds) :
    t.Knows key p ∧ t.hasJob = s.hasJob := by
  refine ⟨h.spared_knows hlog (fun u spec r hr hu => hu.serve_quiet happ hr) hs,
    h.spares_jobs (fun _ _ hspared => hspared.jobs) fun e he => ?_⟩
  exact Request.changes?_of_kind (hlog e he).kind (by simp [hjob])

end Spared

/-! ## Removing a job -/

/-- The request is made to remove the job at a key: it looks for the pods of the job, or it deletes a
pod or the job. -/
inductive Request.Removes (job : ObjectKey) : Request → Prop where
  | pods : Removes job (.list .pod job.ns ("job-name=" ++ job.name))
  | pod (name : String) : Removes job (.delete .pod job.ns name)
  | job : Removes job (.delete .job job.ns job.name)

/-- The job at a key was to be removed, and the store has refused a part of that. -/
def RemovalFails (job : ObjectKey) (log : List Event) : Prop :=
  ∃ e ∈ log, e.request.Removes job ∧ e.Refused

theorem RemovalFails.mono {job : ObjectKey} {log log' : List Event} (h : RemovalFails job log)
    (hlog : log ⊆ log') : RemovalFails job log' := by
  obtain ⟨e, he, h⟩ := h
  exact ⟨e, hlog he, h⟩

namespace InitJob

variable {others : Store → Store → Prop} {s : Store} {ns name : String}

theorem remove_refused {log : List Event} {failure : Failure} {t : Store}
    (h : (remove ns name).run.Executes others s log (.error failure) t) : ∃ e ∈ log, e.Refused :=
  ((h.failed (remove_fails ns name) rfl).resolve_left id).2

theorem remove_removes (ns name : String) :
    (remove ns name).Asks (Request.Removes ⟨ns, name⟩) fun _ => True := by
  refine Attempt.asks_bind (Attempt.asks_request .pods fun pods => ?_)
  refine Attempt.asks_bind ((Attempt.asks_forM fun pod _ => ?_).mono fun _ _ => ?_)
  · exact Attempt.asks_request (.pod _) fun _ => trivial
  · exact Attempt.asks_request .job fun _ => trivial

/-! ## One run of the tracker -/

/-- What a run of the tracker leaves: the progress that it tells and where there are jobs, given the
progress and the jobs before. -/
inductive Leaves (app : App) (p : Progress) (jobs : ObjectKey → Bool) (log : List Event)
    (outcome : Outcome) (q : Progress) (left : ObjectKey → Bool) : Prop where
  | started (needed : needsInit p.installed app.content.spec.modules = true)
      (progress : q = ⟨p.installed, app.initJobRecord⟩) (requeue : outcome.requeue.isSome)
      (left_eq : ∀ key ≠ app.initJobKey, left key = jobs key)
  /-- No job comes or goes. A record goes only when the job is not there. -/
  | kept (installed : q.installed = p.installed)
      (record : q.initJob = p.initJob ∨ jobs (recordedKey app p.initJob) = false)
      (settled : outcome.requeue = none → outcome.failure = none →
        Unrecorded app p.initJob jobs ∧ needsInit p.installed app.content.spec.modules = false)
      (left_eq : left = jobs)
  | removed (key : ObjectKey) (there : jobs key = true)
      (left_eq : ∀ other, left other = (other ≠ key && jobs other))
  /-- The recorded job was to be removed and is still there. -/
  | stuck (there : jobs (recordedKey app p.initJob) = true)
      (fails : RemovalFails (recordedKey app p.initJob) log) (failure : outcome.failure.isSome)
      (left_eq : left = jobs)

theorem Leaves.congr {app app' : App} {p q : Progress} {jobs left : ObjectKey → Bool}
    {log : List Event} {outcome : Outcome} (h : Leaves app' p jobs log outcome q left)
    (hkey : app'.key = app.key) (hspec : app'.content.spec = app.content.spec) :
    Leaves app p jobs log outcome q left := by
  have hname : app'.initJobName = app.initJobName :=
    congrArg ObjectKey.name (initJobKey_congr hkey)
  have hspace : app'.space = app.space := congrArg ObjectKey.ns hkey
  have hrecord : app'.initJobRecord = app.initJobRecord := by
    unfold App.initJobRecord
    rw [hspec, hname, hspace]
  cases h with
  | started needed progress requeue left_eq =>
    exact .started (hspec ▸ needed) (hrecord ▸ progress) requeue (initJobKey_congr hkey ▸ left_eq)
  | kept installed record settled left_eq =>
    rw [recordedKey_congr hkey] at record
    unfold Unrecorded at settled
    rw [recordedKey_congr hkey, hspec] at settled
    exact .kept installed record settled left_eq
  | removed key there left_eq => exact .removed key there left_eq
  | stuck there fails failure left_eq =>
    rw [recordedKey_congr hkey] at there fails
    exact .stuck there fails failure left_eq

theorem Leaves.mono {app : App} {p q : Progress} {jobs left : ObjectKey → Bool}
    {log log' : List Event} {outcome : Outcome} (h : Leaves app p jobs log outcome q left)
    (hlog : log ⊆ log') : Leaves app p jobs log' outcome q left := by
  cases h with
  | started needed progress requeue left_eq => exact .started needed progress requeue left_eq
  | kept installed record settled left_eq => exact .kept installed record settled left_eq
  | removed key there left_eq => exact .removed key there left_eq
  | stuck there fails failure left_eq => exact .stuck there (fails.mono hlog) failure left_eq

section Jobs

variable {app : App} {status : App.Status} {poll : Nat}
  (hothers : ∀ s s', others s s' → s'.hasJob = s.hasJob)
include hothers

theorem remove_leaves : (remove ns name).run.Meets others s fun log result t => match result with
    | .ok _ => ∀ key, t.hasJob key = (key ≠ ⟨ns, name⟩ && s.hasJob key)
    | .error _ => t.hasJob = s.hasJob ∧ RemovalFails ⟨ns, name⟩ log := by
  intro log result t h
  have hjobs := remove_jobs hothers _ _ _ h
  cases result with
  | ok done => exact hjobs
  | error failure =>
    obtain ⟨e, he, hrefused⟩ := remove_refused h
    exact ⟨hjobs, e, he, (h.asked (remove_removes ns name)).1 e he, hrefused⟩

theorem startIfNeeded_leaves {updates : List StatusUpdate}
    (hunrecorded : Unrecorded app status.initJob s.hasJob)
    (hinstalled : (StatusUpdate.applyAll status updates).installed = status.installed)
    (hrecord : (StatusUpdate.applyAll status updates).initJob = status.initJob ∨
      s.hasJob (recordedKey app status.initJob) = false) :
    (startIfNeeded poll app status.installed updates).Meets others s fun log outcome t =>
      Leaves app status.progress s.hasJob log outcome
        (StatusUpdate.applyAll status outcome.updates).progress t.hasJob := by
  have hasked : ∀ u, others s u → (u.recording app.initJobRequest).hasJob = s.hasJob :=
    fun u hu => hothers s u hu
  refine startIfNeeded_cases
    (fun hneedless => .kept hinstalled hrecord (fun _ _ => ⟨hunrecorded, hneedless⟩) rfl)
    (fun _ u _ hu => .kept hinstalled hrecord (fun _ h => by cases h) (hasked u hu))
    (fun hneeded u job hu _ _ hstored =>
      .started hneeded (started_progress hinstalled) rfl fun key hkey => ?_)
    fun hneeded u hu htaken => ?_
  · rw [Store.hasJob, hstored, if_neg hkey]
    exact congrFun (hothers s u hu) key
  · have htaken' : (u.recording app.initJobRequest).hasJob app.initJobKey = true := htaken
    rw [← hasked u hu] at hrecord ⊢
    refine (reusable_jobs hothers htaken' app.content.spec.modules).mono fun log result t h => ?_
    cases result with
    | error failure => exact .kept hinstalled hrecord (fun _ h => by cases h) h
    | ok reused =>
      cases reused with
      | true =>
        exact .started hneeded (started_progress hinstalled) rfl fun key _ => congrFun h key
      | false => exact fun report => .removed app.initJobKey htaken' h

theorem advance_leaves {job : Job}
    (hthere : s.hasJob (recordedKey app status.initJob) = true) :
    (advance poll (recordedSpace app status.initJob) status.initJob job).Meets others s
      fun log outcome t => Leaves app status.progress s.hasJob log outcome
        (StatusUpdate.applyAll status outcome.updates).progress t.hasJob := by
  refine advance_cases (fun _ _ => .kept rfl (.inl rfl) (fun h => by cases h) rfl)
    fun report updates _ => (remove_leaves hothers).mono fun log removed t h => ?_
  cases removed with
  | ok done => exact .removed _ hthere h
  | error failure => exact .stuck hthere h.2 rfl h.1

theorem track_leaves : (track poll app status).Meets others s fun log outcome t =>
    Leaves app status.progress s.hasJob log outcome
      (StatusUpdate.applyAll status outcome.updates).progress t.hasJob := by
  cases hrecord : status.initJob.isIdle with
  | true =>
    rw [track_unrecorded hrecord]
    exact startIfNeeded_leaves hothers (.inl hrecord) rfl (.inl rfl)
  | false =>
    have hread : ∀ e : Event, others s e.store → e.request.changes? = none →
        e.after.hasJob = s.hasJob := fun e hbefore hreads =>
      (e.store.hasJob_serve (by simp [hreads])).trans (hothers _ _ hbefore)
    refine track_recorded hrecord (fun e failure hbefore hreads => ?_)
      (fun e hbefore hreads hgone => ?_) fun e job hbefore hfound => ?_
    · exact .kept rfl (.inl rfl) (fun _ h => by cases h) (hread e hbefore hreads)
    · have hmissing : s.hasJob (recordedKey app status.initJob) = false := by
        rw [← hothers _ _ hbefore, Store.hasJob, hgone]
        rfl
      rw [← hread e hbefore hreads] at hmissing ⊢
      refine (startIfNeeded_leaves hothers (.inr hmissing) rfl (.inr hmissing)).mono ?_
      exact fun log outcome t h => h.mono (List.subset_cons_self e log)
    · have hthere : s.hasJob (recordedKey app status.initJob) = true := by
        rw [← hothers _ _ hbefore, Store.hasJob, hfound.stored]
        rfl
      rw [← hread e hbefore hfound.reads] at hthere ⊢
      refine (advance_leaves hothers hthere).mono ?_
      exact fun log outcome t h => h.mono (List.subset_cons_self e log)

end Jobs

end InitJob

/-! ## One pass -/

/-- The record is of the job of the app with a key. -/
def JobRecord.Names (record : JobRecord) (key : ObjectKey) : Prop :=
  record.name = key.initJob.name ∧ (record.ns = "" ∨ record.ns = key.ns)

namespace JobRecord.Names

variable {record : JobRecord} {key : ObjectKey} {app : App}

theorem isIdle (h : record.Names key) : record.isIdle = false := by
  unfold JobRecord.isIdle
  rw [h.1]
  simp [ObjectKey.initJob]

theorem recordedKey (h : record.Names app.key) :
    InitJob.recordedKey app record = app.initJobKey := by
  have hspace : InitJob.recordedSpace app record = app.space := by
    unfold InitJob.recordedSpace
    split
    · rfl
    · rename_i hns
      exact h.2.resolve_left hns
  unfold InitJob.recordedKey
  rw [hspace, h.1]
  rfl

theorem of_recordedKey (h : InitJob.recordedKey app record = app.initJobKey) :
    record.Names app.key := by
  have hspace : InitJob.recordedSpace app record = app.space := congrArg ObjectKey.ns h
  refine ⟨congrArg ObjectKey.name h, ?_⟩
  unfold InitJob.recordedSpace at hspace
  split at hspace
  · exact .inl ‹_›
  · exact .inr hspace

theorem own (app : App) : app.initJobRecord.Names app.key := ⟨rfl, .inr rfl⟩

end JobRecord.Names

/-- The store has refused a status that tells of the app's job and the modules that it installs, and
has no record of the job. -/
def RecordLost (key : ObjectKey) (modules : List String) (log : List Event) : Prop :=
  ∃ e ∈ log, e.Refused ∧ ∃ sent : App, e.request = .replaceStatus sent ∧ sent.key = key ∧
    sent.progress.initJob = ⟨key.initJob.name, key.ns, modules⟩ ∧
    ∃ app : App, e.store.objects.get? .app key = some app ∧ ¬ app.progress.initJob.Names key

theorem RecordLost.mono {key : ObjectKey} {modules : List String} {log log' : List Event}
    (h : RecordLost key modules log) (hlog : log ⊆ log') : RecordLost key modules log' := by
  obtain ⟨e, he, h⟩ := h
  exact ⟨e, hlog he, h⟩

/-- The app is what the store has at a key when it gets the first of the requests. -/
def BeginsWith (key : ObjectKey) (app : App) (log : List Event) : Prop :=
  ∃ e rest, log = e :: rest ∧ e.store.objects.get? .app key = some app

namespace Pass

variable {settings : PassSettings} {now : Timestamp} {fresh : String} {app : App} {s t : Store}
  {log : List Event} {result : Except Failure (Option Nat)}

/-- What a pass over an app leaves: the progress that the store knows and where there are jobs, given
the jobs before. -/
inductive Leaves (app : App) (jobs : ObjectKey → Bool) (log : List Event)
    (result : Except Failure (Option Nat)) (t : Store) : Prop where
  /-- No job has come or gone. A record has gone only when the job was not there. -/
  | kept (q : Progress) (knows : t.Knows app.key q) (installed : q.installed = app.progress.installed)
      (record : q.initJob = app.progress.initJob ∨
        jobs (InitJob.recordedKey app app.progress.initJob) = false)
      (settled : result = .ok none → InitJob.Unrecorded app app.progress.initJob jobs ∧
        needsInit app.progress.installed app.content.spec.modules = false)
      (left_eq : t.hasJob = jobs)
  | recorded (q : Progress) (knows : t.Knows app.key q) (record : q.initJob.Names app.key)
      (unfinished : result ≠ .ok none) (left_eq : ∀ key ≠ app.initJobKey, t.hasJob key = jobs key)
  /-- The app's own job is in flight now, but not recorded. -/
  | lost (knows : t.Knows app.key app.progress)
      (needed : needsInit app.progress.installed app.content.spec.modules = true)
      (lost : RecordLost app.key app.content.spec.modules log)
      (unfinished : result ≠ .ok none) (left_eq : ∀ key ≠ app.initJobKey, t.hasJob key = jobs key)
  | removed (q : Progress) (knows : t.Knows app.key q) (key : ObjectKey) (there : jobs key = true)
      (left_eq : ∀ other, t.hasJob other = (other ≠ key && jobs other))
  | stuck (q : Progress) (knows : t.Knows app.key q)
      (there : jobs (InitJob.recordedKey app app.progress.initJob) = true)
      (fails : RemovalFails (InitJob.recordedKey app app.progress.initJob) log)
      (unfinished : result ≠ .ok none) (left_eq : t.hasJob = jobs)

theorem afterwards_ok {others : Store → Store → Prop}
    {moved : Except Failure (Option Nat × Report)} {requeue : Option Nat}
    (h : (afterwards settings now moved).run.Executes others s log (.ok requeue) t) :
    ∃ r, moved = .ok (requeue, r) := by
  cases moved with
  | error failure => cases h
  | ok out =>
    obtain ⟨delay, r⟩ := out
    refine ⟨r, ?_⟩
    simp only [afterwards] at h
    split at h
    · cases h
      rfl
    · unfold workload at h
      obtain ⟨_, _, _, _, -, -, h⟩ := Attempt.executes_bind_ok h
      obtain ⟨_, _, _, _, -, -, h⟩ := Attempt.executes_bind_ok h
      obtain ⟨_, _, _, _, -, -, h⟩ := Attempt.executes_bind_ok h
      obtain ⟨_, _, _, _, -, -, h⟩ := Attempt.executes_bind_ok h
      cases h
      rfl

/-- From the write of the status after the init job on, no job comes or goes. Either the store knows
what the tracker has told, or it has refused the write, and the pass has failed. -/
theorem afterwards_settles {r : Report} {outcome : Outcome} {x : Store} {p : Progress}
    {moved : Except Failure (Option Nat × Report)} (hr : r.Tells app p) (hx : x.Knows app.key p)
    (hconcludes : Concludes r now outcome x moved)
    (h : (afterwards settings now moved).run.Executes (Store.Spared app.key)
      (x.serve (.replaceStatus (r.ended now .initJob outcome).written)).2 log result t) :
    t.hasJob = x.hasJob ∧
      (t.Knows app.key (StatusUpdate.applyAll r.status outcome.updates).progress ∧
          (result = .ok none → outcome.requeue = none ∧ outcome.failure = none) ∨
        t.Knows app.key p ∧ result ≠ .ok none ∧
          (⟨x, .replaceStatus (r.ended now .initJob outcome).written⟩ : Event).Refused) := by
  obtain ⟨spec, hx⟩ := hx
  have hkey : (r.ended now .initJob outcome).written.key = app.key := by
    rw [Report.written_key, Report.ended_app, hr.1.key]
  have hprogress : (r.ended now .initJob outcome).written.progress =
      (StatusUpdate.applyAll r.status outcome.updates).progress := by
    rw [Report.written_progress, Report.ended_progress]
  cases hanswer : (x.serve (.replaceStatus (r.ended now .initJob outcome).written)).1 with
  | ok stored =>
    have hafter := (hkey ▸ hx : x.Holds (r.ended now .initJob outcome).written.key spec p).serve_status
      hanswer
    rw [hkey, hprogress] at hafter
    have hquiet := (h.asked (afterwards_quiet (hconcludes.tells hr))).1
    obtain ⟨ht, hjobs⟩ := h.spared_quiet hquiet ⟨spec, hafter.1⟩ (by simp) (by simp)
    refine ⟨hjobs.trans (x.hasJob_serve (by simp [Request.changes?])), .inl ⟨ht, ?_⟩⟩
    rintro rfl
    obtain ⟨r', hmoved⟩ := afterwards_ok h
    obtain ⟨hfailure, hrequeue, -⟩ := hconcludes _ hmoved
    exact ⟨hrequeue.symm, hfailure⟩
  | error cause =>
    rw [Store.serve_error hanswer] at h
    cases moved with
    | ok out =>
      obtain ⟨-, -, stored, hstored, -⟩ := hconcludes out rfl
      rw [hanswer] at hstored
      cases hstored
    | error failure =>
      cases h
      exact ⟨rfl, .inr ⟨⟨spec, hx⟩, by simp, cause, hanswer⟩⟩

theorem recordLost_of_refused {r : Report} {outcome : Outcome} {x : Store} {p : Progress}
    {installed : List String} (hr : r.Tells app p) (hx : x.Knows app.key p)
    (hnames : ¬ p.initJob.Names app.key)
    (hstarted : (StatusUpdate.applyAll r.status outcome.updates).progress =
      ⟨installed, app.initJobRecord⟩)
    (hrefused : (⟨x, .replaceStatus (r.ended now .initJob outcome).written⟩ : Event).Refused) :
    RecordLost app.key app.content.spec.modules
      [⟨x, .replaceStatus (r.ended now .initJob outcome).written⟩] := by
  obtain ⟨spec, known, hknown, -, -, rfl⟩ := hx
  refine ⟨_, List.mem_singleton_self _, hrefused, _, rfl, ?_, ?_, known, hknown, hnames⟩
  · rw [Report.written_key, Report.ended_app, hr.1.key]
  · rw [Report.written_progress, Report.ended_progress, hstarted]
    rfl

section Told

variable {jobs : ObjectKey → Bool} {tracked : List Event} {outcome : Outcome} {q : Progress}
  (hlog : tracked ⊆ log)

include hlog

theorem leaves_told (h : InitJob.Leaves app app.progress jobs tracked outcome q t.hasJob)
    (ht : t.Knows app.key q)
    (hok : result = .ok none → outcome.requeue = none ∧ outcome.failure = none) :
    Leaves app jobs log result t := by
  cases h with
  | started needed progress requeue left_eq =>
    refine .recorded _ ht (progress ▸ .own app) (fun hdone => ?_) left_eq
    rw [(hok hdone).1] at requeue
    cases requeue
  | kept installed record settled left_eq =>
    exact .kept _ ht installed record (fun hdone => settled (hok hdone).1 (hok hdone).2) left_eq
  | removed key there left_eq => exact .removed _ ht key there left_eq
  | stuck there fails failure left_eq =>
    refine .stuck _ ht there (fails.mono hlog) (fun hdone => ?_) left_eq
    rw [(hok hdone).2] at failure
    cases failure

theorem leaves_untold (h : InitJob.Leaves app app.progress jobs tracked outcome q t.hasJob)
    (ht : t.Knows app.key app.progress) (hfails : result ≠ .ok none)
    (hlost : ¬ app.progress.initJob.Names app.key →
      q = ⟨app.progress.installed, app.initJobRecord⟩ →
      RecordLost app.key app.content.spec.modules log) : Leaves app jobs log result t := by
  cases h with
  | started needed progress requeue left_eq =>
    by_cases hnames : app.progress.initJob.Names app.key
    · exact .recorded _ ht hnames hfails left_eq
    · exact .lost ht needed (hlost hnames progress) hfails left_eq
  | kept installed record settled left_eq =>
    exact .kept _ ht rfl (.inl rfl) (fun hdone => absurd hdone hfails) left_eq
  | removed key there left_eq => exact .removed _ ht key there left_eq
  | stuck there fails failure left_eq =>
    exact .stuck _ ht there (fails.mono hlog) hfails left_eq

end Told

theorem course_leaves (h : Course (Store.Spared app.key) settings now fresh app s log result t)
    (hs : s.Knows app.key app.progress) : Leaves app s.hasJob log result t := by
  cases h with
  | unprepared hprepare =>
    have hquiet := (hprepare.asked (prepare_quiet now fresh app)).1
    obtain ⟨ht, hjobs⟩ := hprepare.spared_quiet hquiet hs (by simp) (by simp)
    exact .kept _ ht rfl (.inl rfl) (fun hok => by cases hok) hjobs
  | @prepared r plog jlog wlog u v _ moved _ hprepare hjob hrest =>
    obtain ⟨hquiet, htells⟩ := hprepare.asked (prepare_quiet now fresh app)
    obtain ⟨hu, hujobs⟩ := hprepare.spared_quiet hquiet hs (by simp) (by simp)
    have hr := htells r rfl
    obtain ⟨tracked, outcome, x₀, x, htrack, hx, rfl, rfl, hconcludes⟩ := jobStep_parts _ _ _ hjob
    have hleaves := (InitJob.track_leaves (fun _ _ hspared => hspared.jobs) _ _ _ htrack).congr
      hr.1.key hr.1.spec
    have hx₀ : x₀.Knows app.key app.progress :=
      htrack.spared_knows (htrack.asked (InitJob.track_asks ..)).1
        (fun _ _ _ hjobs hu => hu.serve_other hjobs.changes?_ne_app) hu
    obtain ⟨hjobs, hends⟩ := afterwards_settles hr (hx.progress _ hx₀) hconcludes hrest
    rw [hx.jobs] at hjobs
    rw [hr.2, hujobs, ← hjobs] at hleaves
    have hlog : tracked ⊆ plog ++ (tracked ++
        [⟨x, .replaceStatus (r.ended now .initJob outcome).written⟩] ++ wlog) := by
      intro e he
      simp [he]
    rcases hends with ⟨ht, hok⟩ | ⟨ht, hfails, hrefused⟩
    · exact leaves_told hlog hleaves ht hok
    · refine leaves_untold hlog hleaves ht hfails fun hnames hprogress => ?_
      exact (recordLost_of_refused hr (hx.progress _ hx₀) hnames hprogress hrefused).mono (by simp)

theorem Leaves.mono {jobs : ObjectKey → Bool} {log' : List Event}
    (h : Leaves app jobs log result t) (hlog : log ⊆ log') : Leaves app jobs log' result t := by
  cases h with
  | kept q knows installed record settled left_eq =>
    exact .kept q knows installed record settled left_eq
  | recorded q knows record unfinished left_eq =>
    exact .recorded q knows record unfinished left_eq
  | lost knows needed lost unfinished left_eq =>
    exact .lost knows needed (lost.mono hlog) unfinished left_eq
  | removed q knows key there left_eq => exact .removed q knows key there left_eq
  | stuck q knows there fails unfinished left_eq =>
    exact .stuck q knows there (fails.mono hlog) unfinished left_eq

theorem reconcile_leaves {key : ObjectKey} {p : Progress}
    (h : (reconcile settings now fresh key.ns key.name).run.Executes (Store.Spared key) s log result
      t)
    (hs : s.Knows key p) :
    ∃ app : App, app.key = key ∧ app.progress = p ∧ BeginsWith key app log ∧
      Leaves app s.hasJob log result t := by
  obtain ⟨u, rest, hu, rfl, hloads⟩ := reconcile_loads h
  have hread : (u.recording (.get .app key.ns key.name)).hasJob = s.hasJob := hu.jobs
  obtain ⟨spec, app, happ, hkey, hspec, hp⟩ := hu.progress p hs
  have hknows : (u.recording (.get .app key.ns key.name)).Knows key p :=
    ⟨spec, app, happ, hkey, hspec, hp⟩
  refine ⟨app, hkey, hp, ⟨_, _, rfl, happ⟩, ?_⟩
  rw [← hread]
  subst hkey hp
  rcases hloads with ⟨rfl, rfl, -, hok⟩ | ⟨found, hfound, hcourse⟩
  · refine .kept _ hknows rfl (.inl rfl) (fun hdone => ?_) rfl
    rw [hdone] at hok
    rw [show u.objects.get? .app _ = none from (hok _ rfl).2] at happ
    cases happ
  · obtain rfl : app = found := Option.some.inj (happ.symm.trans hfound)
    exact (course_leaves (converge_course hcourse) hknows).mono (List.subset_cons_self _ _)

end Pass

/-! ## Runs among others -/

/-- The round is a pass over the app with a key that comes to a result. Others may come in before
each of its requests. -/
def Round.Ends (others : Store → Store → Prop) (key : ObjectKey) (round : Round)
    (result : Except Failure (Option Nat)) : Prop :=
  (reconcile round.settings round.now round.fresh key.ns key.name).run.Executes others round.start
    round.log result round.stop

theorem Round.ends_play {others : Store → Store → Prop} (hrefl : ∀ s, others s s)
    (settings : PassSettings) (now : Timestamp) (fresh : String) (key : ObjectKey) (start : Store) :
    (play settings now fresh key start).Ends others key
      ((reconcile settings now fresh key.ns key.name).run.play [] start).2.1 :=
  Program.executes_play hrefl [] (by simp) _ start

/-- The runs from a store on in which others may come in at any time: the rounds so far and the store
they leave. -/
inductive SharedRun (others : Store → Store → Prop) (key : ObjectKey) (first : Store) :
    List Round → Store → Prop where
  | nil : SharedRun others key first [] first
  | snoc {rounds : List Round} {s : Store} {round : Round}
      {result : Except Failure (Option Nat)} (before : SharedRun others key first rounds s)
      (between : others s round.start) (pass : round.Ends others key result) :
      SharedRun others key first (rounds ++ [round]) round.stop

/-- One of the rounds is of a kind, and the app's job has been there after it and after each round
since. -/
def LeftSince (key : ObjectKey) (kind : Round → Prop) (rounds : List Round) : Prop :=
  ∃ before round after, rounds = before ++ round :: after ∧ kind round ∧
    ∀ later ∈ round :: after, later.stop.hasJob key.initJob = true

section LeftSince

variable {key : ObjectKey} {kind kind' : Round → Prop} {rounds : List Round} {round : Round}

theorem LeftSince.mono (h : LeftSince key kind rounds) (himp : ∀ round, kind round → kind' round) :
    LeftSince key kind' rounds := by
  obtain ⟨before, round, after, hrounds, hkind, hthere⟩ := h
  exact ⟨before, round, after, hrounds, himp round hkind, hthere⟩

theorem LeftSince.now (h : kind round) (hthere : round.stop.hasJob key.initJob = true) :
    LeftSince key kind (rounds ++ [round]) :=
  ⟨rounds, round, [], rfl, h, List.forall_mem_singleton.mpr hthere⟩

theorem LeftSince.snoc (h : LeftSince key kind rounds)
    (hthere : round.stop.hasJob key.initJob = true) : LeftSince key kind (rounds ++ [round]) := by
  obtain ⟨before, first, after, rfl, hkind, hstays⟩ := h
  refine ⟨before, first, after ++ [round], by simp, hkind, ?_⟩
  rw [← List.cons_append]
  exact List.forall_mem_append.mpr ⟨hstays, List.forall_mem_singleton.mpr hthere⟩

end LeftSince

/-- The round was to remove the app's job, which was recorded, and has not. -/
def Round.FailsRemoval (key : ObjectKey) (round : Round) : Prop :=
  (∃ app, BeginsWith key app round.log ∧ app.progress.initJob.Names key) ∧
    RemovalFails key.initJob round.log

/-- The round was to record that the app's job installs modules and has not. -/
def Round.LosesRecord (key : ObjectKey) (modules : List String) (round : Round) : Prop :=
  RecordLost key modules round.log

/-- Why the app's job is there after some rounds: it is recorded, it was to be removed, or it has not
been recorded and is still needed. -/
def Explained (key : ObjectKey) (rounds : List Round) (p : Progress) : Prop :=
  p.initJob.Names key ∨ LeftSince key (Round.FailsRemoval key) rounds ∨
    ∃ modules, needsInit p.installed modules = true ∧
      LeftSince key (Round.LosesRecord key modules) rounds

/-- What holds after every round: no job is there but the app's own, and that has an explanation. -/
structure Accounted (key : ObjectKey) (rounds : List Round) (s : Store) : Prop where
  alone : ∀ other ≠ key.initJob, s.hasJob other = false
  own : ∃ p, s.Knows key p ∧ (s.hasJob key.initJob = true → Explained key rounds p)

namespace Accounted

variable {key : ObjectKey} {rounds : List Round} {s s' : Store} {round : Round}
  {result : Except Failure (Option Nat)}

theorem self (h : Accounted key rounds s) {other : ObjectKey} (hthere : s.hasJob other = true) :
    other = key.initJob := by
  refine Classical.byContradiction fun hne => ?_
  rw [h.alone other hne] at hthere
  cases hthere

theorem start (happ : ∃ app : App, s.objects.get? .app key = some app ∧ app.key = key)
    (hjobs : ∀ other, s.objects.get? .job other = none) : Accounted key [] s := by
  have hnone : ∀ other, s.hasJob other = false := by
    intro other
    rw [Store.hasJob, hjobs]
    rfl
  obtain ⟨app, happ, hkey⟩ := happ
  refine ⟨fun other _ => hnone other, app.progress, ⟨_, app, happ, hkey, rfl, rfl⟩, fun hthere => ?_⟩
  rw [hnone] at hthere
  cases hthere

theorem spared (h : Accounted key rounds s) (hs' : Store.Spared key s s') :
    Accounted key rounds s' := by
  obtain ⟨halone, p, hknows, hown⟩ := h
  exact ⟨hs'.jobs ▸ halone, p, hs'.progress p hknows, hs'.jobs ▸ hown⟩

theorem pass (h : Accounted key rounds round.start)
    (hpass : round.Ends (Store.Spared key) key result) :
    Accounted key (rounds ++ [round]) round.stop := by
  have hself : ∀ {other}, round.start.hasJob other = true → other = key.initJob := h.self
  obtain ⟨halone, p, hknows, hown⟩ := h
  obtain ⟨app, rfl, rfl, hbegins, hleaves⟩ := Pass.reconcile_leaves hpass hknows
  cases hleaves with
  | kept q knows installed record settled left_eq =>
    refine ⟨left_eq ▸ halone, q, knows, fun hthere => ?_⟩
    rcases hown (left_eq ▸ hthere) with hnames | hfails | ⟨modules, hneeded, hlost⟩
    · rw [hnames.recordedKey, ← left_eq, App.initJobKey_eq, hthere] at record
      exact .inl (record.resolve_right (by simp) ▸ hnames)
    · exact .inr (.inl (hfails.snoc hthere))
    · exact .inr (.inr ⟨modules, installed ▸ hneeded, hlost.snoc hthere⟩)
  | recorded q knows record unfinished left_eq =>
    refine ⟨fun other hne => ?_, q, knows, fun _ => .inl record⟩
    exact (left_eq other hne).trans (halone other hne)
  | lost knows needed lost unfinished left_eq =>
    refine ⟨fun other hne => (left_eq other hne).trans (halone other hne), _, knows, fun hthere => ?_⟩
    exact .inr (.inr ⟨_, needed, .now lost hthere⟩)
  | removed q knows gone there left_eq =>
    refine ⟨fun other hne => ?_, q, knows, fun hthere => ?_⟩
    · rw [left_eq, halone other hne, Bool.and_false]
    · rw [left_eq, hself there] at hthere
      simp at hthere
  | stuck q knows there fails unfinished left_eq =>
    refine ⟨left_eq ▸ halone, q, knows, fun hthere => .inr (.inl (.now ?_ hthere))⟩
    have hown := hself there
    rw [hown] at fails
    exact ⟨⟨app, hbegins, .of_recordedKey hown⟩, fails⟩

theorem run {first : Store}
    (h : SharedRun (Store.Spared key) key first rounds s)
    (hfirst : Accounted key [] first) : Accounted key rounds s := by
  induction h with
  | nil => exact hfirst
  | snoc before between run ih => exact (ih.spared between).pass run

end Accounted

/-! ## The job that is left -/

/-- When a pass ends with neither a failure nor a delay, the app has no init job, unless an earlier
pass has left it because the store refused to remove it or to record it. -/
theorem job_left_only_by_refusal {key : ObjectKey} {first s : Store} {rounds : List Round}
    {round : Round} (happ : ∃ app : App, first.objects.get? .app key = some app ∧ app.key = key)
    (hjobs : ∀ other, first.objects.get? .job other = none)
    (hrun : SharedRun (Store.Spared key) key first rounds s) (hbetween : Store.Spared key s round.start)
    (hpass : round.Ends (Store.Spared key) key (.ok none)) :
    round.stop.objects.get? .job key.initJob = none ∨
      LeftSince key (fun leak => leak.FailsRemoval key ∨ ∃ modules, leak.LosesRecord key modules ∧
        ∃ app, BeginsWith key app round.log ∧ app.content.spec.modules ≠ modules) rounds := by
  have haccount := (Accounted.run hrun (.start happ hjobs)).spared hbetween
  obtain ⟨p, hknows, hown⟩ := haccount.own
  obtain ⟨app, rfl, rfl, hbegins, hleaves⟩ := Pass.reconcile_leaves hpass hknows
  cases hleaves with
  | kept q knows installed record settled left_eq =>
    obtain ⟨hunrecorded, hneedless⟩ := settled rfl
    cases hthere : round.start.hasJob app.key.initJob with
    | false =>
      rw [← left_eq] at hthere
      exact .inl (by simpa [Store.hasJob] using hthere)
    | true =>
      right
      rcases hown hthere with hnames | hfails | ⟨modules, hneeded, hlost⟩
      · -- A job that is recorded and there makes the pass wait or remove it.
        rcases hunrecorded with hidle | hgone
        · rw [hnames.isIdle] at hidle
          cases hidle
        · rw [hnames.recordedKey, App.initJobKey_eq, hthere] at hgone
          cases hgone
      · exact hfails.mono fun _ => .inl
      · refine hlost.mono fun leak hleak => .inr ⟨modules, hleak, app, hbegins, fun hsame => ?_⟩
        rw [hsame, hneeded] at hneedless
        cases hneedless
  | recorded q knows record unfinished left_eq => exact absurd rfl unfinished
  | lost knows needed lost unfinished left_eq => exact absurd rfl unfinished
  | removed q knows gone there left_eq =>
    have hgone := left_eq app.key.initJob
    rw [haccount.self there] at hgone
    exact .inl (by simpa [Store.hasJob] using hgone)
  | stuck q knows there fails unfinished left_eq => exact absurd rfl unfinished

/-! ## Jobs that are left -/

namespace Store.FinishesJobs

variable {s s' : Store}

theorem refuse (h : s.FinishesJobs s') (verb : Verb) (kind : Kind) :
    s.FinishesJobs (s'.refuse verb kind) :=
  ⟨fun hs => ⟨(h.wellFormed hs).fits, (h.wellFormed hs).distinct⟩, h.others, h.jobs, h.finished⟩

theorem heal (h : s.FinishesJobs s') : s.FinishesJobs s'.heal :=
  ⟨fun hs => ⟨(h.wellFormed hs).fits, (h.wellFormed hs).distinct⟩, h.others, h.jobs, h.finished⟩

end Store.FinishesJobs

namespace Sample

/-- The first pass on the sample store, when the store takes no status any more once the job has been
created. -/
def unrecorded : Round :=
  let played := (reconcile {} (.ofUnix 0) "fresh" key.ns key.name).run.play
    (List.replicate 12 id ++ [fun s => s.refuse .replaceStatus .app]) store
  { settings := {}
    now := .ofUnix 0
    fresh := "fresh"
    start := store
    log := played.1
    stop := played.2.2 }

def withoutModules (app : App) : App :=
  { app with content := { app.content with spec := { app.content.spec with modules := [] } } }

/-- The next pass, when the store takes statuses again and the app asks for no modules any more. -/
def forgetting : Round :=
  .play {} (.ofUnix 60) "fresh" key (unrecorded.stop.heal.modify .app key.ns key.name withoutModules)

theorem run_unrecorded : SharedRun (Store.Spared key) key store [unrecorded] unrecorded.stop := by
  refine .snoc .nil (.refl key store) (Program.executes_play (.refl key) _ ?_ _ _)
  intro change hchange s
  rcases List.mem_append.mp hchange with hid | hrefuse
  · rw [List.eq_of_mem_replicate hid]
    exact .refl key s
  · rw [List.mem_singleton.mp hrefuse]
    exact ⟨fun _ => id, rfl⟩

theorem forgetting_spared : Store.Spared key unrecorded.stop forgetting.start := by
  refine ⟨fun p hknows => ?_, Store.hasJob_of_table (Store.modify_table (by simp) ..)⟩
  have hheal : unrecorded.stop.heal.Knows key p := hknows
  exact hheal.touched (.again .none ⟨fun _ => rfl, fun _ => rfl, fun _ => rfl⟩)

theorem forgetting_ends : forgetting.Ends (Store.Spared key) key (.ok none) := by
  have hresult : ((reconcile {} (.ofUnix 60) "fresh" key.ns key.name).run.play []
      (unrecorded.stop.heal.modify .app key.ns key.name withoutModules)).2.1.toOption = some none := by
    decide +kernel
  have hends := Round.ends_play (Store.Spared.refl key) {} (.ofUnix 60) "fresh" key
    (unrecorded.stop.heal.modify .app key.ns key.name withoutModules)
  rwa [Except.eq_ok_of_toOption hresult] at hends

end Sample

theorem job_left_only_by_refusal_sample :
    (Sample.forgetting.stop.objects.get? .job Sample.key.initJob).isSome ∧
      LeftSince Sample.key (fun leak => leak.FailsRemoval Sample.key ∨ ∃ modules,
        leak.LosesRecord Sample.key modules ∧ ∃ app, BeginsWith Sample.key app Sample.forgetting.log ∧
          app.content.spec.modules ≠ modules) [Sample.unrecorded] := by
  have hthere : (Sample.forgetting.stop.objects.get? .job Sample.key.initJob).isSome := by
    decide +kernel
  have happ : ∃ app : App, Sample.store.objects.get? .app Sample.key = some app ∧
      app.key = Sample.key := ⟨_, rfl, rfl⟩
  refine ⟨hthere, (job_left_only_by_refusal happ (fun _ => rfl) Sample.run_unrecorded
    Sample.forgetting_spared Sample.forgetting_ends).resolve_left fun hnone => ?_⟩
  rw [hnone] at hthere
  cases hthere

namespace Sample

/-- The pass that finds the init job to have succeeded, when no job can be deleted. -/
def failing : Round :=
  .play {} (.ofUnix 60) "fresh" key (starting.stop.finishJobs.refuse .delete .job)

def leaving : Round := .play {} (.ofUnix 120) "fresh" key failing.stop.finishJobs.heal

theorem run_leaving : Run Store.FinishesJobs key store [starting, failing, leaving] leaving.stop := by
  have hstarting : Run Store.FinishesJobs key store [starting] starting.stop := by
    refine .snoc .nil ?_ (Round.passes_play ..)
    rw [starting, Round.play_start]
    exact ⟨id, fun _ _ => rfl, rfl, fun _ _ hjob => by cases hjob⟩
  have hfailing : Run Store.FinishesJobs key store [starting, failing] failing.stop := by
    refine .snoc hstarting ?_ (Round.passes_play ..)
    rw [failing, Round.play_start]
    exact (Store.finishesJobs_finishJobs starting.stop).refuse ..
  refine .snoc hfailing ?_ (Round.passes_play ..)
  rw [leaving, Round.play_start]
  exact (Store.finishesJobs_finishJobs failing.stop).heal

end Sample

/-- It is not so that no init job is there whenever a pass ends with neither a failure nor a
delay. -/
theorem job_not_always_removed : ¬ ∀ (key : ObjectKey) (first s : Store) (rounds : List Round)
    (round : Round), (∃ app : App, first.objects.get? .app key = some app ∧ app.key = key) →
    (∀ other, first.objects.get? .job other = none) →
    Run Store.FinishesJobs key first rounds s → round ∈ rounds → round.result key = .ok none →
    round.stop.objects.get? .job key.initJob = none := by
  intro h
  have hresult : (Sample.leaving.result Sample.key).toOption = some none := by decide +kernel
  have hthere : (Sample.leaving.stop.objects.get? .job Sample.key.initJob).isSome := by
    decide +kernel
  have hok := Except.eq_ok_of_toOption hresult
  rw [h Sample.key Sample.store _ _ _ ⟨_, rfl, rfl⟩ (fun _ => rfl) Sample.run_leaving (by simp) hok]
    at hthere
  cases hthere

end OdooKeeper
