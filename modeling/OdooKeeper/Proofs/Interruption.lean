import OdooKeeper.Proofs.Runs
import OdooKeeper.Proofs.WellFormed

/-! # Passes that others interrupt

The job is taken away before the status says that it has succeeded. Whoever updates the app between
the write before the init job and the write after it makes the second one fail, and then nothing
tells any more that the modules are installed. -/

namespace OdooKeeper

/-! ## Updates by others -/

/-- What another actor may change of an app: anything but its name and its status. -/
structure App.Touch (change : App → App) : Prop where
  name : ∀ app, (change app).metadata.name = app.metadata.name
  generateName : ∀ app, (change app).metadata.generateName = app.metadata.generateName
  status : ∀ app, (change app).content.status = app.content.status

/-- Others update the app with a key, any number of times. -/
inductive Store.Touched (key : ObjectKey) (s : Store) : Store → Prop where
  | none : Touched key s s
  | again {s' : Store} {change : App → App} (before : Touched key s s') (touch : App.Touch change) :
      Touched key s (s'.modify .app key.ns key.name change)

namespace Store.Touched

variable {key : ObjectKey} {s s' : Store} {p : Progress}

theorem table (h : Store.Touched key s s') {k : Kind} (hk : k ≠ .app) :
    s'.objects.table k = s.objects.table k := by
  induction h with
  | none => rfl
  | again before touch ih => rw [Store.modify_table hk, ih]

theorem refusals (h : Store.Touched key s s') : s'.refusals = s.refusals := by
  induction h with
  | none => rfl
  | @again s' change before touch ih =>
    rw [← ih]
    unfold Store.modify
    cases s'.object? .app key.ns key.name <;> rfl

theorem wellFormed (h : Store.Touched key s s') (hs : s.WellFormed) : s'.WellFormed := by
  induction h with
  | none => exact hs
  | again before touch ih => exact ih.modify ..

end Store.Touched

/-- The app with a key has a progress, whatever it asks for. -/
def Store.Knows (s : Store) (key : ObjectKey) (p : Progress) : Prop :=
  ∃ spec, s.Holds key spec p

/-- The app with a key is as it was stored under a version, or it bears a later version. -/
def Store.Since (s : Store) (key : ObjectKey) (stored : App) (n : Nat) : Prop :=
  n ≤ s.version ∧ ∃ app : App, s.objects.get? .app key = some app ∧
    (app = stored ∨ ∃ m, n < m ∧ m ≤ s.version ∧
      app.metadata.resourceVersion = some (Store.versionText m))

section Touched

variable {key : ObjectKey} {s s' : Store} {p : Progress} {stored : App} {n : Nat}

theorem Store.Knows.touched (hs : s.Knows key p) (h : Store.Touched key s s') :
    s'.Knows key p := by
  induction h with
  | none => exact hs
  | @again s' change before touch ih =>
    obtain ⟨spec, app, happ, hkey, -, hp⟩ := ih
    rw [Store.modify_of_get? happ]
    refine ⟨(change app).content.spec, _, Store.get?_putStamped .., ?_, rfl, ?_⟩
    · have hname : (change app).metadata.anyName = key.name := by
        unfold Metadata.anyName
        rw [touch.name, touch.generateName]
        exact congrArg ObjectKey.name hkey
      exact congrArg (ObjectKey.mk key.ns) hname
    · rw [← hp]
      unfold App.progress
      rw [← touch.status app]
      rfl

theorem Store.Since.touched (hs : s.Since key stored n) (h : Store.Touched key s s') :
    s'.Since key stored n := by
  induction h with
  | none => exact hs
  | @again s' change before touch ih =>
    obtain ⟨hn, app, happ, -⟩ := ih
    rw [Store.modify_of_get? happ]
    refine ⟨Nat.le_succ_of_le hn, _, Store.get?_putStamped .., .inr ?_⟩
    exact ⟨s'.version + 1, Nat.lt_succ_of_le hn, Nat.le_refl _, rfl⟩

theorem Store.Since.serve (hs : s.Since key stored n) {r : Request} (hr : r.changes? ≠ some .app) :
    (s.serve r).2.Since key stored n := by
  obtain ⟨hn, app, happ, hsame⟩ := hs
  have hle := s.serve_version_le r
  refine ⟨Nat.le_trans hn hle, app, ?_, hsame.imp_right ?_⟩
  · rw [Objects.get?, s.serve_table hr]
    exact happ
  · rintro ⟨m, hm, hms, hversion⟩
    exact ⟨m, hm, Nat.le_trans hms hle, hversion⟩

end Touched

/-! ## The write before the init job -/

/-- The last request has stored the app under the version that the report knows. -/
def Report.Last (r : Report) (log : List Event) (t : Store) : Prop :=
  ∃ before written stored, log = before ++ [written] ∧ written.Stores stored ∧
    t.objects.get? .app r.app.key = some stored ∧
    r.app.metadata.resourceVersion = stored.metadata.resourceVersion ∧
    (Verb.replaceStatus, Kind.app) ∉ t.refusals

section Last

variable {others : Store → Store → Prop} {r : Report} {s t : Store} {log : List Event}
  {now : Timestamp}

theorem Report.Last.append (h : r.Last log t) (first : List Event) : r.Last (first ++ log) t := by
  obtain ⟨before, written, stored, rfl, h⟩ := h
  exact ⟨first ++ before, written, stored, by rw [List.append_assoc], h⟩

theorem Report.save_last : r.save.run.Meets others s fun log result t =>
    ∀ r', result = .ok r' → r'.Last log t := by
  refine Report.save_meets (fun s' stored _ hserve r' hr' => ?_) fun s' cause _ _ r' hr' => ?_
  · cases hr'
    obtain ⟨old, -, -, -, -, hget⟩ := Store.serve_status_ok hserve
    refine ⟨[], _, stored, rfl, ⟨s', _, rfl, hserve⟩, ?_, rfl, fun hrefused => ?_⟩
    · rw [hget]
      exact if_pos rfl
    · rw [Store.serve_refusals] at hrefused
      rw [Store.serve_refused (r := .replaceStatus r.written) hrefused] at hserve
      cases hserve
  · cases hr'

theorem Pass.step_last {k : Kind} {d : Dependent k} :
    (Pass.step now d r).run.Meets others s fun log result t =>
      ∀ out, result = .ok out → out.2.Last log t := by
  refine Program.meets_bind fun log result t _ => ?_
  cases result with
  | error failure =>
    refine Report.abort_meets fun s' failure' _ out hout => ?_
    cases hout
  | ok converged =>
    refine Program.meets_bind (Report.save_last.mono fun log' saved u hsaved => ?_)
    refine Program.meets_pure fun out hout => ?_
    cases saved with
    | error failure => cases hout
    | ok r' =>
      cases hout
      rw [List.append_nil]
      exact (hsaved r' rfl).append log

theorem Pass.prepare_last {fresh : String} {app : App} :
    (Pass.prepare now fresh app).run.Meets others s fun log result t =>
      ∀ r, result = .ok r → r.Last log t := by
  unfold Pass.prepare
  refine Attempt.meets_bind fun log₁ first u₁ _ => ?_
  cases first with
  | error failure => intro r hr; cases hr
  | ok out₁ =>
    simp only
    cases adminPassword out₁.1 with
    | error failure => exact Report.abort_meets fun s' failure' _ r hr => by cases hr
    | ok password =>
      refine Attempt.meets_bind fun log₂ second u₂ _ => ?_
      cases second with
      | error failure => intro r hr; cases hr
      | ok out₂ =>
        refine Attempt.meets_bind (Pass.step_last.mono fun log₃ third u₃ hlast => ?_)
        cases third with
        | error failure => intro r hr; cases hr
        | ok out₃ =>
          refine Attempt.meets_pure fun r hr => ?_
          cases hr
          rw [List.append_nil]
          exact ((hlast out₃ rfl).append log₂).append log₁

end Last

/-! ## The write after the init job -/

section Phases

variable {α : Type} {x : Program α} {key : ObjectKey} {s t : Store} {log : List Event} {a : α}
  {p : Progress}

theorem Program.Executes.touched_jobs (h : x.Executes (Store.Touched key) s log a t)
    (hlog : ∀ e ∈ log, e.request.changes? ≠ some .job) :
    t.objects.table .job = s.objects.table .job :=
  (h.keeps (fun r => r.changes? ≠ some .job) (fun u => u.objects.table .job = s.objects.table .job)
    hlog (fun _ _ htouched hs => (htouched.table (by simp)).trans hs)
    (fun u r hr hs => (u.serve_table hr).trans hs) rfl).2

theorem Program.Executes.touched_refusals (h : x.Executes (Store.Touched key) s log a t) :
    t.refusals = s.refusals :=
  (h.keeps (fun _ => True) (fun u => u.refusals = s.refusals) (fun _ _ => trivial)
    (fun _ _ htouched hs => htouched.refusals.trans hs)
    (fun u r _ hs => (u.serve_refusals r).trans hs) rfl).2

theorem Program.Executes.touched_wellFormed (h : x.Executes (Store.Touched key) s log a t)
    (hs : s.WellFormed) : t.WellFormed :=
  h.wellFormed (fun _ _ htouched hs => htouched.wellFormed hs) hs

theorem Program.Executes.touched_quiet {kinds : List Kind}
    (h : x.Executes (Store.Touched key) s log a t) (hlog : ∀ e ∈ log, e.request.Quiet kinds key p)
    (hs : s.Knows key p) (happ : Kind.app ∉ kinds) (hjob : Kind.job ∉ kinds) :
    t.Knows key p ∧ t.objects.table .job = s.objects.table .job := by
  refine ⟨(h.keeps (Request.Quiet kinds key p) (Store.Knows · key p) hlog
    (fun _ _ htouched hs => hs.touched htouched) ?_ hs).2, h.touched_jobs fun e he => ?_⟩
  · rintro u r hr ⟨spec, hu⟩
    exact ⟨spec, hu.serve_quiet happ hr⟩
  · exact Request.changes?_of_kind (hlog e he).kind (by simp [hjob])

theorem Program.Executes.touched_track {stored : App} {n : Nat}
    (h : x.Executes (Store.Touched key) s log a t) (hlog : ∀ e ∈ log, e.request.OnJobs)
    (hs : s.Knows key p ∧ s.Since key stored n) : t.Knows key p ∧ t.Since key stored n := by
  refine (h.keeps Request.OnJobs (fun u => u.Knows key p ∧ u.Since key stored n) hlog
    (fun _ _ htouched hs => ⟨hs.1.touched htouched, hs.2.touched htouched⟩) ?_ hs).2
  rintro u r hr ⟨⟨spec, hu⟩, hsince⟩
  have hchanges := hr.changes?_ne_app
  exact ⟨⟨spec, hu.serve_other hchanges⟩, hsince.serve hchanges⟩

end Phases

/-- A status that comes with the version of a stored app is accepted if and only if nobody has
updated the app since. -/
theorem Store.Since.accepts_iff {s : Store} {stored sent : App} {n : Nat}
    (h : s.Since sent.key stored n)
    (hstored : stored.metadata.resourceVersion = some (Store.versionText n))
    (hsent : sent.metadata.resourceVersion = stored.metadata.resourceVersion)
    (hgranted : ¬ s.Refuses (.replaceStatus sent)) :
    (∃ app, (s.serve (.replaceStatus sent)).1 = .ok app) ↔
      s.objects.get? .app sent.key = some stored := by
  constructor
  · rintro ⟨app, hserve⟩
    obtain ⟨old, hold, hstale, -⟩ := Store.serve_status_ok hserve
    obtain ⟨-, app', happ', hsame⟩ := h
    rw [hold] at happ'
    cases happ'
    rcases hsame with rfl | ⟨m, hnm, -, hversion⟩
    · exact hold
    · -- Another version makes the write stale.
      rw [Store.isStale, hsent, hstored, hversion] at hstale
      simp only [Option.isSome_some, Bool.true_and, bne_eq_false_iff_eq, Option.some.injEq] at hstale
      have hmn := Store.versionText_inj hstale
      omega
  · intro hget
    exact Store.serve_status_granted hget hsent hgranted

theorem Store.Knows.settle {s : Store} {stored sent : App} {n : Nat} {p : Progress}
    (hs : s.Knows sent.key p) (hsince : s.Since sent.key stored n)
    (hstored : stored.metadata.resourceVersion = some (Store.versionText n))
    (hsent : sent.metadata.resourceVersion = stored.metadata.resourceVersion)
    (hgranted : ¬ s.Refuses (.replaceStatus sent)) :
    s.objects.get? .app sent.key = some stored ∧
        (s.serve (.replaceStatus sent)).2.Knows sent.key sent.progress ∨
      s.objects.get? .app sent.key ≠ some stored ∧
        (∃ cause, (s.serve (.replaceStatus sent)).1 = .error cause) ∧
        (s.serve (.replaceStatus sent)).2.Knows sent.key p := by
  have haccepts := hsince.accepts_iff hstored hsent hgranted
  obtain ⟨spec, hs⟩ := hs
  cases hserve : (s.serve (.replaceStatus sent)).1 with
  | ok app => exact .inl ⟨haccepts.mp ⟨app, hserve⟩, spec, (hs.serve_status hserve).1⟩
  | error cause =>
    refine .inr ⟨fun hget => ?_, ⟨cause, rfl⟩, ?_⟩
    · obtain ⟨app, happ⟩ := haccepts.mpr hget
      rw [hserve] at happ
      cases happ
    · rw [Store.serve_error hserve]
      exact ⟨spec, hs⟩

/-! ## A success that is removed -/

namespace Pass

variable {settings : PassSettings} {now : Timestamp} {fresh : String} {key : ObjectKey} {app : App}
  {job : Job} {r : Report} {s u v t : Store} {log plog jlog wlog : List Event}
  {moved : Except Failure (Option Nat × Report)} {result : Except Failure (Option Nat)}

/-- The status that is written after the init job is kept if and only if nobody has updated the app
since the write before. -/
theorem last_settles {α : Type} {x : Program α} {a : α} {tracked : List Event} {u₁ u₂ : Store}
    {sent : App} {p : Progress} (hlast : r.Last plog u) (hu : u.WellFormed) (hr : r.app.key = key)
    (hknows : u.Knows key p) (htrack : x.Executes (Store.Touched key) u tracked a u₁)
    (hasked : ∀ e ∈ tracked, e.request.OnJobs) (htouched : Store.Touched key u₁ u₂)
    (hsent : sent.key = key)
    (hversion : sent.metadata.resourceVersion = r.app.metadata.resourceVersion) :
    ∃ before written stored, plog = before ++ [written] ∧ written.Stores stored ∧
      (u₂.objects.get? .app key = some stored ∧
          (u₂.serve (.replaceStatus sent)).2.Knows key sent.progress ∨
        u₂.objects.get? .app key ≠ some stored ∧
          (∃ cause, (u₂.serve (.replaceStatus sent)).1 = .error cause) ∧
          (u₂.serve (.replaceStatus sent)).2.Knows key p) := by
  obtain ⟨before, written, stored, rfl, hwritten, hstored, hknown, hgranted⟩ := hlast
  obtain ⟨n, hn, hnumber⟩ := (hu.fits _ _ _ hstored).numbered
  subst hr
  -- Up to the write nobody but the others has changed the app.
  have hsince : u.Since r.app.key stored n := ⟨hn, stored, hstored, .inl rfl⟩
  obtain ⟨hknows₁, hsince₁⟩ := htrack.touched_track hasked ⟨hknows, hsince⟩
  have hknows₂ := hknows₁.touched htouched
  have hsince₂ := hsince₁.touched htouched
  rw [← hsent] at hknows₂ hsince₂ ⊢
  have hmay : ¬ u₂.Refuses (.replaceStatus sent) := by
    rw [Store.Refuses, htouched.refusals, htrack.touched_refusals]
    exact hgranted
  exact ⟨before, written, stored, rfl, hwritten,
    hknows₂.settle hsince₂ hnumber (hversion.trans hknown) hmay⟩

/-- What becomes of a job that has succeeded once it is removed. The status says so, if the app is as
it was stored before. Otherwise the pass fails, and the status still names the job. -/
inductive SuccessEnds (app stored : App) (x v : Store)
    (moved : Except Failure (Option Nat × Report)) : Prop where
  | kept (same : x.objects.get? .app app.key = some stored)
      (knows : v.Knows app.key ⟨app.progress.initJob.modules, {}⟩)
      (tells : ∀ out, moved = .ok out → out.2.Tells app ⟨app.progress.initJob.modules, {}⟩)
  | lost {failure : Failure} (other : x.objects.get? .app app.key ≠ some stored)
      (failed : moved = .error failure) (knows : v.Knows app.key app.progress)

section JobStep

variable {α : Type} {y : Program α} {a : α} {tracked : List Event} {x₀ x : Store} {outcome : Outcome}

theorem jobs_unread {sent : App} (htrack : y.Executes (Store.Touched key) u tracked a x₀)
    (hreads : ∀ e ∈ tracked, e.request.changes? = none) (hx : Store.Touched key x₀ x) :
    (x.serve (.replaceStatus sent)).2.objects.table .job = u.objects.table .job := by
  have hjobs := htrack.touched_jobs fun e he => by rw [hreads e he]; simp
  exact (x.serve_table (by simp [Request.changes?])).trans ((hx.table (by simp)).trans hjobs)

theorem success_ends (hlast : r.Last plog u) (hu : u.WellFormed) (htells : r.Tells app app.progress)
    (hknows : u.Knows app.key app.progress)
    (htrack : y.Executes (Store.Touched app.key) u tracked a x₀)
    (hasked : ∀ e ∈ tracked, e.request.OnJobs) (hx : Store.Touched app.key x₀ x)
    (hupdates : outcome.updates = [.initJobSucceeded])
    (hconcludes : Concludes r now outcome x moved) :
    ∃ before written stored, plog = before ++ [written] ∧ written.Stores stored ∧
      SuccessEnds app stored x
        (x.serve (.replaceStatus (r.ended now .initJob outcome).written)).2 moved := by
  have hkey : (r.ended now .initJob outcome).written.key = app.key := by
    rw [Report.written_key, Report.ended_app, htells.1.key]
  have hversion : (r.ended now .initJob outcome).written.metadata.resourceVersion =
      r.app.metadata.resourceVersion := by
    change (r.ended now .initJob outcome).app.metadata.resourceVersion = _
    rw [Report.ended_app]
  have hstatus : r.status.initJob = app.progress.initJob := congrArg Progress.initJob htells.2
  have hprogress : (StatusUpdate.applyAll r.status outcome.updates).progress =
      ⟨app.progress.initJob.modules, {}⟩ := by
    rw [hupdates, ← hstatus]
    rfl
  obtain ⟨before, written, stored, hplog, hwritten, hsettles⟩ :=
    last_settles hlast hu htells.1.key hknows htrack hasked hx hkey hversion
  rw [Report.written_progress, Report.ended_progress, hprogress] at hsettles
  refine ⟨before, written, stored, hplog, hwritten, ?_⟩
  rcases hsettles with ⟨hsame, hkept⟩ | ⟨hother, ⟨cause, hcause⟩, hkept⟩
  · refine .kept hsame hkept fun out hout => ?_
    rw [← hprogress]
    exact hconcludes.tells htells out hout
  · cases hmoved : moved with
    | error failure => exact .lost hother rfl hkept
    | ok out =>
      obtain ⟨-, -, app', happ', -⟩ := hconcludes out hmoved
      rw [hcause] at happ'
      cases happ'

theorem jobStep_interrupted
    (hjob : (jobStep settings now r).run.Executes (Store.Touched app.key) u jlog moved v)
    (hu : u.WellFormed) (hlast : r.Last plog u) (htells : r.Tells app app.progress)
    (hknows : u.Knows app.key app.progress) (hrecord : app.progress.initJob.isIdle = false)
    (hget : u.objects.get? .job (InitJob.recordedKey app app.progress.initJob) = some job)
    (hphase : job.phase = .succeeded) :
    (v.objects.table .job = u.objects.table .job ∧
        ∃ p, ∀ out, moved = .ok out → out.2.Tells app p) ∨
      ∃ before written tracked x sent stored, plog = before ++ [written] ∧
        jlog = tracked ++ [⟨x, .replaceStatus sent⟩] ∧ written.Stores stored ∧
        (∀ e ∈ tracked, e.request.OnJobs) ∧
        (∃ found ∈ tracked, found.Finds (InitJob.recordedKey app app.progress.initJob) job) ∧
        SuccessEnds app stored x v moved := by
  have hstatus : r.status.initJob = app.progress.initJob := congrArg Progress.initJob htells.2
  have hkeys : InitJob.recordedKey r.app r.status.initJob =
      InitJob.recordedKey app app.progress.initJob := by
    rw [hstatus, InitJob.recordedKey_congr htells.1.key]
  obtain ⟨tracked, outcome, x₀, x, htrack, hx, rfl, rfl, hconcludes⟩ := jobStep_parts _ _ _ hjob
  have hasked := (htrack.asked (InitJob.track_asks ..)).1
  have hthere : ∀ s', Store.Touched app.key u s' →
      s'.objects.get? .job (InitJob.recordedKey r.app r.status.initJob) = some job := by
    intro s' hs'
    rw [hkeys, Objects.get?, hs'.table (by simp)]
    exact hget
  rcases InitJob.track_found settings.requeueJobPoll (hstatus ▸ hrecord) hphase hthere _ _ _ htrack
    with hreads | ⟨hfound, hupdates⟩
  · exact .inl ⟨jobs_unread htrack hreads hx, _, hconcludes.tells htells⟩
  · obtain ⟨before, written, stored, hplog, hwritten, hends⟩ :=
      success_ends hlast hu htells hknows htrack hasked hx hupdates hconcludes
    exact .inr ⟨before, written, tracked, x, _, stored, hplog, rfl, hwritten, hasked, hkeys ▸ hfound,
      hends⟩

end JobStep

theorem afterwards_jobs {p : Progress}
    (hrest : (afterwards settings now moved).run.Executes (Store.Touched app.key) v wlog result t)
    (htells : ∀ out, moved = .ok out → out.2.Tells app p) :
    t.objects.table .job = v.objects.table .job := by
  have hquiet := (hrest.asked (afterwards_quiet htells)).1
  exact hrest.touched_jobs fun e he => Request.changes?_of_kind (hquiet e he).kind (by simp)

/-- A pass over an app whose recorded job has succeeded leaves all jobs alone, or it finds the job. -/
theorem course_interrupted
    (hcourse : Course (Store.Touched app.key) settings now fresh app s log result t)
    (hs : s.WellFormed) (hknows : s.Knows app.key app.progress)
    (hrecord : app.progress.initJob.isIdle = false)
    (hjob : s.objects.get? .job (InitJob.recordedKey app app.progress.initJob) = some job)
    (hphase : job.phase = .succeeded) :
    t.objects.table .job = s.objects.table .job ∨
      ∃ before written tracked found last rest stored, ∃ kept : App,
        log = before ++ written :: (tracked ++ last :: rest) ∧
        written.Stores stored ∧ (∃ sent, last.request = .replaceStatus sent) ∧
        (∀ e ∈ tracked, e.request.OnJobs) ∧ found ∈ tracked ∧
        found.Finds (InitJob.recordedKey app app.progress.initJob) job ∧
        t.objects.get? .app app.key = some kept ∧
        (kept.progress.installed = app.progress.initJob.modules ∧
            kept.progress.initJob.isIdle = true ↔
          last.store.objects.get? .app app.key = some stored) ∧
        (last.store.objects.get? .app app.key ≠ some stored → kept.progress = app.progress) := by
  cases hcourse with
  | unprepared hprepare =>
    have hquiet := (hprepare.asked (prepare_quiet now fresh app)).1
    exact .inl (hprepare.touched_quiet hquiet hknows (by simp) (by simp)).2
  | @prepared r plog jlog wlog u v _ moved _ hprepare hstep hrest =>
    obtain ⟨hquiet, htells⟩ := hprepare.asked (prepare_quiet now fresh app)
    obtain ⟨hu, hujobs⟩ := hprepare.touched_quiet hquiet hknows (by simp) (by simp)
    have hwell : u.WellFormed := hprepare.touched_wellFormed hs
    have hlast := prepare_last _ _ _ hprepare r rfl
    have hget : u.objects.get? .job (InitJob.recordedKey app app.progress.initJob) = some job := by
      rw [Objects.get?, hujobs]
      exact hjob
    rcases jobStep_interrupted hstep hwell hlast (htells r rfl) hu hrecord hget hphase with
      ⟨hvjobs, p, hout⟩ | ⟨before, written, tracked, x, sent, stored, rfl, rfl, hwritten, htracked,
        ⟨found, hmem, hfound⟩, hends⟩
    · exact .inl ((afterwards_jobs hrest hout).trans (hvjobs.trans hujobs))
    refine .inr ⟨before, written, tracked, found, ⟨x, .replaceStatus sent⟩, wlog, stored, ?_⟩
    cases hends with
    | kept hsame hv hout =>
      have hrested := (hrest.asked (afterwards_quiet hout)).1
      obtain ⟨⟨spec, kept, hkept, -, -, hprogress⟩, -⟩ :=
        hrest.touched_quiet hrested hv (by simp) (by simp)
      refine ⟨kept, by simp, hwritten, ⟨sent, rfl⟩, htracked, hmem, hfound, hkept, ?_, ?_⟩
      · rw [hprogress]
        exact ⟨fun _ => hsame, fun _ => ⟨rfl, rfl⟩⟩
      · exact fun hne => absurd hsame hne
    | lost hother hfailed hv =>
      -- The pass has ended with the refused write.
      subst hfailed
      cases hrest
      obtain ⟨spec, kept, hkept, -, -, hprogress⟩ := hv
      refine ⟨kept, by simp, hwritten, ⟨sent, rfl⟩, htracked, hmem, hfound, hkept, ?_, ?_⟩
      · rw [hprogress, hrecord]
        exact ⟨fun h => (Bool.false_ne_true h.2).elim, fun h => absurd h hother⟩
      · exact fun _ => hprogress

end Pass

namespace Sample

def label (app : App) : App :=
  { app with metadata := { app.metadata with labels := some (OrdMap.ofList [("tier", "shop")]) } }

/-- The pass that finds the init job to have succeeded, when the app is labelled right before the last
request. -/
def disturbed : List Event × Except Failure (Option Nat) × Store :=
  (reconcile {} (.ofUnix 60) "fresh" key.ns key.name).run.play
    (List.replicate 11 id ++ [fun s => s.modify .app key.ns key.name label]) recording.start

theorem disturbed_executes :
    (reconcile {} (.ofUnix 60) "fresh" key.ns key.name).run.Executes (Store.Touched key)
      recording.start disturbed.1 disturbed.2.1 disturbed.2.2 := by
  refine Program.executes_play (fun _ => .none) _ (fun change hchange s => ?_) _ _
  rcases List.mem_append.mp hchange with hid | hlabel
  · rw [List.eq_of_mem_replicate hid]
    exact .none
  · rw [List.mem_singleton.mp hlabel]
    exact .again .none ⟨fun _ => rfl, fun _ => rfl, fun _ => rfl⟩

theorem disturbed_removes : ∃ app : App, ∃ job : Job,
    recording.start.objects.get? .app key = some app ∧ app.key = key ∧
    app.progress.initJob.isIdle = false ∧
    recording.start.objects.get? .job (InitJob.recordedKey app app.progress.initJob) = some job ∧
    job.phase = .succeeded ∧
    disturbed.2.2.objects.get? .job (InitJob.recordedKey app app.progress.initJob) = none ∧
    (disturbed.2.2.objects.get? .app key).all (fun kept : App => !kept.progress.initJob.isIdle) := by
  have hsample : (recording.start.objects.get? .app key).any (fun app : App =>
      app.key = key ∧ app.progress.initJob.isIdle = false ∧
      (recording.start.objects.get? .job (InitJob.recordedKey app app.progress.initJob)).any
        (fun job : Job => job.phase = .succeeded) ∧
      disturbed.2.2.objects.get? .job (InitJob.recordedKey app app.progress.initJob) = none ∧
      (disturbed.2.2.objects.get? .app key).all
        (fun kept : App => !kept.progress.initJob.isIdle)) := by decide +kernel
  obtain ⟨app, happ, hsample⟩ := (Option.any_eq_true ..).mp hsample
  obtain ⟨hkey, hrecord, hjob, hrest⟩ := of_decide_eq_true hsample
  obtain ⟨job, hget, hphase⟩ := (Option.any_eq_true ..).mp hjob
  exact ⟨app, job, happ, hkey, hrecord, hget, of_decide_eq_true hphase, hrest⟩

end Sample

/-- When a pass removes a job that has succeeded, its status says so if and only if nobody updates
the app between the writes before and after the init job. -/
theorem success_kept_iff {settings : PassSettings} {now : Timestamp} {fresh : String}
    {key : ObjectKey} {s t : Store} {log : List Event} {result : Except Failure (Option Nat)}
    {app : App} {job : Job} (hs : s.WellFormed) (happ : s.objects.get? .app key = some app)
    (hkey : app.key = key) (hrecord : app.progress.initJob.isIdle = false)
    (hjob : s.objects.get? .job (InitJob.recordedKey app app.progress.initJob) = some job)
    (hphase : job.phase = .succeeded)
    (hpass : (reconcile settings now fresh key.ns key.name).run.Executes (Store.Touched key) s log
      result t)
    (hgone : t.objects.get? .job (InitJob.recordedKey app app.progress.initJob) = none) :
    ∃ before written tracked found last rest stored, ∃ kept : App,
      log = before ++ written :: (tracked ++ last :: rest) ∧
      written.Stores stored ∧ (∃ sent, last.request = .replaceStatus sent) ∧
      (∀ e ∈ tracked, e.request.OnJobs) ∧ found ∈ tracked ∧
      found.Finds (InitJob.recordedKey app app.progress.initJob) job ∧
      t.objects.get? .app key = some kept ∧
      (kept.progress.installed = app.progress.initJob.modules ∧
          kept.progress.initJob.isIdle = true ↔
        last.store.objects.get? .app key = some stored) ∧
      (last.store.objects.get? .app key ≠ some stored → kept.progress = app.progress) := by
  obtain ⟨s', log, hs', rfl, hcourse⟩ := Pass.reconcile_course hpass
  have hjobs : s'.objects.table .job = s.objects.table .job := hs'.table (by simp)
  have hstays : t.objects.table .job ≠ s'.objects.table .job := by
    intro ht
    rw [Objects.get?, ht, hjobs, ← Objects.get?, hjob] at hgone
    cases hgone
  rcases hcourse with ⟨rfl, rfl⟩ | ⟨(app' : App), happ', hcourse⟩
  · exact absurd rfl hstays
  -- The app that is read has the progress of the stored one, whatever else others have changed.
  have hknows : s.Knows key app.progress := ⟨_, app, happ, hkey, rfl, rfl⟩
  obtain ⟨spec, hknows'⟩ := hknows.touched hs'
  have hread : app'.key = key ∧ app'.progress = app.progress := by
    obtain ⟨old, hold, hkey', -, hp⟩ := hknows'
    rw [happ'] at hold
    cases hold
    exact ⟨hkey', hp⟩
  obtain ⟨rfl, hp⟩ := hread
  have hrecorded : InitJob.recordedKey app' app'.progress.initJob =
      InitJob.recordedKey app app.progress.initJob := by
    rw [hp]
    exact InitJob.recordedKey_congr hkey.symm _
  let read : Request := .get .app app'.key.ns app'.key.name
  have hstart : (s'.recording read).Knows app'.key app'.progress :=
    hp ▸ ⟨spec, hknows'.of_table rfl⟩
  have hthere : (s'.recording read).objects.get? .job
      (InitJob.recordedKey app' app'.progress.initJob) = some job := by
    rw [hrecorded, Objects.get?, Store.recording_objects, hjobs]
    exact hjob
  rcases Pass.course_interrupted hcourse ((hs'.wellFormed hs).recording read) hstart (hp ▸ hrecord)
      hthere hphase with
    hunmoved | ⟨before, written, tracked, found, last, rest, stored, kept, rfl, hfacts⟩
  · exact absurd hunmoved hstays
  rw [hrecorded, hp] at hfacts
  exact ⟨⟨s', read⟩ :: before, written, tracked, found, last, rest, stored, kept, rfl, hfacts⟩

theorem success_kept_iff_sample : ∃ before written tracked last rest, ∃ stored : App,
    Sample.disturbed.1 = before ++ written :: (tracked ++ last :: rest) ∧
      written.Stores stored ∧ last.store.objects.get? .app Sample.key ≠ some stored := by
  obtain ⟨app, job, happ, hkey, hrecord, hjob, hphase, hgone, hlost⟩ := Sample.disturbed_removes
  obtain ⟨before, written, tracked, found, last, rest, stored, kept, hlog, hwritten, -, -, -, -,
      hkept, hiff, -⟩ :=
    success_kept_iff Sample.recording_wellFormed happ hkey hrecord hjob hphase
      Sample.disturbed_executes hgone
  refine ⟨before, written, tracked, last, rest, stored, hlog, hwritten, fun hsame => ?_⟩
  rw [hkept, Option.all_some, (hiff.mpr hsame).2] at hlost
  cases hlost

/-- It is not so that a success is always recorded once its job is gone. -/
theorem success_not_always_kept : ¬ ∀ (settings : PassSettings) (now : Timestamp) (fresh : String)
    (key : ObjectKey) (s t : Store) (log : List Event) (result : Except Failure (Option Nat))
    (app : App) (job : Job), s.WellFormed → s.objects.get? .app key = some app → app.key = key →
    app.progress.initJob.isIdle = false →
    s.objects.get? .job (InitJob.recordedKey app app.progress.initJob) = some job →
    job.phase = .succeeded →
    (reconcile settings now fresh key.ns key.name).run.Executes (Store.Touched key) s log result t →
    t.objects.get? .job (InitJob.recordedKey app app.progress.initJob) = none →
    ∃ kept : App, t.objects.get? .app key = some kept ∧
      kept.progress.installed = app.progress.initJob.modules ∧
      kept.progress.initJob.isIdle = true := by
  intro h
  obtain ⟨app, job, happ, hkey, hrecord, hjob, hphase, hgone, hlost⟩ := Sample.disturbed_removes
  obtain ⟨kept, hkept, -, hidle⟩ := h _ _ _ _ _ _ _ _ app job Sample.recording_wellFormed happ hkey
    hrecord hjob hphase Sample.disturbed_executes hgone
  rw [hkept, Option.all_some, hidle] at hlost
  cases hlost

end OdooKeeper
