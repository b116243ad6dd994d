import OdooKeeper.Proofs.Passes

/-! # Passes that nobody disturbs

When nobody changes the store during a pass, the write after the init job cannot fail any more: the
writes before it have shown that the store takes the status, and the pass knows the app as it is
stored. So what the store knows of jobs and what the tracker has decided never come apart. -/

namespace OdooKeeper

/-! ## The stored app -/

/-- The app that is stored at a key asks for a specification and has a progress. -/
def Store.Holds (s : Store) (key : ObjectKey) (spec : App.Spec) (p : Progress) : Prop :=
  ∃ app : App, s.objects.get? .app key = some app ∧ app.key = key ∧ app.content.spec = spec ∧
    app.progress = p

namespace Store.Holds

variable {s t : Store} {key : ObjectKey} {spec : App.Spec} {p : Progress}

theorem of_table (h : s.Holds key spec p) (ht : t.objects.table .app = s.objects.table .app) :
    t.Holds key spec p := by
  unfold Store.Holds Objects.get? at *
  rw [ht]
  exact h

theorem serve_other (h : s.Holds key spec p) {r : Request} (hr : r.changes? ≠ some .app) :
    (s.serve r).2.Holds key spec p :=
  h.of_table (s.serve_table hr)

theorem serve_status {sent stored : App} (h : s.Holds sent.key spec p)
    (hserve : (s.serve (.replaceStatus sent)).1 = .ok stored) :
    (s.serve (.replaceStatus sent)).2.Holds sent.key spec sent.progress ∧
      (s.serve (.replaceStatus sent)).2.objects.get? .app sent.key = some stored ∧
      stored.content.spec = spec ∧ stored.progress = sent.progress := by
  obtain ⟨app, happ, hkey, hspec, -⟩ := h
  obtain ⟨old, hold, -, hmetadata, hcontent, hget⟩ := Store.serve_status_ok hserve
  have hsame : old = app := Option.some.inj (hold.symm.trans happ)
  subst hsame
  have hstored : (s.serve (.replaceStatus sent)).2.objects.get? .app sent.key = some stored := by
    rw [hget, if_pos rfl]
  have hstoredKey : stored.key = sent.key := by
    rw [← hkey]
    unfold App.key App.space App.instanceName
    rw [hmetadata]
    rfl
  have hstoredSpec : stored.content.spec = spec := by rw [hcontent, ← hspec]
  have hprogress : stored.progress = sent.progress := by
    unfold App.progress
    rw [hcontent]
  exact ⟨⟨stored, hstored, hstoredKey, hstoredSpec, hprogress⟩, hstored, hstoredSpec, hprogress⟩

theorem serve_quiet (h : s.Holds key spec p) {kinds : List Kind} (hkinds : Kind.app ∉ kinds)
    {r : Request} (hr : r.Quiet kinds key p) : (s.serve r).2.Holds key spec p := by
  rcases hr with hr | ⟨app, rfl, rfl, rfl⟩
  · refine h.serve_other fun hchanges => hkinds ?_
    rw [← Request.kind_of_changes? hchanges]
    exact hr
  · cases hserve : (s.serve (.replaceStatus app)).1 with
    | ok stored => exact (h.serve_status hserve).1
    | error e =>
      rw [Store.serve_error hserve]
      exact h

end Store.Holds

theorem Request.Quiet.kind {kinds : List Kind} {key : ObjectKey} {p : Progress} {r : Request}
    (h : r.Quiet kinds key p) : r.call.kind ∈ Kind.app :: kinds := by
  rcases h with h | ⟨app, rfl, -, -⟩
  · exact List.mem_cons_of_mem _ h
  · exact List.mem_cons_self

theorem Request.changes?_of_kind {r : Request} {kinds : List Kind} {k : Kind}
    (h : r.call.kind ∈ kinds) (hk : k ∉ kinds) : r.changes? ≠ some k := by
  intro hchanges
  rw [Request.kind_of_changes? hchanges] at h
  exact hk h

theorem Request.OnJobs.changes?_ne_app {r : Request} (h : r.OnJobs) : r.changes? ≠ some .app := by
  intro hchanges
  rw [Request.OnJobs, Request.kind_of_changes? hchanges] at h
  simp at h

section Phases

variable {α : Type} {x : Program α} {s t : Store} {log : List Event} {a : α} {key : ObjectKey}
  {spec : App.Spec} {p : Progress}

/-- All along a quiet part of a pass, the store holds the same and has the same jobs. -/
theorem Program.Executes.quiet {kinds : List Kind} (h : x.Executes Eq s log a t)
    (hlog : ∀ e ∈ log, e.request.Quiet kinds key p) (hs : s.Holds key spec p)
    (happ : Kind.app ∉ kinds) (hjob : Kind.job ∉ kinds) :
    (∀ e ∈ log, e.store.Holds key spec p ∧ e.after.Holds key spec p) ∧ t.Holds key spec p ∧
      t.objects.table .job = s.objects.table .job := by
  obtain ⟨hevents, ht⟩ := h.keeps (Request.Quiet kinds key p) (Store.Holds · key spec p) hlog
    (fun _ _ he hs => he ▸ hs) (fun _ _ hr hs => hs.serve_quiet happ hr) hs
  have hjobs : Kind.job ∉ Kind.app :: kinds := by simp [hjob]
  exact ⟨hevents, ht, (h.table fun e he => Request.changes?_of_kind (hlog e he).kind hjobs).2⟩

end Phases

/-! ## Ready to write -/

/-- The report has the app as it is stored, and the store takes statuses. -/
def Report.Ready (r : Report) (s : Store) : Prop :=
  r.InStep s ∧ (Verb.replaceStatus, Kind.app) ∉ s.refusals

namespace Report

variable {r r' : Report} {s t : Store}

theorem InStep.of_table (h : r.InStep s) (ht : t.objects.table .app = s.objects.table .app) :
    r.InStep t := by
  unfold InStep Objects.get? at *
  rw [ht]
  exact h

theorem ready_of_save (h : r.InStep s) (hsave : r.save.Gives s r' t) : r'.Ready t := by
  obtain ⟨stored, hserve, rfl, rfl⟩ := save_gives hsave
  refine ⟨h.accepted hserve, fun hrefused => ?_⟩
  rw [Store.serve_refusals] at hrefused
  rw [Store.serve_refused (r := .replaceStatus r.written) hrefused] at hserve
  cases hserve

end Report

namespace Pass

variable {now : Timestamp} {fresh : String} {app : App} {r r' : Report} {s t : Store}

theorem step_gives {k : Kind} {d : Dependent k} {object : Object k}
    (h : (step now d r).Gives s (object, r') t) :
    ∃ converged u, (d.converge r.app).Gives s converged u ∧ converged.object = object ∧
      (r.apply (d.recorded object.metadata.anyName).toList).save.Gives u r' t := by
  unfold Attempt.Gives step at h
  rw [ExceptT.run_mk, Program.run_bind] at h
  cases hconverge : (d.converge r.app).run.run s with
  | mk result u =>
    rw [hconverge] at h
    cases result with
    | error failure => exact absurd h Report.not_gives_abort
    | ok converged =>
      simp only [Program.run_bind] at h
      cases hsave : ((r.apply (d.recorded converged.object.metadata.anyName).toList).save.run).run
          u with
      | mk saved v =>
        rw [hsave] at h
        cases saved with
        | error failure => cases h
        | ok r'' =>
          cases h
          exact ⟨converged, u, hconverge, rfl, hsave⟩

theorem step_ready (d : Step) {object : Object d.kind}
    (h : (step now d.dependent r).Gives s (object, r') t) (hr : r.InStep s) : r'.Ready t := by
  obtain ⟨converged, u, hconverge, -, hsave⟩ := step_gives h
  have happ : Kind.app ∉ [Kind.secret, d.kind] := by cases d <;> simp
  have htable := hconverge.table (d.converge_asks (by simp) (by simp) r.app) happ
  have happlied : (r.apply (d.dependent.recorded object.metadata.anyName).toList).InStep u :=
    hr.of_table htable
  exact Report.ready_of_save happlied hsave

theorem prepare_gives (h : (prepare now fresh app).Gives s r t) :
    ∃ secret r₁ s₁ password config r₂ s₂ claim,
      (step now (Step.adminSecret fresh).dependent (.start app)).Gives s (secret, r₁) s₁ ∧
      adminPassword secret = .ok password ∧
      (step now (Step.configSecret password).dependent r₁).Gives s₁ (config, r₂) s₂ ∧
      (step now Step.filestore.dependent r₂).Gives s₂ (claim, r) t := by
  unfold prepare at h
  obtain ⟨⟨secret, r₁⟩, s₁, hadmin, h⟩ := Attempt.gives_bind.mp h
  cases hpassword : adminPassword secret with
  | error failure =>
    simp only [hpassword] at h
    exact absurd h Report.not_gives_abort
  | ok password =>
    simp only [hpassword] at h
    obtain ⟨⟨config, r₂⟩, s₂, hconfig, h⟩ := Attempt.gives_bind.mp h
    obtain ⟨⟨claim, r₃⟩, s₃, hclaim, h⟩ := Attempt.gives_bind.mp h
    obtain ⟨rfl, rfl⟩ := Attempt.gives_pure.mp h
    exact ⟨secret, r₁, s₁, password, config, r₂, s₂, claim, hadmin, hpassword, hconfig, hclaim⟩

theorem prepare_ready (h : (prepare now fresh app).Gives s r t)
    (happ : s.objects.get? .app app.key = some app) : r.Ready t := by
  obtain ⟨_, _, _, password, _, _, _, _, hadmin, -, hconfig, hclaim⟩ := prepare_gives h
  have hr₁ := step_ready (.adminSecret fresh) hadmin (Report.inStep_start happ)
  have hr₂ := step_ready (.configSecret password) hconfig hr₁.1
  exact step_ready .filestore hclaim hr₂.1

/-! ## The whole pass -/

section Undisturbed

variable {settings : PassSettings} {key : ObjectKey} {spec : App.Spec} {p : Progress}

theorem jobStep_alone (hready : r.Ready s) (htells : r.Tells app p)
    (hs : s.Holds app.key spec p) :
    (jobStep settings now r).run.Meets Eq s fun log result t =>
      ∃ tlog outcome u sent stored,
        (InitJob.track settings.requeueJobPoll r.app r.status).Executes Eq s tlog outcome u ∧
        log = tlog ++ [⟨u, .replaceStatus sent⟩] ∧ t = (u.serve (.replaceStatus sent)).2 ∧
        (u.serve (.replaceStatus sent)).1 = .ok stored ∧ sent.key = app.key ∧
        sent.progress = (StatusUpdate.applyAll r.status outcome.updates).progress ∧
        u.Holds app.key spec p ∧
        ∀ out, result = .ok out → outcome.failure = none ∧ out.1 = outcome.requeue ∧
          out.2.Tells app sent.progress := by
  refine jobStep_meets fun tlog outcome u htrack u' hu result hresult => ?_
  subst hu
  have hasked := (htrack.asked (InitJob.track_asks ..)).1
  have htable := (htrack.table fun e he => (hasked e he).changes?_ne_app).2
  have hstep : (r.ended now .initJob outcome).InStep u := by
    unfold Report.InStep
    rw [Report.ended_app]
    exact hready.1.of_table htable
  have hgranted : ¬ u.Refuses (.replaceStatus (r.ended now .initJob outcome).written) := by
    intro hrefused
    rw [Store.Refuses, htrack.refusals.2] at hrefused
    exact hready.2 hrefused
  obtain ⟨stored, hserve⟩ := hstep.granted hgranted
  refine ⟨tlog, outcome, u, _, stored, htrack, rfl, rfl, hserve, ?_, ?_, hs.of_table htable, ?_⟩
  · rw [Report.written_key, Report.ended_app, htells.1.key]
  · rw [Report.written_progress, Report.ended_progress]
  · intro out hout
    obtain ⟨hfailure, hrequeue, -⟩ := hresult out hout
    rw [Report.written_progress, Report.ended_progress]
    exact ⟨hfailure, hrequeue, hresult.tells htells out hout⟩

/-- What a pass over an app with a progress can have done, when nobody disturbed it. -/
inductive Undisturbed (settings : PassSettings) (key : ObjectKey) (spec : App.Spec) (p : Progress)
    (s : Store) : List Event → Store → Prop where
  | unmoved {log : List Event} {t : Store}
      (kinds : ∀ e ∈ log, e.request.call.kind ∈ [Kind.app, Kind.secret, Kind.claim])
      (holds : ∀ e ∈ log, e.after.Holds key spec p) (stop : t.Holds key spec p)
      (jobs : t.objects.table .job = s.objects.table .job) :
      Undisturbed settings key spec p s log t
  | moved {plog tlog wlog : List Event} {app sent stored : App} {status : App.Status}
      {outcome : Outcome} {u t : Store}
      (about : app.key = key ∧ app.content.spec = spec ∧ status.progress = p)
      (move : InitJob.Move app status tlog outcome u)
      (kinds : ∀ e ∈ plog, e.request.call.kind ∈ [Kind.app, Kind.secret, Kind.claim])
      (onJobs : ∀ e ∈ tlog, e.request.OnJobs)
      (before : ∀ e ∈ plog ++ tlog, e.store.Holds key spec p ∧ e.after.Holds key spec p)
      (begins : ∀ e rest, tlog = e :: rest → e.store.objects.table .job = s.objects.table .job)
      (reads : (∀ e ∈ tlog, e.request.changes? = none) →
        u.objects.table .job = s.objects.table .job)
      (write : (u.serve (.replaceStatus sent)).1 = .ok stored)
      (progress : stored.progress = (StatusUpdate.applyAll status outcome.updates).progress)
      (written : (u.serve (.replaceStatus sent)).2.objects.get? .app key = some stored)
      (after : (u.serve (.replaceStatus sent)).2.Holds key spec stored.progress)
      (goesOn : wlog ≠ [] → outcome.failure = none ∧
        (outcome.requeue.isSome && settings.gateWorkload) = false)
      (workload : ∀ e ∈ wlog,
        e.request.call.kind ∈ [Kind.app, Kind.secret, Kind.deployment, Kind.service])
      (holds : ∀ e ∈ wlog, e.store.Holds key spec stored.progress ∧
        e.after.Holds key spec stored.progress)
      (stop : t.Holds key spec stored.progress)
      (jobs : t.objects.table .job = u.objects.table .job) :
      Undisturbed settings key spec p s (plog ++ (tlog ++ ⟨u, .replaceStatus sent⟩ :: wlog)) t

theorem afterwards_nonempty {moved : Except Failure (Option Nat × Report)} {wlog : List Event}
    {result : Except Failure (Option Nat)}
    (h : (afterwards settings now moved).run.Executes Eq s wlog result t) (hne : wlog ≠ []) :
    ∃ out, moved = .ok out ∧ (out.1.isSome && settings.gateWorkload) = false := by
  cases moved with
  | error failure =>
    cases h
    exact absurd rfl hne
  | ok out =>
    obtain ⟨requeue, r'⟩ := out
    cases hgate : requeue.isSome && settings.gateWorkload with
    | false => exact ⟨_, rfl, hgate⟩
    | true =>
      simp only [afterwards, hgate, if_true] at h
      cases h
      exact absurd rfl hne

theorem Undisturbed.read {ns name : String} {log : List Event} (hs : s.Holds key spec p)
    (h : Undisturbed settings key spec p (s.recording (.get .app ns name)) log t) :
    Undisturbed settings key spec p s (⟨s, .get .app ns name⟩ :: log) t := by
  let read : Event := ⟨s, .get .app ns name⟩
  have hread : read.request.call.kind ∈ [Kind.app, Kind.secret, Kind.claim] ∧
      read.store.Holds key spec p ∧ read.after.Holds key spec p :=
    ⟨by simp [read, Request.call], hs, hs.serve_other (by simp [read, Request.changes?])⟩
  cases h with
  | unmoved kinds holds stop jobs =>
    refine .unmoved (fun e he => ?_) (fun e he => ?_) stop jobs
    · rcases List.mem_cons.mp he with rfl | he
      · exact hread.1
      · exact kinds e he
    · rcases List.mem_cons.mp he with rfl | he
      · exact hread.2.2
      · exact holds e he
  | @moved plog tlog wlog app sent stored status outcome u _ about move kinds onJobs before begins
      reads write progress written after goesOn workload holds stop jobs =>
    rw [← List.cons_append]
    refine .moved about move (fun e he => ?_) onJobs (fun e he => ?_) begins reads write progress
      written after goesOn workload holds stop jobs
    · rcases List.mem_cons.mp he with rfl | he
      · exact hread.1
      · exact kinds e he
    · rw [List.cons_append] at he
      rcases List.mem_cons.mp he with rfl | he
      · exact hread.2
      · exact before e he

theorem course_undisturbed {log : List Event} {result : Except Failure (Option Nat)}
    (h : Course Eq settings now fresh app s log result t)
    (hget : s.objects.get? .app app.key = some app) (hs : s.Holds app.key app.content.spec app.progress) :
    Undisturbed settings app.key app.content.spec app.progress s log t := by
  cases h with
  | unprepared hprepare =>
    have hquiet := (hprepare.asked (prepare_quiet now fresh app)).1
    obtain ⟨hevents, ht, hjobs⟩ := hprepare.quiet hquiet hs (by simp) (by simp)
    exact .unmoved (fun e he => (hquiet e he).kind) (fun e he => (hevents e he).2) ht hjobs
  | @prepared r plog jlog wlog u v _ moved _ hprepare hjob hrest =>
    obtain ⟨hquiet, htells⟩ := hprepare.asked (prepare_quiet now fresh app)
    obtain ⟨hevents, hu, hjobs⟩ := hprepare.quiet hquiet hs (by simp) (by simp)
    -- The status has been written while preparing, so it can be written after the init job.
    have hready : r.Ready u := prepare_ready hprepare.run_eq hget
    obtain ⟨tlog, outcome, x, sent, stored, htrack, rfl, rfl, hserve, hsent, hprogress, hx, hout⟩ :=
      jobStep_alone hready (htells r rfl) hu _ _ _ hjob
    have hasked := (htrack.asked (InitJob.track_asks ..)).1
    have happs := (htrack.table fun e he => (hasked e he).changes?_ne_app).1
    rw [← hsent] at hx
    obtain ⟨hafter, hwritten, -, hstored⟩ := hx.serve_status hserve
    rw [hsent] at hafter hwritten hx
    have hworkload := (hrest.asked (afterwards_quiet fun out ho => (hout out ho).2.2)).1
    obtain ⟨hwevents, ht, hwjobs⟩ := hrest.quiet hworkload hafter (by simp) (by simp)
    rw [← hstored] at hwevents ht hafter
    rw [List.append_assoc tlog, List.singleton_append]
    refine .moved ⟨(htells r rfl).1.key, (htells r rfl).1.spec, (htells r rfl).2⟩
      (InitJob.track_meets _ _ _ _ htrack) (fun e he => (hquiet e he).kind) hasked (fun e he => ?_)
      (fun e rest he => ?_) (fun hreads => ?_) hserve (hstored.trans hprogress) hwritten hafter
      (fun hne => ?_) (fun e he => (hworkload e he).kind) hwevents ht ?_
    · rcases List.mem_append.mp he with he | he
      · exact hevents e he
      · exact ⟨hu.of_table (happs e he).1, hu.of_table (happs e he).2⟩
    · subst he
      rw [htrack.first, hjobs]
    · rw [(htrack.table fun e he => by rw [hreads e he]; simp).2, hjobs]
    · obtain ⟨out, ho, hgate⟩ := afterwards_nonempty hrest hne
      obtain ⟨hfailure, hrequeue, -⟩ := hout out ho
      exact ⟨hfailure, by rw [← hrequeue]; exact hgate⟩
    · rw [hwjobs]
      exact x.serve_table (by simp [Request.changes?])

theorem undisturbed {ns name : String} {log : List Event} {result : Except Failure (Option Nat)}
    (h : (reconcile settings now fresh ns name).run.Executes Eq s log result t)
    (hs : s.Holds ⟨ns, name⟩ spec p) : Undisturbed settings ⟨ns, name⟩ spec p s log t := by
  obtain ⟨s', rest, rfl, rfl, hcourse⟩ := reconcile_course h
  have hs₀ : (s.recording (.get .app ns name)).Holds ⟨ns, name⟩ spec p := hs.of_table rfl
  refine Undisturbed.read hs ?_
  rcases hcourse with ⟨rfl, rfl⟩ | ⟨app, happ, hcourse⟩
  · exact .unmoved (by simp) (by simp) hs₀ rfl
  obtain ⟨app', happ', hkey, rfl, rfl⟩ := hs
  have hsame : app' = app := Option.some.inj (happ'.symm.trans happ)
  subst hsame
  have hdone := course_undisturbed hcourse (by rw [hkey]; exact happ) (by rw [hkey]; exact hs₀)
  rw [hkey] at hdone
  exact hdone

end Undisturbed

end Pass

end OdooKeeper
