import OdooKeeper.Proofs.Combining
import OdooKeeper.Proofs.Conditions
import OdooKeeper.Proofs.Ordering
import OdooKeeper.Proofs.Undisturbed

/-! # What a failed pass leaves in the status

A pass that fails at a step tells so in the status of the app, beside all that its steps have to tell,
the failed one included. Nobody else writes the app meanwhile, so every write of the status is
accepted. -/

namespace OdooKeeper

/-! ## What a report says -/

def App.Status.withConditions (status : App.Status) (conditions : List Condition) : App.Status :=
  { status with conditions }

theorem StatusUpdate.applyAll_withConditions (status : App.Status) (conditions : List Condition)
    (updates : List StatusUpdate) :
    applyAll (status.withConditions conditions) updates =
      (applyAll status updates).withConditions conditions := by
  induction updates generalizing status with
  | nil => rfl
  | cons update rest ih =>
    have hfirst : apply (status.withConditions conditions) update =
        (apply status update).withConditions conditions := by
      cases update <;> rfl
    unfold applyAll at *
    rw [List.foldl_cons, List.foldl_cons, hfirst, ih]

@[simp] theorem StatusUpdate.applyAll_conditions (status : App.Status)
    (updates : List StatusUpdate) : (applyAll status updates).conditions = status.conditions :=
  (congrArg App.Status.conditions (applyAll_withConditions status status.conditions updates)).trans
    rfl

/-- The condition that a run of the tracker reports, for a generation of the app. -/
def JobReport.update (c : JobReport) (generation : Option Int64) : Condition.Update where
  type := .databaseInitialized
  status := c.status
  reason := c.reason
  message := c.message
  generation := generation

/-- The conditions say that the pass failed at the object of a role. -/
structure Failure.Told (failure : Failure) (role : Role) (generation : Option Int64)
    (conditions : List Condition) : Prop where
  degraded : Condition.Update.Stands
    ⟨.operatorDegraded, .true, failure.reason role, failure.message, generation⟩ conditions
  succeeded : Condition.Update.Stands
    ⟨.operatorSucceeded, .false, failure.reason role, failure.message, generation⟩ conditions

namespace Report

variable {r : Report} {now : Timestamp} {role : Role} {outcome : Outcome} {failure : Failure}
  {c : JobReport}

theorem fail_told :
    failure.Told role r.app.metadata.generation (r.fail now role failure).status.conditions :=
  ⟨Condition.Update.Stands.set_of_ne (Condition.Update.stands_set ..) (by simp),
    Condition.Update.stands_set ..⟩

theorem fail_find? :
    Condition.find? .databaseInitialized (r.fail now role failure).status.conditions =
      Condition.find? .databaseInitialized r.status.conditions := by
  unfold fail setOutcome setCondition
  rw [Condition.find?_set_of_ne (by simp), Condition.find?_set_of_ne (by simp)]

theorem moved_told (h : outcome.report = some c) :
    (c.update r.app.metadata.generation).Stands (r.moved now outcome).status.conditions := by
  unfold moved
  rw [h]
  exact Condition.Update.stands_set ..

theorem moved_find? (h : outcome.report = none) :
    Condition.find? .databaseInitialized (r.moved now outcome).status.conditions =
      Condition.find? .databaseInitialized r.status.conditions := by
  unfold moved
  rw [h]
  simp [apply]

theorem ended_told (h : outcome.failure = some failure) :
    failure.Told role r.app.metadata.generation (r.ended now role outcome).status.conditions := by
  have happ : (r.moved now outcome).app = r.app := moved_app
  unfold ended
  rw [h, ← happ]
  exact fail_told

theorem ended_reported (h : outcome.report = some c) :
    (c.update r.app.metadata.generation).Stands (r.ended now role outcome).status.conditions := by
  unfold ended
  split
  · unfold Condition.Update.Stands
    change ∃ since, Condition.find? .databaseInitialized _ = _
    rw [fail_find?]
    exact moved_told h
  · exact moved_told h

theorem ended_find? (h : outcome.report = none) :
    Condition.find? .databaseInitialized (r.ended now role outcome).status.conditions =
      Condition.find? .databaseInitialized r.status.conditions := by
  unfold ended
  split
  · rw [fail_find?, moved_find? h]
  · exact moved_find? h

theorem ended_updated (r : Report) (now : Timestamp) (role : Role) (outcome : Outcome) :
    ∃ conditions, (r.ended now role outcome).status =
      (StatusUpdate.applyAll r.status outcome.updates).withConditions conditions := by
  have hmoved : ∃ conditions, (r.moved now outcome).status =
      (StatusUpdate.applyAll r.status outcome.updates).withConditions conditions := by
    unfold moved
    split <;> exact ⟨_, rfl⟩
  obtain ⟨conditions, hmoved⟩ := hmoved
  unfold ended
  split
  · rename_i failure _
    have hfail : ((r.moved now outcome).fail now role failure).status =
        (r.moved now outcome).status.withConditions
          ((r.moved now outcome).fail now role failure).status.conditions := rfl
    exact ⟨_, by rw [hfail, hmoved]; rfl⟩
  · exact ⟨conditions, hmoved⟩

end Report

/-! ## Stages -/

theorem Role.Writes.changes?_ne_app {role : Role} {app : App} {work : List Event} {r : Request}
    (h : role.Writes app work r) : r.changes? ≠ some .app := by
  rcases h with ⟨d, -, hwrites⟩ | ⟨-, hjobs⟩
  · rw [hwrites.changes?]
    cases d <;> simp
  · exact hjobs.changes?_ne_app

theorem Role.owned_changes? {role : Role} {app : App} {work : List Event} {r : Request}
    (h : r.changes? = none ∨ role.Writes app work r) : r.changes? ≠ some .app := by
  rcases h with hreads | hwrites
  · rw [hreads]
    simp
  · exact hwrites.changes?_ne_app

theorem Request.verb_ne_of_changes? {r : Request} (h : r.changes? ≠ some .app) :
    r.call.verb ≠ .replaceStatus := by
  cases r with
  | replaceStatus app => exact absurd rfl h
  | _ => simp [call]

theorem Report.About.self (r : Report) : r.About r.app := ⟨_, _, rfl⟩

theorem Report.About.generation {r : Report} {app : App} (h : r.About app) :
    r.app.metadata.generation = app.metadata.generation := by
  obtain ⟨version, status, h⟩ := h
  rw [h]
  rfl

namespace Pass

variable {others : Store → Store → Prop} {settings : PassSettings} {now : Timestamp} {role : Role}
  {roles : List Role} {r : Report} {s t u : Store} {work : List Event} {outcome : Outcome}
  {stage : Stage} {stages earlier later : List Stage} {last : List Event}
  {result : Except Failure (Option Nat)}

theorem Works.spares (h : Works Eq settings r s role work outcome u) :
    u.objects.table .app = s.objects.table .app ∧ u.refusals = s.refusals := by
  have hlog : ∀ e ∈ work, e.request.changes? ≠ some .app := fun e he =>
    Role.owned_changes? (h.owns (.self r) e he)
  obtain ⟨α, p, a, run⟩ := h.executes
  exact ⟨(run.table hlog).2, run.refusals.2⟩

theorem Works.reports (h : Works others settings r s role work outcome u)
    (hreport : outcome.report.isSome) : role = .initJob := by
  cases h with
  | tracked run => rfl
  | _ => cases hreport

/-- A step fails once only. The failure is about the init job exactly when the step is the one that
drives it. -/
theorem Works.lone (h : Works others settings r s role work outcome u) {failure : Failure}
    (hfailure : outcome.failure = some failure) : failure.Lone (role = .initJob) := by
  have hdependent : ∀ d : Step, decide (d.dependent.role = .initJob) = false := by
    intro d
    cases d with
    | service part => cases part <;> rfl
    | _ => rfl
  cases h with
  | converged d run => cases hfailure
  | failed d run =>
    cases hfailure
    rw [hdependent d]
    exact run.failure_of_kind (d.converge_halts r.app) rfl
  | @unusable secret failure password =>
    cases hfailure
    rw [adminPassword_error password]
    exact ⟨rfl, rfl⟩
  | tracked run =>
    have htracks := InitJob.track_halts settings.requeueJobPoll r.app r.status
    exact run.failure_of_kind htracks hfailure

theorem Works.isJobLifecycle_iff (h : Works others settings r s role work outcome u)
    {failure : Failure} (hfailure : outcome.failure = some failure) :
    failure.isJobLifecycle = true ↔ role = .initJob := by
  rw [(h.lone hfailure).lifecycle, decide_eq_true_eq]

theorem Made.app (h : Made others settings now r s stage) : stage.report.app = r.app := by
  rw [h.report, Report.ended_app]

theorem Made.updated (h : Made others settings now r s stage) :
    ∃ conditions, stage.report.status =
      (StatusUpdate.applyAll r.status stage.outcome.updates).withConditions conditions := by
  rw [h.report]
  exact Report.ended_updated ..

theorem Made.reported (h : Made others settings now r s stage) {c : JobReport}
    (hreport : stage.outcome.report = some c) :
    (c.update r.app.metadata.generation).Stands stage.report.status.conditions := by
  rw [h.report]
  exact Report.ended_reported hreport

theorem Made.find? (h : Made others settings now r s stage) (hrole : stage.role ≠ .initJob) :
    Condition.find? .databaseInitialized stage.report.status.conditions =
      Condition.find? .databaseInitialized r.status.conditions := by
  obtain ⟨u, hworks, -⟩ := h.works
  rw [h.report]
  refine Report.ended_find? (Option.not_isSome_iff_eq_none.mp fun hreport => hrole ?_)
  exact hworks.reports hreport

theorem Made.accepted (h : Made Eq settings now r s stage) (hr : r.InStep s)
    (hgranted : (.replaceStatus, .app) ∉ s.refusals) :
    ∃ stored, stage.answer = .ok stored ∧
      (stage.report.accepted stored).InStep stage.write.after ∧
      stage.write.after.refusals = s.refusals := by
  obtain ⟨u, hworks, hstore⟩ := h.works
  rw [hstore] at hworks
  obtain ⟨htable, hrefusals⟩ := hworks.spares
  have hstep : stage.report.InStep stage.store := by
    have hstep := hr.of_table htable
    unfold Report.InStep at *
    rw [h.app]
    exact hstep
  have hrefuses : ¬ stage.store.Refuses (.replaceStatus stage.report.written) := by
    unfold Store.Refuses
    rw [hrefusals]
    exact hgranted
  obtain ⟨stored, hstored⟩ := hstep.granted hrefuses
  exact ⟨stored, hstored, hstep.accepted hstored, (Store.serve_refusals ..).trans hrefusals⟩

namespace Proceeds

/-- All writes of the status are accepted. When the pass fails, the last step has failed, and its
status is the stored one. -/
theorem accepted (h : Proceeds Eq settings now roles r s stages last result t) (hr : r.InStep s)
    (hgranted : (.replaceStatus, .app) ∉ s.refusals) :
    (∀ stage ∈ stages, ∃ stored, stage.answer = .ok stored) ∧
      (∀ e ∈ last, ∃ stored, e.Stores stored) ∧
      ∀ failure, result = .error failure → last = [] ∧
        ∃ earlier stage, stages = earlier ++ [stage] ∧ stage.outcome.failure = some failure ∧
          ∃ stored : App, t.objects.get? .app r.app.key = some stored ∧
            stored.content.status = some stage.report.status := by
  induction h with
  | @stop r s stage roles failure made stops =>
    obtain ⟨stored, hanswer, hstep, -⟩ := made.accepted hr hgranted
    refine ⟨List.forall_mem_singleton.mpr ⟨stored, hanswer⟩, by simp, ?_⟩
    rintro _ ⟨⟩
    refine ⟨rfl, [], stage, rfl, ?_, (stage.report.accepted stored).app, ?_, rfl⟩
    · rw [Stage.stopped?, hanswer] at stops
      cases hfailure : stage.outcome.failure with
      | none =>
        rw [hfailure] at stops
        cases stops
      | some failure' =>
        rw [hfailure] at stops
        exact stops
    · have hkey : (stage.report.accepted stored).app.key = r.app.key := by
        rw [Report.accepted_key, made.app]
      rw [← hkey]
      exact hstep
  | @next r s t stage roles stored stages last result made succeeded accepted rest ih =>
    obtain ⟨stored', hanswer, hstep, hrefusals⟩ := made.accepted hr hgranted
    obtain rfl : stored = stored' := Except.ok.inj (accepted.symm.trans hanswer)
    obtain ⟨hstages, hlast, hends⟩ := ih hstep (hrefusals ▸ hgranted)
    refine ⟨List.forall_mem_cons.mpr ⟨⟨stored, hanswer⟩, hstages⟩, hlast, fun failure hresult => ?_⟩
    obtain ⟨hnone, earlier, final, rfl, hfailure, app, happ, hstatus⟩ := hends failure hresult
    rw [Report.accepted_key, made.app] at happ
    exact ⟨hnone, stage :: earlier, final, rfl, hfailure, app, happ, hstatus⟩
  | wait seconds gate => exact ⟨by simp, by simp, fun failure hfailure => by cases hfailure⟩
  | @finish r s u result before refused told =>
    subst before
    have hstep : (r.succeed now).InStep s := hr
    obtain ⟨stored, hstored⟩ := hstep.granted hgranted
    refine ⟨by simp, List.forall_mem_singleton.mpr ⟨stored, _, _, rfl, hstored⟩, ?_⟩
    intro failure hfailure
    obtain ⟨cause, hcause⟩ := refused failure hfailure
    rw [hstored] at hcause
    cases hcause

theorem updated (h : Proceeds others settings now roles r s stages last result t)
    (hcut : stages = earlier ++ stage :: later) :
    ∃ conditions, stage.report.status = (StatusUpdate.applyAll r.status
      ((earlier ++ [stage]).flatMap fun stage => stage.outcome.updates)).withConditions
        conditions := by
  induction h generalizing earlier with
  | stop made stops =>
    cases earlier with
    | nil =>
      cases hcut
      simpa using made.updated
    | cons _ earlier => simp at hcut
  | @next r s t first roles stored stages last result made succeeded accepted rest ih =>
    cases earlier with
    | nil =>
      cases hcut
      simpa using made.updated
    | cons _ earlier =>
      cases hcut
      obtain ⟨conditions, hstatus⟩ := ih rfl
      obtain ⟨_, hfirst⟩ := made.updated
      refine ⟨conditions, ?_⟩
      rw [hstatus, Report.accepted_status, hfirst, StatusUpdate.applyAll_withConditions]
      simp [App.Status.withConditions, StatusUpdate.applyAll]
  | wait seconds gate => simp at hcut
  | finish before refused told => simp at hcut

theorem reported (h : Proceeds others settings now roles r s stages last result t)
    (hroles : roles.Nodup) (hcut : stages = earlier ++ stage :: later) :
    (.initJob ∉ roles → Condition.find? .databaseInitialized stage.report.status.conditions =
        Condition.find? .databaseInitialized r.status.conditions) ∧
      ∀ stage' ∈ earlier ++ [stage], ∀ c, stage'.outcome.report = some c →
        (c.update r.app.metadata.generation).Stands stage.report.status.conditions := by
  induction h generalizing earlier with
  | stop made stops =>
    cases earlier with
    | nil =>
      cases hcut
      refine ⟨fun hrole => made.find? ?_, List.forall_mem_singleton.mpr fun _ => made.reported⟩
      exact fun hsame => hrole (hsame ▸ List.mem_cons_self)
    | cons _ earlier => simp at hcut
  | @next r s t first roles stored stages last result made succeeded accepted rest ih =>
    cases earlier with
    | nil =>
      cases hcut
      refine ⟨fun hrole => made.find? ?_, List.forall_mem_singleton.mpr fun _ => made.reported⟩
      exact fun hsame => hrole (hsame ▸ List.mem_cons_self)
    | cons _ earlier =>
      cases hcut
      obtain ⟨hfirst, hroles⟩ := List.nodup_cons.mp hroles
      obtain ⟨hsame, hrest⟩ := ih hroles rfl
      refine ⟨fun hrole => ?_, List.forall_mem_cons.mpr ⟨fun c hreport => ?_, ?_⟩⟩
      · rw [List.mem_cons, not_or] at hrole
        exact (hsame hrole.2).trans (made.find? (Ne.symm hrole.1))
      · -- The tracker has had its turn, so nothing is said about the database any more.
        obtain ⟨u, hworks, -⟩ := made.works
        have hjob : first.role = .initJob := hworks.reports (Option.isSome_of_eq_some hreport)
        obtain ⟨since, hsays⟩ := made.reported hreport
        exact ⟨since, (hsame (hjob ▸ hfirst)).trans hsays⟩
      · have happ : (first.report.accepted stored).app.metadata.generation =
            r.app.metadata.generation := by
          rw [← made.app]
          rfl
        rw [← happ]
        exact hrest
  | wait seconds gate => simp at hcut
  | finish before refused told => simp at hcut

end Proceeds

end Pass

/-! ## What a failed pass comes to -/

/-- A failure of one thing, or of that and of the write of the status that was to tell so. -/
inductive Failure.Reported : Failure → Prop where
  | alone {failure : Failure} (single : failure.isSeveral = false) : Reported failure
  | unwritten {failure : Failure} (single : failure.isSeveral = false) (name : String)
      (cause : StoreError) : Reported (.several [failure, .store .app .updateStatus name cause])

theorem Failure.Reported.flat {failure : Failure} (h : failure.Reported) : failure.Flat := by
  cases h with
  | alone single => exact flat_of_single single
  | unwritten single name cause =>
    exact List.forall_mem_cons.mpr ⟨single, List.forall_mem_singleton.mpr rfl⟩

namespace Pass

variable {others : Store → Store → Prop} {settings : PassSettings} {now : Timestamp}
  {roles : List Role} {r : Report} {s t : Store} {stage : Stage} {stages : List Stage}
  {last : List Event} {failure : Failure}

theorem Made.stopped (h : Made others settings now r s stage)
    (hstops : stage.stopped? = some failure) : failure.Reported := by
  obtain ⟨u, hworks, -⟩ := h.works
  cases hfailure : stage.outcome.failure with
  | none =>
    cases hanswer : stage.answer with
    | ok stored =>
      rw [Stage.stopped?, hfailure, hanswer] at hstops
      cases hstops
    | error cause =>
      rw [Stage.stopped?, hfailure, hanswer] at hstops
      cases hstops
      exact .alone rfl
  | some first =>
    have hsingle := (hworks.lone hfailure).single
    cases hanswer : stage.answer with
    | ok stored =>
      rw [Stage.stopped?, hfailure, hanswer] at hstops
      cases hstops
      exact .alone hsingle
    | error cause =>
      rw [Stage.stopped?, hfailure, hanswer] at hstops
      cases hstops
      exact .unwritten hsingle _ _

theorem Proceeds.error_reported
    (h : Proceeds others settings now roles r s stages last (.error failure) t) :
    failure.Reported := by
  generalize hresult : (Except.error failure : Except Failure (Option Nat)) = result at h
  induction h with
  | stop made stops =>
    cases hresult
    exact made.stopped stops
  | next made succeeded accepted rest ih => exact ih hresult
  | wait seconds gate => cases hresult
  | finish before refused told =>
    obtain ⟨cause, hcause⟩ := refused failure hresult.symm
    have htold := told cause hcause
    rw [← hresult] at htold
    cases htold
    exact .alone rfl

end Pass

theorem Failure.flattens_of_reported {failures : List Failure} (h : ∀ f ∈ failures, f.Reported) :
    Flattens failures (combine failures) := flattens_of_flat fun f hf => (h f hf).flat

/-- However a pass fails, it fails for one thing, beside which stands at most the refused write of the
status. -/
theorem reconcile_error_reported {others : Store → Store → Prop} {settings : PassSettings}
    {now : Timestamp} {fresh ns name : String} {s t : Store} {log : List Event} {failure : Failure}
    (h : (reconcile settings now fresh ns name).run.Executes others s log (.error failure) t) :
    failure.Reported := by
  unfold reconcile at h
  rcases Attempt.executes_bind h with ⟨_, hget, ⟨⟩⟩ | ⟨log₁, log₂, found, u, rfl, -, hrest⟩
  · have hhalts : (Attempt.request .app .get name (Program.get .app ns name)).Halts
        fun failure => failure.isSeveral = false := Attempt.fails_request fun _ => rfl
    exact .alone (hget.failure_of_kind hhalts rfl)
  · cases found with
    | none => cases hrest
    | some app =>
      obtain ⟨stages, last, -, hproceeds⟩ := Pass.converge_onwards hrest
      exact hproceeds.error_reported

/-! ## Failed passes -/

/-- What the status of an app tells after stages of a pass over it, the last of which failed at the
object of a role. -/
structure App.Status.Tells (status : App.Status) (app : App) (stages : List Stage) (role : Role)
    (failure : Failure) : Prop where
  failed : failure.Told role app.metadata.generation status.conditions
  reported : ∀ stage ∈ stages, ∀ c, stage.outcome.report = some c →
    (c.update app.metadata.generation).Stands status.conditions
  updated : ∃ conditions, status = (StatusUpdate.applyAll (app.content.status.getD {})
    (stages.flatMap fun stage => stage.outcome.updates)).withConditions conditions

/-- A pass over an app that nobody else writes fails at one of its steps only, and the stored status
tells so, beside all that its steps have to tell. -/
theorem failure_reported {settings : PassSettings} {now : Timestamp} {fresh : String} {app : App}
    {s t : Store} {log : List Event} {failure : Failure}
    (happ : s.objects.get? .app app.key = some app) (hread : (.get, .app) ∉ s.refusals)
    (hwrite : (.replaceStatus, .app) ∉ s.refusals)
    (h : (reconcile settings now fresh app.key.ns app.key.name).run.Executes Eq s log
      (.error failure) t) :
    ∃ earlier stage,
      log = ⟨s, .get .app app.key.ns app.key.name⟩ :: (earlier ++ [stage]).flatMap Stage.log ∧
      Pass.Ordered Eq settings now (some app) (earlier ++ [stage]) [] ∧
      stage.outcome.failure = some failure ∧
      (∃ stored status, t.objects.get? .app app.key = some stored ∧
        stored.content.status = some status ∧
        status.Tells app (earlier ++ [stage]) stage.role failure) ∧
      (∀ e ∈ log, e.request.call.verb = .replaceStatus → ∃ stored, e.Stores stored) ∧
      (failure.isJobLifecycle = true ↔ stage.role = .initJob) := by
  obtain ⟨u, rest, rfl, rfl, ⟨-, -, hrefused⟩ | ⟨found, hfound, stages, last, rfl, hproceeds⟩⟩ :=
    Pass.reconcile_onwards h
  · obtain ⟨cause, hcause⟩ := hrefused failure rfl
    rw [Store.serve_get_granted hread] at hcause
    cases hcause
  obtain rfl : found = app := Option.some.inj (hfound.symm.trans happ)
  obtain ⟨hstages, -, hends⟩ := hproceeds.accepted (Report.inStep_start happ) hwrite
  obtain ⟨rfl, earlier, stage, rfl, hfailure, stored, hstored, hstatus⟩ := hends failure rfl
  have hordered := Pass.Ordered.of_proceeds hproceeds
  obtain ⟨_, ⟨⟩, r, s', hr, hmade, -⟩ := hordered.made stage (by simp)
  obtain ⟨v, hworks, -⟩ := hmade.works
  refine ⟨earlier, stage, by simp, hordered, hfailure,
    ⟨stored, stage.report.status, hstored, hstatus, ?_, ?_, ?_⟩, ?_,
    hworks.isJobLifecycle_iff hfailure⟩
  · rw [hmade.report, ← hr.generation]
    exact Report.ended_told hfailure
  · exact (hproceeds.reported (by decide) rfl).2
  · exact hproceeds.updated rfl
  · intro e he hverb
    rcases List.mem_cons.mp he with rfl | he
    · cases hverb
    rw [List.append_nil, List.mem_flatMap] at he
    obtain ⟨stage', hstage', he⟩ := he
    rcases List.mem_append.mp he with hwork | hlast
    · -- The requests of a step are no writes of a status.
      obtain ⟨_, -, _, _, -, -, howns⟩ := hordered.made stage' hstage'
      exact absurd hverb (Request.verb_ne_of_changes? (Role.owned_changes? (howns e hwork)))
    · obtain rfl := List.mem_singleton.mp hlast
      obtain ⟨stored', hanswer⟩ := hstages stage' hstage'
      exact ⟨stored', _, _, rfl, hanswer⟩

/-- The init job of the sample app has succeeded and cannot be removed. -/
def Sample.unremovable : Store := Sample.recording.start.refuse .delete .job

theorem failure_reported_sample :
    ∃ app failure t earlier stage stored status,
      Sample.unremovable.objects.get? .app Sample.key = some app ∧
      (reconcile {} (.ofUnix 60) "fresh" Sample.key.ns Sample.key.name).run.run Sample.unremovable =
        (.error failure, t) ∧
      Pass.Ordered Eq {} (.ofUnix 60) (some app) (earlier ++ [stage]) [] ∧
      stage.outcome.failure = some failure ∧ stage.role = .initJob ∧
      t.objects.get? .app Sample.key = some stored ∧ stored.content.status = some status ∧
      status.Tells app (earlier ++ [stage]) .initJob failure := by
  have hstored : (Sample.unremovable.objects.get? .app Sample.key).any
      fun app : App => app.key = Sample.key := by decide +kernel
  obtain ⟨app, happ, hkey⟩ := (Option.any_eq_true ..).mp hstored
  have hkey : app.key = Sample.key := by simpa using hkey
  have hfails : (Attempt.failure? ((reconcile {} (.ofUnix 60) "fresh" Sample.key.ns
      Sample.key.name).run.run Sample.unremovable).1).any Failure.isJobLifecycle := by decide +kernel
  cases hrun : (reconcile {} (.ofUnix 60) "fresh" Sample.key.ns Sample.key.name).run.run
      Sample.unremovable with
  | mk result t =>
    rw [hrun] at hfails
    cases result with
    | ok requeue => cases hfails
    | error failure =>
      obtain ⟨log, hexecutes⟩ := Program.exists_executes_run
        (reconcile {} (.ofUnix 60) "fresh" Sample.key.ns Sample.key.name).run Sample.unremovable
      rw [hrun, ← hkey] at hexecutes
      obtain ⟨earlier, stage, -, hordered, hfailure, ⟨stored, status, htold, hstatus, htells⟩, -,
        hjob⟩ := failure_reported (hkey ▸ happ) (by decide) (by decide) hexecutes
      rw [hkey] at htold
      have hrole : stage.role = .initJob := hjob.mp hfails
      exact ⟨app, failure, t, earlier, stage, stored, status, happ, rfl, hordered, hfailure, hrole,
        htold, hstatus, hrole ▸ htells⟩

end OdooKeeper
