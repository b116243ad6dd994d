import OdooKeeper.Proofs.Passes

/-! # The stages of a pass

A pass takes its steps one after another. Each step works on the objects of its role and is followed
by a write of the status. The pass goes on only when both have succeeded. -/

namespace OdooKeeper

/-! ## Stages -/

/-- A step of a pass: what it asked for, what it came to, the report that was written then, and the
store that this write reached. -/
structure Stage where
  role : Role
  work : List Event
  outcome : Outcome
  report : Report
  store : Store

namespace Stage

def write (stage : Stage) : Event := ⟨stage.store, .replaceStatus stage.report.written⟩

def log (stage : Stage) : List Event := stage.work ++ [stage.write]

def answer (stage : Stage) : Except StoreError App :=
  (stage.store.serve (.replaceStatus stage.report.written)).1

/-- The step has succeeded and its status is stored. -/
def Passed (stage : Stage) : Prop :=
  stage.outcome.failure = none ∧ ∃ stored, stage.answer = .ok stored

/-- Why the pass ends after the stage, if it does. -/
def stopped? (stage : Stage) : Option Failure :=
  match stage.outcome.failure, stage.answer with
  | none, .ok _ => none
  | none, .error cause => some (stage.report.refusal cause)
  | some failure, .ok _ => some failure
  | some failure, .error cause => some (.several [failure, stage.report.refusal cause])

/-- What the stage leaves: the report to go on with, or the failure that ends the pass. -/
inductive Leaves (stage : Stage) : Except Failure Report → Prop where
  | passed {stored : App} (succeeded : stage.outcome.failure = none)
      (accepted : stage.answer = .ok stored) : Leaves stage (.ok (stage.report.accepted stored))
  | stopped {failure : Failure} (stops : stage.stopped? = some failure) :
      Leaves stage (.error failure)

end Stage

namespace Pass

def order : List Role :=
  [.adminSecret, .configSecret, .filestore, .initJob, .workload, .httpService, .pollService]

variable {others : Store → Store → Prop} {settings : PassSettings} {now : Timestamp}

/-- What the step of a role comes to before the status is written. -/
inductive Works (others : Store → Store → Prop) (settings : PassSettings) (r : Report) (s : Store) :
    Role → List Event → Outcome → Store → Prop where
  | converged (d : Step) {c : Converged d.kind} {work : List Event} {u : Store}
      (run : (d.dependent.converge r.app).run.Executes others s work (.ok c) u) :
      Works others settings r s d.dependent.role work
        { updates := (d.dependent.recorded c.object.metadata.anyName).toList } u
  | failed (d : Step) {failure : Failure} {work : List Event} {u : Store}
      (run : (d.dependent.converge r.app).run.Executes others s work (.error failure) u) :
      Works others settings r s d.dependent.role work { failure := some failure } u
  /-- The credentials secret has no password that the configuration file could tell. -/
  | unusable {secret : Secret} {failure : Failure} (password : adminPassword secret = .error failure) :
      Works others settings r s .configSecret [] { failure := some failure } s
  | tracked {work : List Event} {outcome : Outcome} {u : Store}
      (run : (InitJob.track settings.requeueJobPoll r.app r.status).Executes others s work outcome u) :
      Works others settings r s .initJob work outcome u

/-- The stage is made with a report, from a store on. -/
structure Made (others : Store → Store → Prop) (settings : PassSettings) (now : Timestamp)
    (r : Report) (s : Store) (stage : Stage) : Prop where
  works : ∃ u, Works others settings r s stage.role stage.work stage.outcome u ∧
    others u stage.store
  report : stage.report = r.ended now stage.role stage.outcome

/-- The executions of a pass from its step of the first role on: its stages, its last requests, its
result and the store it leaves. -/
inductive Proceeds (others : Store → Store → Prop) (settings : PassSettings) (now : Timestamp) :
    List Role → Report → Store → List Stage → List Event → Except Failure (Option Nat) → Store →
      Prop where
  | stop {r : Report} {s : Store} {stage : Stage} {roles : List Role} {failure : Failure}
      (made : Made others settings now r s stage) (stops : stage.stopped? = some failure) :
      Proceeds others settings now (stage.role :: roles) r s [stage] [] (.error failure)
        stage.write.after
  | next {r : Report} {s t : Store} {stage : Stage} {roles : List Role} {stored : App}
      {stages : List Stage} {last : List Event} {result : Except Failure (Option Nat)}
      (made : Made others settings now r s stage) (succeeded : stage.outcome.failure = none)
      (accepted : stage.answer = .ok stored)
      (rest : Proceeds others settings now roles (stage.report.accepted stored) stage.write.after
        stages last result t) :
      Proceeds others settings now (stage.role :: roles) r s (stage :: stages) last result t
  | wait {r : Report} {s : Store} (seconds : Nat) (gate : settings.gateWorkload = true) :
      Proceeds others settings now [.workload, .httpService, .pollService] r s [] []
        (.ok (some seconds)) s
  | finish {r : Report} {s u : Store} {result : Except Failure (Option Nat)} (before : others s u)
      (refused : ∀ failure, result = .error failure →
        ∃ cause, (u.serve (.replaceStatus (r.succeed now).written)).1 = .error cause)
      (told : ∀ cause, (u.serve (.replaceStatus (r.succeed now).written)).1 = .error cause →
        result = .error ((r.succeed now).refusal cause)) :
      Proceeds others settings now [] r s [] [⟨u, .replaceStatus (r.succeed now).written⟩] result
        (u.serve (.replaceStatus (r.succeed now).written)).2

/-- The requests of a pass, stage by stage. -/
def Onwards (others : Store → Store → Prop) (settings : PassSettings) (now : Timestamp)
    (roles : List Role) (r : Report) (s : Store) (log : List Event)
    (result : Except Failure (Option Nat)) (t : Store) : Prop :=
  ∃ stages last, log = stages.flatMap Stage.log ++ last ∧
    Proceeds others settings now roles r s stages last result t

/-! ## From executions to stages -/

def stepOutcome (d : Step) : Except Failure (Converged d.kind) → Outcome
  | .ok c => { updates := (d.dependent.recorded c.object.metadata.anyName).toList }
  | .error failure => { failure := some failure }

structure Stage.Of (others : Store → Store → Prop) (role : Role) (work : List Event)
    (outcome : Outcome) (u : Store) (stage : Stage) : Prop where
  role : stage.role = role
  work : stage.work = work
  outcome : stage.outcome = outcome
  store : others u stage.store

/-- The execution of a step: one stage, and what it leaves is what the pass goes on with. -/
def IsStage (others : Store → Store → Prop) (settings : PassSettings) (now : Timestamp) (role : Role)
    (work : List Event) (outcome : Outcome) (u : Store) (r : Report) (s : Store) (log : List Event)
    (result : Except Failure Report) (t : Store) : Prop :=
  ∃ stage : Stage, Stage.Of others role work outcome u stage ∧ Made others settings now r s stage ∧
    log = stage.log ∧ t = stage.write.after ∧ stage.Leaves result

section Steps

variable {role : Role} {roles : List Role} {r : Report} {s t u w : Store} {log work : List Event}
  {outcome : Outcome}

theorem save_isStage {saved : Except Failure Report}
    (works : Works others settings r s role work outcome u) (hsucceeded : outcome.failure = none)
    (h : (r.moved now outcome).save.run.Executes others u log saved t) :
    IsStage others settings now role work outcome u r s (work ++ log) saved t := by
  have hended : r.ended now role outcome = r.moved now outcome := by
    unfold Report.ended
    rw [hsucceeded]
  have hmeets : (r.moved now outcome).save.run.Meets others u fun log saved t =>
      IsStage others settings now role work outcome u r s (work ++ log) saved t := by
    refine Report.save_meets (fun w stored hw hanswer => ?_) fun w cause hw hanswer => ?_
    · exact ⟨⟨role, work, outcome, r.moved now outcome, w⟩, ⟨rfl, rfl, rfl, hw⟩,
        ⟨⟨u, works, hw⟩, hended.symm⟩, rfl, rfl, .passed hsucceeded hanswer⟩
    · refine ⟨⟨role, work, outcome, r.moved now outcome, w⟩, ⟨rfl, rfl, rfl, hw⟩,
        ⟨⟨u, works, hw⟩, hended.symm⟩, rfl, rfl, .stopped ?_⟩
      rw [Stage.stopped?, Stage.answer, hsucceeded, hanswer]
  exact hmeets _ _ _ h

theorem abort_isStage {α : Type} {failure : Failure} {result : Except Failure α}
    (works : Works others settings r s role work outcome u) (hfailed : outcome.failure = some failure)
    (h : ((r.moved now outcome).abort now role failure).run.Executes others u log result t) :
    ∃ failure', result = .error failure' ∧
      IsStage others settings now role work outcome u r s (work ++ log) (.error failure') t := by
  have hended : r.ended now role outcome = (r.moved now outcome).fail now role failure := by
    unfold Report.ended
    rw [hfailed]
  rw [Report.abort_eq] at h
  obtain ⟨log₁, log₂, answer, v, rfl, hask, hpure⟩ := Program.executes_bind h
  cases hask with
  | call before rest =>
    cases rest
    cases hpure
    refine ⟨_, rfl, ⟨role, work, outcome, (r.moved now outcome).fail now role failure, _⟩,
      ⟨rfl, rfl, rfl, before⟩, ⟨⟨u, works, before⟩, hended.symm⟩, rfl, rfl, .stopped ?_⟩
    rw [Stage.stopped?, Stage.answer, hfailed]
    cases (Store.serve _ _).1 <;> rfl

theorem step_isStage (settings : PassSettings) (d : Step)
    {result : Except Failure (Object d.kind × Report)}
    (h : (step now d.dependent r).run.Executes others s log result t) :
    ∃ work converged u, (d.dependent.converge r.app).run.Executes others s work converged u ∧
      (∀ out, result = .ok out → ∃ c, converged = .ok c ∧ out.1 = c.object) ∧
      IsStage others settings now d.dependent.role work (stepOutcome d converged) u r s log
        (result.map Prod.snd) t := by
  obtain ⟨work, log₂, converged, u, rfl, hrun, h⟩ := Program.executes_bind h
  refine ⟨work, converged, u, hrun, ?_⟩
  cases converged with
  | error failure =>
    obtain ⟨failure', rfl, hstage⟩ := abort_isStage (.failed d hrun) rfl h
    exact ⟨fun out hout => (by cases hout), hstage⟩
  | ok c =>
    obtain ⟨log₂, log₃, saved, v, rfl, hsave, h⟩ := Program.executes_bind h
    cases h
    rw [List.append_nil]
    refine ⟨fun out hout => ⟨c, rfl, ?_⟩, ?_⟩
    · cases saved <;> cases hout
      rfl
    · cases saved <;> exact save_isStage (.converged d hrun) rfl hsave

theorem jobStep_isStage {result : Except Failure (Option Nat × Report)}
    (h : (jobStep settings now r).run.Executes others s log result t) :
    ∃ work outcome u, IsStage others settings now .initJob work outcome u r s log
      (result.map Prod.snd) t := by
  unfold jobStep at h
  change (ExceptT.lift _ >>= _ : Attempt _).run.Executes others s log result t at h
  rw [ExceptT.run_bind_lift] at h
  obtain ⟨work, log₂, outcome, u, rfl, hrun, h⟩ := Program.executes_bind h
  refine ⟨work, outcome, u, ?_⟩
  cases hfailure : outcome.failure with
  | some failure =>
    simp only [hfailure] at h
    obtain ⟨failure', rfl, hstage⟩ := abort_isStage (.tracked hrun) hfailure h
    exact hstage
  | none =>
    simp only [hfailure] at h
    rcases Attempt.executes_bind h with ⟨failure, hsave, rfl⟩ | ⟨log₂, log₃, r', v, rfl, hsave, h⟩
    · exact save_isStage (.tracked hrun) hfailure hsave
    · cases h
      rw [List.append_nil]
      exact save_isStage (.tracked hrun) hfailure hsave

theorem IsStage.stops {failure : Failure}
    (h : IsStage others settings now role work outcome u r s log (.error failure) t) :
    ∃ stage : Stage, Stage.Of others role work outcome u stage ∧ log = stage.log ∧
      t = stage.write.after ∧ ∀ roles,
        Proceeds others settings now (role :: roles) r s [stage] [] (.error failure) t := by
  obtain ⟨stage, hof, hmade, rfl, rfl, hleaves⟩ := h
  obtain rfl := hof.role
  cases hleaves with
  | stopped stops => exact ⟨stage, hof, rfl, rfl, fun _ => .stop hmade stops⟩

theorem IsStage.passes {r' : Report}
    (h : IsStage others settings now role work outcome u r s log (.ok r') t) :
    ∃ stage : Stage, Stage.Of others role work outcome u stage ∧ log = stage.log ∧
      t = stage.write.after ∧ ∀ {roles stages last result v},
        Proceeds others settings now roles r' t stages last result v →
        Proceeds others settings now (role :: roles) r s (stage :: stages) last result v := by
  obtain ⟨stage, hof, hmade, rfl, rfl, hleaves⟩ := h
  obtain rfl := hof.role
  cases hleaves with
  | passed succeeded accepted => exact ⟨stage, hof, rfl, rfl, .next hmade succeeded accepted⟩

theorem IsStage.onwards {α : Type} {x : Attempt α} {f : α → Attempt (Option Nat)}
    {result : Except Failure (Option Nat)} (report : α → Report)
    (h : (x >>= f).run.Executes others s log result t)
    (hx : ∀ {log result t}, x.run.Executes others s log result t → ∃ work outcome u,
      IsStage others settings now role work outcome u r s log (result.map report) t)
    (hf : ∀ {a u log}, (f a).run.Executes others u log result t →
      Onwards others settings now roles (report a) u log result t) :
    Onwards others settings now (role :: roles) r s log result t := by
  rcases Attempt.executes_bind h with ⟨failure, hstep, rfl⟩ | ⟨log₁, log₂, a, u, rfl, hstep, h⟩
  · obtain ⟨work, outcome, u, hstage⟩ := hx hstep
    obtain ⟨stage, -, rfl, -, hproceeds⟩ := hstage.stops
    exact ⟨[stage], [], by simp, hproceeds roles⟩
  · obtain ⟨stages, last, rfl, hproceeds⟩ := hf h
    obtain ⟨work, outcome, v, hstage⟩ := hx hstep
    obtain ⟨stage, -, rfl, -, hnext⟩ := hstage.passes
    exact ⟨stage :: stages, last, by simp, hnext hproceeds⟩

theorem step_onwards (d : Step) {f : Object d.kind × Report → Attempt (Option Nat)}
    {result : Except Failure (Option Nat)}
    (h : (step now d.dependent r >>= f).run.Executes others s log result t)
    (hf : ∀ {out u log}, (f out).run.Executes others u log result t →
      Onwards others settings now roles out.2 u log result t) :
    Onwards others settings now (d.dependent.role :: roles) r s log result t := by
  refine IsStage.onwards Prod.snd h (fun hstep => ?_) hf
  obtain ⟨work, converged, u, -, -, hstage⟩ := step_isStage settings d hstep
  exact ⟨work, _, u, hstage⟩

end Steps

section Whole

variable {fresh : String} {app : App} {s t : Store} {log : List Event}
  {result : Except Failure (Option Nat)}

def configured (settings : PassSettings) (now : Timestamp) (r : Report) : Attempt (Option Nat) := do
  let (_, r) ← step now .filestore r
  let (requeue, r) ← jobStep settings now r
  if requeue.isSome && settings.gateWorkload then pure requeue else workload now requeue r

def administered (settings : PassSettings) (now : Timestamp) (secret : Secret) (r : Report) :
    Attempt (Option Nat) :=
  match adminPassword secret with
  | .error failure => r.abort now .configSecret failure
  | .ok password => do
    let (_, r) ← step now (.configSecret password) r
    configured settings now r

theorem converge_eq_administered (settings : PassSettings) (now : Timestamp) (fresh : String)
    (app : App) : converge settings now fresh app = (do
      let (secret, r) ← step now (.adminSecret fresh) (Report.start app)
      administered settings now secret r) := rfl

theorem workload_onwards {requeue : Option Nat} {r : Report}
    (h : (workload now requeue r).run.Executes others s log result t) :
    Onwards others settings now [.workload, .httpService, .pollService] r s log result t := by
  refine step_onwards .deployment h fun h => ?_
  refine step_onwards (.service .http) h fun h => ?_
  refine step_onwards (.service .poll) h fun {out u log} h => ?_
  have hmeets : ((out.2.succeed now).save >>= fun _ => pure requeue : Attempt _).run.Meets others u
      (Onwards others settings now [] out.2 u) := by
    refine Attempt.meets_bind
      (Report.save_meets (fun w stored hw hanswer => ?_) fun w cause hw hanswer => ?_)
    · refine Attempt.meets_pure
        ⟨[], _, rfl, .finish hw (fun failure hfailure => ?_) fun cause hcause => ?_⟩
      · cases hfailure
      · rw [hanswer] at hcause
        cases hcause
    · refine ⟨[], _, rfl, .finish hw (fun _ _ => ⟨cause, hanswer⟩) fun cause' hcause => ?_⟩
      rw [hanswer] at hcause
      cases hcause
      rfl
  exact hmeets _ _ _ h

theorem configured_onwards {r : Report}
    (h : (configured settings now r).run.Executes others s log result t) :
    Onwards others settings now
      [.filestore, .initJob, .workload, .httpService, .pollService] r s log result t := by
  refine step_onwards .filestore h fun h => ?_
  refine IsStage.onwards Prod.snd h jobStep_isStage fun {out u log} h => ?_
  obtain ⟨requeue, r'⟩ := out
  simp only at h
  split at h
  · rename_i hwaits
    rw [Bool.and_eq_true] at hwaits
    obtain ⟨seconds, hseconds⟩ := Option.isSome_iff_exists.mp hwaits.1
    cases h
    rw [hseconds]
    exact ⟨[], [], rfl, .wait seconds hwaits.2⟩
  · exact workload_onwards h

theorem administered_onwards {secret : Secret} {r : Report}
    (h : (administered settings now secret r).run.Executes others s log result t) :
    Onwards others settings now
      [.configSecret, .filestore, .initJob, .workload, .httpService, .pollService] r s log result
      t := by
  unfold administered at h
  cases hpassword : adminPassword secret with
  | error failure =>
    simp only [hpassword] at h
    have hworks : Works others settings r s .configSecret [] { failure := some failure } s :=
      .unusable hpassword
    obtain ⟨failure', rfl, hstage⟩ := abort_isStage hworks rfl h
    obtain ⟨stage, -, rfl, -, hproceeds⟩ := hstage.stops
    exact ⟨[stage], [], by simp, hproceeds _⟩
  | ok password =>
    simp only [hpassword] at h
    exact step_onwards (.configSecret password) h configured_onwards

theorem converge_onwards
    (h : (converge settings now fresh app).run.Executes others s log result t) :
    Onwards others settings now order (Report.start app) s log result t := by
  rw [converge_eq_administered] at h
  exact step_onwards (.adminSecret fresh) h administered_onwards

/-- A pass reads the app, and proceeds if there is one. -/
theorem reconcile_onwards {ns name : String}
    (h : (reconcile settings now fresh ns name).run.Executes others s log result t) :
    ∃ u rest, others s u ∧ log = ⟨u, .get .app ns name⟩ :: rest ∧
      ((rest = [] ∧ t = u.recording (.get .app ns name) ∧
          ∀ failure, result = .error failure →
            ∃ cause, (u.serve (.get .app ns name)).1 = .error cause) ∨
        ∃ app, u.objects.get? .app ⟨ns, name⟩ = some app ∧
          Onwards others settings now order (Report.start app) (u.recording (.get .app ns name)) rest
            result t) := by
  obtain ⟨u, rest, hu, hlog, ⟨hrest, ht, hrefused, -⟩ | ⟨app, happ, h⟩⟩ := reconcile_loads h
  · exact ⟨u, rest, hu, hlog, .inl ⟨hrest, ht, hrefused⟩⟩
  · exact ⟨u, rest, hu, hlog, .inr ⟨app, happ, converge_onwards h⟩⟩

end Whole

end Pass

end OdooKeeper
