import OdooKeeper.Pass
import OdooKeeper.Proofs.Dependents
import OdooKeeper.Proofs.Tracker

/-! # The course of a pass

A pass prepares what the init job needs, moves the init job on, and then brings up the workload. Only
the second part concerns jobs, and only it writes another progress. -/

namespace OdooKeeper

namespace Pass

/-! ## Parts -/

def prepare (now : Timestamp) (fresh : String) (app : App) : Attempt Report := do
  let (secret, r) ← step now (.adminSecret fresh) (Report.start app)
  match adminPassword secret with
  | .error failure => r.abort now .configSecret failure
  | .ok password =>
    let (_, r) ← step now (.configSecret password) r
    let (_, r) ← step now .filestore r
    pure r

def workload (now : Timestamp) (requeue : Option Nat) (r : Report) : Attempt (Option Nat) := do
  let (_, r) ← step now .deployment r
  let (_, r) ← step now (.service .http) r
  let (_, r) ← step now (.service .poll) r
  let _ ← (r.succeed now).save
  pure requeue

theorem converge_eq (settings : PassSettings) (now : Timestamp) (fresh : String) (app : App) :
    converge settings now fresh app = (do
      let r ← prepare now fresh app
      let (requeue, r) ← jobStep settings now r
      if requeue.isSome && settings.gateWorkload then pure requeue else workload now requeue r) := by
  unfold converge prepare workload
  rw [bind_assoc]
  refine bind_congr fun out => ?_
  cases hpassword : adminPassword out.1 with
  | error failure => simp only [hpassword, Report.abort_bind]
  | ok password => simp only [hpassword, bind_assoc, pure_bind]

end Pass

/-! ## Steps -/

/-- The request is about an object of one of some kinds, or writes a status with a progress. -/
def Request.Quiet (kinds : List Kind) (key : ObjectKey) (p : Progress) (r : Request) : Prop :=
  r.Among kinds ∨ ∃ app, r = .replaceStatus app ∧ app.key = key ∧ app.progress = p

/-- The report is about an app and has a progress. -/
def Report.Tells (r : Report) (app : App) (p : Progress) : Prop :=
  r.About app ∧ r.status.progress = p

namespace Pass

section Requests

variable {allowed : Request → Prop} {now : Timestamp} {app : App} {p : Progress} {r : Report}
  (hstatus : ∀ sent : App, sent.key = app.key → sent.progress = p → allowed (.replaceStatus sent))
include hstatus

theorem save_requests (h : r.Tells app p) : r.save.Asks allowed fun r => r.Tells app p := by
  obtain ⟨habout, hp⟩ := h
  refine Report.save_asks (hstatus _ habout.key hp) fun stored => ?_
  exact ⟨habout.accepted stored, hp⟩

theorem abort_requests {α : Type} {role : Role} {failure : Failure} {post : α → Prop}
    (h : r.Tells app p) : (r.abort now role failure).Asks allowed post := by
  obtain ⟨habout, hp⟩ := h
  exact Report.abort_asks (hstatus _ habout.key hp)

theorem step_requests (d : Step) (hconverge : (d.dependent.converge app).Asks allowed fun _ => True)
    (h : r.Tells app p) :
    (step now d.dependent r).Asks allowed fun out => out.2.Tells app p := by
  unfold step
  rw [h.1.converge]
  refine Program.asks_bind (Program.Asks.mono hconverge fun result _ => ?_)
  cases result with
  | error failure => exact abort_requests hstatus h
  | ok converged =>
    have htells : (r.apply (d.dependent.recorded converged.object.metadata.anyName).toList).Tells
        app p := ⟨h.1, (d.recorded_progress r _).trans h.2⟩
    refine Program.asks_bind (Program.Asks.mono (save_requests hstatus htells) fun saved hsaved => ?_)
    refine Program.asks_pure fun out hout => ?_
    cases saved with
    | error failure => cases hout
    | ok r' =>
      cases hout
      exact hsaved r' rfl

theorem workload_requests {requeue : Option Nat}
    (hsteps : ∀ d : Step, d.kind ∈ [Kind.deployment, .service] →
      (d.dependent.converge app).Asks allowed fun _ => True) (h : r.Tells app p) :
    (workload now requeue r).Asks allowed fun _ => True := by
  unfold workload
  refine Attempt.asks_bind ((step_requests hstatus .deployment (hsteps _ (by simp)) h).mono
    fun out hout => ?_)
  refine Attempt.asks_bind ((step_requests hstatus (.service .http) (hsteps _ (by simp)) hout).mono
    fun out hout => ?_)
  refine Attempt.asks_bind ((step_requests hstatus (.service .poll) (hsteps _ (by simp)) hout).mono
    fun out hout => ?_)
  have htells : (out.2.succeed now).Tells app p := hout
  exact Attempt.asks_bind ((save_requests hstatus htells).mono fun _ _ => Attempt.asks_pure trivial)

end Requests

theorem prepare_requests {allowed : Request → Prop} {app : App}
    (hstatus : ∀ sent : App, sent.key = app.key → sent.progress = app.progress →
      allowed (.replaceStatus sent))
    (hsteps : ∀ d : Step, d.kind ∈ [Kind.secret, .claim] →
      (d.dependent.converge app).Asks allowed fun _ => True) (now : Timestamp) (fresh : String) :
    (prepare now fresh app).Asks allowed fun r => r.Tells app app.progress := by
  unfold prepare
  refine Attempt.asks_bind ((step_requests hstatus (.adminSecret fresh) (hsteps _ (by simp))
    ⟨.start, rfl⟩).mono fun out hout => ?_)
  simp only
  cases adminPassword out.1 with
  | error failure => exact abort_requests hstatus hout
  | ok password =>
    refine Attempt.asks_bind ((step_requests hstatus (.configSecret password) (hsteps _ (by simp))
      hout).mono fun out hout => ?_)
    refine Attempt.asks_bind ((step_requests hstatus .filestore (hsteps _ (by simp)) hout).mono
      fun out hout => ?_)
    exact Attempt.asks_pure hout

section Quiet

variable {kinds : List Kind} {now : Timestamp} {app : App} {p : Progress} {r : Report}

theorem converge_quiet (d : Step) (hsecret : Kind.secret ∈ kinds) (hkind : d.kind ∈ kinds) :
    (d.dependent.converge app).Asks (Request.Quiet kinds app.key p) fun _ => True :=
  (d.converge_asks hsecret hkind app).allow fun _ hr => .inl hr

theorem prepare_quiet (now : Timestamp) (fresh : String) (app : App) :
    (prepare now fresh app).Asks (Request.Quiet [.secret, .claim] app.key app.progress)
      fun r => r.Tells app app.progress :=
  prepare_requests (fun _ hkey hp => .inr ⟨_, rfl, hkey, hp⟩)
    (fun d hd => converge_quiet d (by simp) hd) now fresh

theorem workload_quiet {requeue : Option Nat} (h : r.Tells app p) :
    (workload now requeue r).Asks (Request.Quiet [.secret, .deployment, .service] app.key p)
      fun _ => True :=
  workload_requests (fun _ hkey hp => .inr ⟨_, rfl, hkey, hp⟩)
    (fun d hd => converge_quiet d (by simp) (List.mem_cons_of_mem _ hd)) h

end Quiet

end Pass

/-! ## The step of the init job -/

namespace Report

variable {r : Report} {now : Timestamp} {outcome : Outcome}

def moved (r : Report) (now : Timestamp) (outcome : Outcome) : Report :=
  match outcome.report with
  | some c =>
    (r.apply outcome.updates).setCondition now .databaseInitialized c.status c.reason c.message
  | none => r.apply outcome.updates

/-- The report that is written after the step of a role has come to an outcome. -/
def ended (r : Report) (now : Timestamp) (role : Role) (outcome : Outcome) : Report :=
  match outcome.failure with
  | some failure => (r.moved now outcome).fail now role failure
  | none => r.moved now outcome

theorem moved_app : (r.moved now outcome).app = r.app := by
  unfold moved
  split <;> rfl

theorem moved_progress : (r.moved now outcome).status.progress =
    (StatusUpdate.applyAll r.status outcome.updates).progress := by
  unfold moved
  split <;> rfl

@[simp] theorem ended_app {role : Role} : (r.ended now role outcome).app = r.app := by
  unfold ended
  split
  · rw [fail_app, moved_app]
  · exact moved_app

@[simp] theorem ended_progress {role : Role} : (r.ended now role outcome).status.progress =
    (StatusUpdate.applyAll r.status outcome.updates).progress := by
  unfold ended
  split
  · rw [fail_progress, moved_progress]
  · exact moved_progress

end Report

namespace Pass

section JobStep

variable {others : Store → Store → Prop} {settings : PassSettings} {now : Timestamp} {r : Report}
  {s : Store}

/-- What the result of the step of the init job tells, given the answer to its last request. -/
def Concludes (r : Report) (now : Timestamp) (outcome : Outcome) (t : Store)
    (result : Except Failure (Option Nat × Report)) : Prop :=
  ∀ out, result = .ok out → outcome.failure = none ∧ out.1 = outcome.requeue ∧
    ∃ stored, (t.serve (.replaceStatus (r.ended now .initJob outcome).written)).1 = .ok stored ∧
      out.2 = (r.ended now .initJob outcome).accepted stored

theorem Concludes.tells {app : App} {p : Progress} {outcome : Outcome} {t : Store}
    {result : Except Failure (Option Nat × Report)} (h : Concludes r now outcome t result)
    (hr : r.Tells app p) : ∀ out, result = .ok out →
      out.2.Tells app (StatusUpdate.applyAll r.status outcome.updates).progress := by
  intro out hout
  obtain ⟨-, -, stored, -, hr'⟩ := h out hout
  obtain ⟨version, status, happ⟩ := hr.1
  rw [hr']
  refine ⟨Report.About.accepted ⟨version, status, ?_⟩ stored, Report.ended_progress⟩
  rw [Report.ended_app, happ]

theorem jobStep_meets {post : List Event → Except Failure (Option Nat × Report) → Store → Prop}
    (h : (InitJob.track settings.requeueJobPoll r.app r.status).Meets others s
      fun log outcome t => ∀ t', others t t' → ∀ result, Concludes r now outcome t' result →
        post (log ++ [⟨t', .replaceStatus (r.ended now .initJob outcome).written⟩]) result
          (t'.serve (.replaceStatus (r.ended now .initJob outcome).written)).2) :
    (jobStep settings now r).run.Meets others s post := by
  unfold jobStep
  change (ExceptT.lift _ >>= _ : Attempt _).run.Meets others s post
  rw [ExceptT.run_bind_lift]
  refine Program.meets_bind (h.mono fun log outcome t ht => ?_)
  cases hfailure : outcome.failure with
  | some failure =>
    have hended : r.ended now .initJob outcome =
        (r.moved now outcome).fail now .initJob failure := by
      unfold Report.ended
      rw [hfailure]
    rw [hended] at ht
    simp only
    refine Report.abort_meets fun t' failure' ht' => ht t' ht' _ ?_
    intro out hout
    cases hout
  | none =>
    have hended : r.ended now .initJob outcome = r.moved now outcome := by
      unfold Report.ended
      rw [hfailure]
    simp only
    refine Attempt.meets_bind (Report.save_meets (fun t' stored ht' hserve => ?_)
      fun t' cause ht' _ => ?_)
    · refine Attempt.meets_pure ?_
      rw [List.append_nil]
      rw [hended] at ht
      refine ht t' ht' _ fun out hout => ?_
      cases hout
      exact ⟨hfailure, rfl, stored, by rw [hended]; exact hserve, by rw [hended]; rfl⟩
    · rw [hended] at ht
      refine ht t' ht' _ fun out hout => ?_
      cases hout

theorem jobStep_parts :
    (jobStep settings now r).run.Meets others s fun jlog moved v => ∃ tracked outcome x₀ x,
      (InitJob.track settings.requeueJobPoll r.app r.status).Executes others s tracked outcome x₀ ∧
      others x₀ x ∧
      jlog = tracked ++ [⟨x, .replaceStatus (r.ended now .initJob outcome).written⟩] ∧
      v = (x.serve (.replaceStatus (r.ended now .initJob outcome).written)).2 ∧
      Concludes r now outcome x moved :=
  jobStep_meets fun tracked outcome x₀ htrack x hx _ hconcludes =>
    ⟨tracked, outcome, x₀, x, htrack, hx, rfl, rfl, hconcludes⟩

end JobStep

/-! ## The whole pass -/

section Course

variable {others : Store → Store → Prop} {settings : PassSettings} {now : Timestamp}
  {fresh : String} {app : App} {s t : Store} {log : List Event} {result : Except Failure (Option Nat)}

def afterwards (settings : PassSettings) (now : Timestamp) :
    Except Failure (Option Nat × Report) → Attempt (Option Nat)
  | .error failure => throw failure
  | .ok (requeue, r) =>
    if requeue.isSome && settings.gateWorkload then pure requeue else workload now requeue r

theorem afterwards_asks {allowed : Request → Prop} {p : Progress}
    {result : Except Failure (Option Nat × Report)} (h : ∀ out, result = .ok out → out.2.Tells app p)
    (hworkload : ∀ requeue r, r.Tells app p → (workload now requeue r).Asks allowed fun _ => True) :
    (afterwards settings now result).Asks allowed fun _ => True := by
  cases result with
  | error failure => exact Attempt.asks_throw _
  | ok out =>
    obtain ⟨requeue, r⟩ := out
    change (ite _ _ _ : Attempt _).Asks _ _
    split
    · exact Attempt.asks_pure trivial
    · exact hworkload requeue r (h _ rfl)

theorem afterwards_quiet {p : Progress} {result : Except Failure (Option Nat × Report)}
    (h : ∀ out, result = .ok out → out.2.Tells app p) :
    (afterwards settings now result).Asks
      (Request.Quiet [.secret, .deployment, .service] app.key p) fun _ => True :=
  afterwards_asks h fun _ _ => workload_quiet

/-- The executions of a pass over an app, part by part. -/
inductive Course (others : Store → Store → Prop) (settings : PassSettings) (now : Timestamp)
    (fresh : String) (app : App) (s : Store) :
    List Event → Except Failure (Option Nat) → Store → Prop where
  | unprepared {log : List Event} {failure : Failure} {t : Store}
      (prepare : (prepare now fresh app).run.Executes others s log (.error failure) t) :
      Course others settings now fresh app s log (.error failure) t
  | prepared {r : Report} {plog jlog wlog : List Event} {u v t : Store}
      {moved : Except Failure (Option Nat × Report)} {result : Except Failure (Option Nat)}
      (prepare : (prepare now fresh app).run.Executes others s plog (.ok r) u)
      (job : (jobStep settings now r).run.Executes others u jlog moved v)
      (rest : (afterwards settings now moved).run.Executes others v wlog result t) :
      Course others settings now fresh app s (plog ++ (jlog ++ wlog)) result t

theorem converge_course (h : (converge settings now fresh app).run.Executes others s log result t) :
    Course others settings now fresh app s log result t := by
  rw [converge_eq] at h
  rcases Attempt.executes_bind h with ⟨failure, hprepare, rfl⟩ |
    ⟨plog, log₂, r, u, rfl, hprepare, h⟩
  · exact .unprepared hprepare
  rcases Attempt.executes_bind h with ⟨failure, hjob, rfl⟩ | ⟨jlog, wlog, out, v, rfl, hjob, h⟩
  · have hrest : (afterwards settings now (.error failure)).run.Executes others t []
        (.error failure) t := .done _ _
    simpa using Course.prepared hprepare hjob hrest
  · exact .prepared hprepare hjob h

theorem reconcile_loads {ns name : String}
    (h : (reconcile settings now fresh ns name).run.Executes others s log result t) :
    ∃ s' rest, others s s' ∧ log = ⟨s', .get .app ns name⟩ :: rest ∧
      ((rest = [] ∧ t = s'.recording (.get .app ns name) ∧
          (∀ failure, result = .error failure →
            ∃ cause, (s'.serve (.get .app ns name)).1 = .error cause) ∧
          ∀ requeue, result = .ok requeue →
            requeue = none ∧ s'.objects.get? .app ⟨ns, name⟩ = none) ∨
        ∃ app, s'.objects.get? .app ⟨ns, name⟩ = some app ∧
          (converge settings now fresh app).run.Executes others (s'.recording (.get .app ns name))
            rest result t) := by
  unfold reconcile at h
  rcases Attempt.executes_bind h with ⟨failure, hget, rfl⟩ | ⟨log₁, log₂, found, v, rfl, hget, h⟩
  · obtain ⟨u, hu, rfl, rfl, ⟨cause, hcause, -⟩ | hfound⟩ := Store.executes_get hget
    · exact ⟨u, [], hu, rfl, .inl ⟨rfl, rfl, fun _ _ => ⟨cause, hcause⟩, fun _ hok => by cases hok⟩⟩
    · cases hfound
  · obtain ⟨u, hu, rfl, rfl, ⟨cause, -, hrefused⟩ | hfound⟩ := Store.executes_get hget
    · cases hrefused
    refine ⟨u, log₂, hu, rfl, ?_⟩
    cases found with
    | none =>
      cases h
      refine .inl ⟨rfl, rfl, fun failure hfailure => (by cases hfailure), fun requeue hok => ?_⟩
      exact ⟨(Except.ok.inj hok).symm, (Except.ok.inj hfound).symm⟩
    | some app => exact .inr ⟨app, (Except.ok.inj hfound).symm, h⟩

theorem reconcile_course {ns name : String}
    (h : (reconcile settings now fresh ns name).run.Executes others s log result t) :
    ∃ s' rest, others s s' ∧ log = ⟨s', .get .app ns name⟩ :: rest ∧
      (rest = [] ∧ t = s'.recording (.get .app ns name) ∨
        ∃ app, s'.objects.get? .app ⟨ns, name⟩ = some app ∧
          Course others settings now fresh app (s'.recording (.get .app ns name)) rest result t) := by
  obtain ⟨s', rest, hs', hlog, ⟨hrest, ht, -⟩ | ⟨app, happ, h⟩⟩ := reconcile_loads h
  · exact ⟨s', rest, hs', hlog, .inl ⟨hrest, ht⟩⟩
  · exact ⟨s', rest, hs', hlog, .inr ⟨app, happ, converge_course h⟩⟩

end Course

end Pass

end OdooKeeper
