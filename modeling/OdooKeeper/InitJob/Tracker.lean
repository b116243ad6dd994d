import OdooKeeper.App.Condition
import OdooKeeper.App.StatusUpdate
import OdooKeeper.Attempt
import OdooKeeper.InitJob.Phase
import OdooKeeper.Owner

/-! # Driving the init job

One run moves the init job on by one step: it waits for a job in flight, cleans up behind one that
has ended, or starts a new one. -/

namespace OdooKeeper

structure JobReport where
  status : ConditionStatus
  reason : String
  message : String
deriving DecidableEq

/-- What one run decided. The updates count even when the run failed; `requeue` is the time after
which to look again, in seconds. -/
structure Outcome where
  updates : List StatusUpdate := []
  report : Option JobReport := none
  requeue : Option Nat := none
  failure : Option Failure := none

namespace InitJob

/-- Deletes the pods of a job and then the job. -/
def remove (ns job : String) : Attempt Unit := do
  let pods ← Attempt.request .initJobPod .list job (Program.list .pod ns ("job-name=" ++ job))
  pods.forM fun pod =>
    let name := pod.metadata.anyName
    Attempt.request .initJobPod .delete name (Program.delete .pod ns name)
  Attempt.request .initJob .delete job (Program.delete .job ns job)

/-- Whether the job of a name can stand in for a new one: it is in flight and installs exactly the
modules. Any other job is removed. -/
def reusable (ns name : String) (modules : List String) : Attempt Bool := do
  let found : Option Job ← Attempt.request .initJob .get name (Program.get .job ns name)
  match found with
  | none => pure false
  | some job =>
    if job.isInFlight && job.modules? = some modules then pure true
    else
      remove ns name
      pure false

/-- The outcome after a removal that may have failed. -/
def Outcome.after (outcome : Outcome) (requeue : Nat) : Except Failure Unit → Outcome
  | .ok () => { outcome with requeue := some requeue }
  | .error failure => { outcome with failure := some failure }

def advance (poll : Nat) (ns : String) (record : JobRecord) (job : Job) : Program Outcome :=
  match job.phase with
  | .pending | .running =>
    pure
      { report := some
          ⟨.unknown, "InitJobRunning", s!"init job {record.name} is still running"⟩
        requeue := some poll }
  | .succeeded => do
    let installed := ",".intercalate record.modules
    let outcome : Outcome :=
      { updates := [.initJobSucceeded]
        report := some
          ⟨.true, "InitJobSucceeded", s!"init job {record.name} installed {installed}"⟩ }
    let removed ← (remove ns record.name).run
    pure (Outcome.after outcome poll removed)
  | .failed => do
    let outcome : Outcome :=
      { updates := [.initJobCleared]
        report := some
          ⟨.false, "InitJobFailed", s!"init job {record.name} failed; it will be recreated"⟩ }
    let removed ← (remove ns record.name).run
    pure (Outcome.after outcome poll removed)

/-- The outcome when the job of a name has been started. -/
def started (poll : Nat) (app : App) (updates : List StatusUpdate) : Outcome where
  updates :=
    updates ++
      [.initJobStarted
        { name := app.initJobName, ns := app.space, modules := app.content.spec.modules }]
  report := some ⟨.unknown, "InitJobCreated", s!"init job {app.initJobName} created"⟩
  requeue := some poll

/-- Starts a job when modules have to be installed. `updates` are those of the run so far. -/
def startIfNeeded (poll : Nat) (app : App) (installed : List String)
    (updates : List StatusUpdate) : Program Outcome :=
  if !needsInit installed app.content.spec.modules then pure { updates }
  else do
    let name := app.initJobName
    let created ← Program.create app.space (app.initJob.ensureOwner app)
    match created with
    | .ok _ => pure (started poll app updates)
    | .error (.conflict _) =>
      match ← (reusable app.space name app.content.spec.modules).run with
      | .ok true => pure (started poll app updates)
      | .ok false =>
        pure
          { updates
            report := some
              ⟨.unknown, "InitJobReplaced", s!"stale init job {name} removed; a new one follows"⟩
            requeue := some poll }
      | .error failure => pure { updates, failure := some failure }
    | .error cause => pure { updates, failure := some (.store .initJob .create name cause) }

/-- The namespace of a recorded job: that of the app when none is recorded. -/
def recordedSpace (app : App) (record : JobRecord) : String :=
  if record.ns = "" then app.space else record.ns

def track (poll : Nat) (app : App) (status : App.Status) : Program Outcome :=
  let record := status.initJob
  if record.isIdle then startIfNeeded poll app status.installed []
  else do
    let ns := recordedSpace app record
    match ← Program.get .job ns record.name with
    | .error cause => pure { failure := some (.store .initJob .get record.name cause) }
    | .ok none => startIfNeeded poll app status.installed [.initJobCleared]
    | .ok (some job) => advance poll ns record job

end InitJob

end OdooKeeper
