import OdooKeeper.Dependents
import OdooKeeper.InitJob.Tracker
import OdooKeeper.Report

/-! # Passes

A pass brings everything that serves one app to its desired state, in a fixed order, and writes the
status after every step. It ends at the first failure. -/

namespace OdooKeeper

/-- How passes go: seconds until a failed pass is tried again, seconds until a job in flight is
looked at again, and whether the workload waits for the init job. -/
structure PassSettings where
  requeueTransient : Nat := 15
  requeueJobPoll : Nat := 30
  gateWorkload : Bool := true
deriving DecidableEq, Repr

def Failure.requeueAfter (settings : PassSettings) (failure : Failure) : Nat :=
  if failure.isJobLifecycle then settings.requeueJobPoll else settings.requeueTransient

namespace Pass

/-- Brings one dependent to its desired state and writes the status either way. -/
def step {k : Kind} (now : Timestamp) (d : Dependent k) (r : Report) :
    Attempt (Object k × Report) :=
  ExceptT.mk do
    match ← (d.converge r.app).run with
    | .ok converged =>
      let saved ← (r.apply (d.recorded converged.object.metadata.anyName).toList).save.run
      pure (saved.map fun r => (converged.object, r))
    | .error failure => (r.abort now d.role failure).run

/-- Drives the init job and writes the status either way. -/
def jobStep (settings : PassSettings) (now : Timestamp) (r : Report) :
    Attempt (Option Nat × Report) := do
  let outcome ← InitJob.track settings.requeueJobPoll r.app r.status
  let r := r.apply outcome.updates
  let r := match outcome.report with
    | some c => r.setCondition now .databaseInitialized c.status c.reason c.message
    | none => r
  match outcome.failure with
  | some failure => r.abort now .initJob failure
  | none =>
    let r ← r.save
    pure (outcome.requeue, r)

/-- The pass of an app that has been loaded. -/
def converge (settings : PassSettings) (now : Timestamp) (fresh : String) (app : App) :
    Attempt (Option Nat) := do
  let r := Report.start app
  let (secret, r) ← step now (.adminSecret fresh) r
  match adminPassword secret with
  | .error failure => r.abort now .configSecret failure
  | .ok password =>
    let (_, r) ← step now (.configSecret password) r
    let (_, r) ← step now .filestore r
    let (requeue, r) ← jobStep settings now r
    if requeue.isSome && settings.gateWorkload then pure requeue
    else
      let (_, r) ← step now .deployment r
      let (_, r) ← step now (.service .http) r
      let (_, r) ← step now (.service .poll) r
      let _ ← (r.succeed now).save
      pure requeue

end Pass

/-- One pass over the app with a name. It gives the seconds after which to look again, if it has to
look again; an app that is gone needs nothing. `now` is the time of the pass and `fresh` a password
that nobody knows. -/
def reconcile (settings : PassSettings) (now : Timestamp) (fresh : String) (ns name : String) :
    Attempt (Option Nat) := do
  let found ← Attempt.request .app .get name (Program.get .app ns name)
  match found with
  | none => pure none
  | some app => Pass.converge settings now fresh app

end OdooKeeper
