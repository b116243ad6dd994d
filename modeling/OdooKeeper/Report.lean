import OdooKeeper.App.Condition
import OdooKeeper.App.Names
import OdooKeeper.App.StatusUpdate
import OdooKeeper.Attempt
import OdooKeeper.Failure.Reason

/-! # Reporting on an app

The status that gathers during a pass, and writing it back. -/

namespace OdooKeeper

/-- An app as it was loaded and its status as it is now. After a write, the app bears the version
and the status that were stored. -/
structure Report where
  app : App
  status : App.Status

namespace Report

def start (app : App) : Report := ⟨app, app.content.status.getD {}⟩

def apply (r : Report) (updates : List StatusUpdate) : Report :=
  { r with status := StatusUpdate.applyAll r.status updates }

/-- The report with a condition set, for the generation of the app. -/
def setCondition (r : Report) (now : Timestamp) (type : ConditionType) (status : ConditionStatus)
    (reason message : String) : Report :=
  let update : Condition.Update :=
    { type, status, reason, message, generation := r.app.metadata.generation }
  { r with
    status := { r.status with conditions := Condition.set update now r.status.conditions } }

/-- The two conditions about the pass, which always say opposite things. -/
def setOutcome (r : Report) (now : Timestamp) (degraded : Bool) (reason message : String) :
    Report :=
  let status (b : Bool) : ConditionStatus := if b then .true else .false
  (r.setCondition now .operatorDegraded (status degraded) reason message).setCondition now
    .operatorSucceeded (status (!degraded)) reason message

/-- The report of a pass that failed at the object of a role. -/
def fail (r : Report) (now : Timestamp) (role : Role) (failure : Failure) : Report :=
  r.setOutcome now true (failure.reason role) failure.message

def succeed (r : Report) (now : Timestamp) : Report :=
  r.setOutcome now false "ReconcileSucceeded" ""

/-- Writes the status. The version that the store gives it is used for the next write. -/
def persist (r : Report) : Program (Except Failure Unit × Report) := do
  let app : App := { r.app with content := { r.app.content with status := some r.status } }
  match ← Program.replaceStatus app with
  | .ok stored =>
    let metadata := { app.metadata with resourceVersion := stored.metadata.resourceVersion }
    pure (.ok (), { r with app := { app with metadata } })
  | .error cause =>
    pure (.error (.store .app .updateStatus app.metadata.anyName cause), { r with app })

/-- Writes the status after a failure. A refused write is reported beside the failure. -/
def persistWith (r : Report) (failure : Failure) : Program (Failure × Report) := do
  match ← r.persist with
  | (.ok (), r) => pure (failure, r)
  | (.error refused, r) => pure (.several [failure, refused], r)

def save (r : Report) : Attempt Report :=
  ExceptT.mk (r.persist >>= fun (result, r) => pure (result.map fun _ => r))

/-- Ends a pass with a failure at the object of a role. -/
def abort {α : Type} (r : Report) (now : Timestamp) (role : Role) (failure : Failure) : Attempt α :=
  ExceptT.mk ((r.fail now role failure).persistWith failure >>= fun (failure, _) =>
    pure (.error failure))

end Report

end OdooKeeper
