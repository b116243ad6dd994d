import OdooKeeper.App.Desired
import OdooKeeper.Text.Segments

/-! # Observing the init job -/

namespace OdooKeeper

inductive JobPhase where
  | pending
  | running
  | succeeded
  | failed
deriving DecidableEq, Repr

/-- How often a job tries when it does not say so. -/
def defaultBackoffLimit : Int32 := 6

namespace Job

def Status.holds (s : Job.Status) (type : String) : Bool :=
  (s.conditions.getD []).any fun c => c.type = type && c.status = "True"

/-- How far a job has come. Success outweighs failure, and a failed condition outweighs running
pods; without one, a job has failed when no pod runs and more have failed than it may try. -/
def phase (job : Job) : JobPhase :=
  match job.content.status with
  | none => .pending
  | some status =>
    if status.holds "Complete" || 0 < status.succeeded.getD 0 then .succeeded
    else if status.holds "Failed" then .failed
    else if 0 < status.active.getD 0 then .running
    else
      let limit := (job.content.spec.bind fun s => s.backoffLimit).getD defaultBackoffLimit
      if limit < status.failed.getD 0 then .failed else .pending

/-- Whether the job may still come to an end of its own. -/
def isInFlight (job : Job) : Bool := job.phase = .pending || job.phase = .running

def argumentAfter? (argument : String) : List String → Option String
  | [] => none
  | a :: rest => if a = argument then rest.head? else argumentAfter? argument rest

/-- The modules that the command of a job installs. -/
def modules? (job : Job) : Option (List String) := do
  let spec ← job.content.spec
  let pod ← spec.template.spec
  let container ← pod.containers.head?
  let command ← container.command
  let argument ← argumentAfter? "--init" command
  some ((Text.segments ',' argument).filter fun m => m ≠ "")

end Job

/-- Whether modules have to be installed: nothing is installed yet, or the number of modules
differs. An empty list never asks for a job. -/
def needsInit (installed desired : List String) : Bool :=
  !desired.isEmpty && (installed.isEmpty || installed.length ≠ desired.length)

end OdooKeeper
