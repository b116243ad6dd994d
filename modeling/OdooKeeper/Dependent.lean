import OdooKeeper.App.StatusUpdate
import OdooKeeper.Attempt
import OdooKeeper.Owner

/-! # Dependents

An object that serves an app is brought to its desired state in one way for all: read it, work out
how it should be, and create or replace it when it is not so. -/

namespace OdooKeeper

/-- An object that serves an app. Those that are created only are left exactly as they are found. -/
structure Dependent (k : Kind) where
  role : Role
  name : App → String
  /-- Whether the object belongs to the app. -/
  owned : App → Bool := fun _ => true
  /-- Whether an object that exists is left alone. -/
  createOnly : Bool := false
  /-- The object as it should be, given the one that exists. -/
  desired : App → Option (Object k) → Attempt (Object k)
  /-- Whether the object that exists is not as it should be. -/
  drifted : Object k → Object k → Bool
  /-- The object that exists with what should be different. -/
  merge : Object k → Object k → Object k
  /-- What the status of the app says about the object. -/
  recorded : String → Option StatusUpdate := fun _ => none

inductive Action where
  | created
  | updated
  | unchanged
deriving DecidableEq, Repr

/-- An object in its desired state and what was done to it. -/
structure Converged (k : Kind) where
  object : Object k
  action : Action

namespace Dependent

variable {k : Kind}

/-- The object with a reference to the app, if it belongs to the app. -/
def withOwner (d : Dependent k) (app : App) (object : Object k) : Object k :=
  if d.owned app then object.ensureOwner app else object

/-- Whether the object that exists has to be written: it is not as it should be, or has lost its
reference to the app. -/
def needsWrite (d : Dependent k) (app : App) (live desired : Object k) : Bool :=
  (d.owned app && !live.isControlledBy app) || d.drifted live desired

/-- Brings the object to its desired state with at most one write. -/
def converge (d : Dependent k) (app : App) : Attempt (Converged k) := do
  let ns := app.space
  let name := d.name app
  let live ← Attempt.request d.role .get name (Program.get k ns name)
  let desired ← d.desired app live
  match live with
  | none =>
    let object ← Attempt.request d.role .create name (Program.create ns (d.withOwner app desired))
    pure ⟨object, .created⟩
  | some live =>
    if d.createOnly || !d.needsWrite app live desired then pure ⟨live, .unchanged⟩
    else
      let next := d.withOwner app (d.merge live desired)
      let object ← Attempt.request d.role .update name (Program.replace ns next)
      pure ⟨object, .updated⟩

end Dependent

end OdooKeeper
