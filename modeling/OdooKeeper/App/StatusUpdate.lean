import OdooKeeper.App.Status

/-! # Changes of a status -/

namespace OdooKeeper

inductive StatusUpdate where
  | adminSecret (name : String)
  | configSecret (name : String)
  | dataClaim (name : String)
  | initJobStarted (record : JobRecord)
  | initJobSucceeded
  | initJobCleared
deriving DecidableEq

namespace StatusUpdate

/-- The status after a change. When the job in flight has succeeded, its modules are the installed
ones; either way none is in flight then. -/
def apply (status : App.Status) : StatusUpdate → App.Status
  | .adminSecret name => { status with adminSecretName := some name }
  | .configSecret name => { status with configSecretName := some name }
  | .dataClaim name => { status with dataClaimName := some name }
  | .initJobStarted record => { status with initJob := record }
  | .initJobSucceeded => { status with installed := status.initJob.modules, initJob := {} }
  | .initJobCleared => { status with initJob := {} }

def applyAll (status : App.Status) (updates : List StatusUpdate) : App.Status :=
  updates.foldl apply status

end StatusUpdate

end OdooKeeper
