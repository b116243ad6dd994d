import OdooKeeper.Failure

/-! # Reasons

One word for what went wrong, as conditions bear it. -/

namespace OdooKeeper

/-- The reason for a failed store operation on an object. -/
def Role.reason (role : Role) (operation : Operation) : String :=
  let pick (read create other : String) : String :=
    if operation.isRead then read else if operation = .create then create else other
  match role with
  | .app => pick "FailedToGetOdooDeployment" "FailedToUpdateStatus" "FailedToUpdateStatus"
  | .adminSecret =>
    pick "OdooAdminSecretNotAvailable" "OdooAdminSecretCreationFailed" "OdooAdminSecretUpdateFailed"
  | .configSecret =>
    pick "OdooConfigSecretNotAvailable" "OdooConfigSecretCreationFailed"
      "OdooConfigSecretUpdateFailed"
  | .referencedSecret => "DbConnectionDetailsFailed"
  | .filestore => pick "PvcNotAvailable" "PvcCreationFailed" "PvcUpdateFailed"
  | .initJob => pick "FailedToGetInitJob" "InitJobCreationFailed" "FailedToDeleteInitJob"
  | .initJobPod => pick "FailedToListPods" "FailedToDeletePod" "FailedToDeletePod"
  | .workload => pick "FailedToGetDeployment" "DeploymentCreationFailed" "DeploymentUpdateFailed"
  | .httpService => pick "FailedGetHttpService" "FailedCreateHttpService" "FailedUpdateHttpService"
  | .pollService => pick "FailedGetPollService" "FailedCreatePollService" "FailedUpdatePollService"

/-- The reason for a failure while the object of a role was brought to its desired state. Of several
failures the first one gives the reason. -/
def Failure.reason (role : Role) : Failure → String
  | .connection _ _ | .credentialMissing => "DbConnectionDetailsFailed"
  | .secretNotFound _ | .keyNotFound _ _ | .invalidValue _ _ _ => "DbConnectionDetailsFailed"
  | .adminPasswordMissing _ _ => "OdooAdminPasswordFailed"
  | .claimMissing _ => "PvcNotAvailable"
  | .store failed operation _ _ => failed.reason operation
  | .several [] => role.reason .create
  | .several (first :: _) => first.reason role
  | .serialization _ => role.reason .create

end OdooKeeper
