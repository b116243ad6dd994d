import OdooKeeper.Json.Flaw
import OdooKeeper.Store.Request
import OdooKeeper.Text.Quoted

/-! # Failures

What can go wrong while an app is brought to its desired state. -/

namespace OdooKeeper

/-! ## Where things go wrong -/

inductive ConnectionField where
  | host
  | port
  | user
  | password
  | name
  | ssl
  | maxConn
deriving DecidableEq, Repr

def ConnectionField.label : ConnectionField → String
  | .host => "host"
  | .port => "port"
  | .user => "user"
  | .password => "password"
  | .name => "name"
  | .ssl => "ssl"
  | .maxConn => "maxConn"

inductive Role where
  | app
  | adminSecret
  | configSecret
  | referencedSecret
  | filestore
  | initJob
  | initJobPod
  | workload
  | httpService
  | pollService
deriving DecidableEq, Repr

def Role.label : Role → String
  | .app => "odoo deployment"
  | .adminSecret => "admin password secret"
  | .configSecret => "config secret"
  | .referencedSecret => "referenced secret"
  | .filestore => "filestore pvc"
  | .initJob => "init job"
  | .initJobPod => "init job pod"
  | .workload => "deployment"
  | .httpService => "http service"
  | .pollService => "poll service"

inductive Operation where
  | get
  | list
  | create
  | update
  | delete
  | updateStatus
deriving DecidableEq, Repr

def Operation.label : Operation → String
  | .get => "get"
  | .list => "list"
  | .create => "create"
  | .update => "update"
  | .delete => "delete"
  | .updateStatus => "update status of"

def Operation.isRead : Operation → Bool
  | .get | .list => true
  | _ => false

/-! ## Failures -/

/-- Why an app could not be brought to its desired state. -/
inductive Failure where
  | secretNotFound (name : String)
  | keyNotFound (name key : String)
  | invalidValue (name key expected : String)
  | credentialMissing
  | connection (field : ConnectionField) (cause : Failure)
  | adminPasswordMissing (secret key : String)
  | claimMissing (name : String)
  | store (role : Role) (operation : Operation) (name : String) (cause : StoreError)
  | several (failures : List Failure)
  | serialization (cause : Json.Located)

namespace Failure

mutual

/-- The wording of a failure. Values of secrets are never part of it. -/
def message : Failure → String
  | .secretNotFound name => s!"secret {name} not found"
  | .keyNotFound name key => s!"key {key} not found in secret {name}"
  | .invalidValue name key expected => s!"key {key} of secret {name} is not a valid {expected}"
  | .credentialMissing => "no database password configured (set passwordFromSecret)"
  | .connection field cause => s!"failed to resolve database {field.label}: " ++ cause.message
  | .adminPasswordMissing secret key =>
    s!"admin password secret {secret} has no usable {Text.quoted key} key"
  | .claimMissing name => s!"pvc {name} does not exist and createIfNotExists is disabled"
  | .store role operation name cause =>
    s!"failed to {operation.label} {role.label} {name}: {cause.message}"
  | .several failures => "[" ++ ", ".intercalate (messages failures) ++ "]"
  | .serialization cause => s!"serialization failed: {cause.text}"

def messages : List Failure → List String
  | [] => []
  | f :: rest => f.message :: messages rest

end

/-- The failures inside a failure, without looking into those. -/
def parts : Failure → List Failure
  | .several failures => failures
  | f => [f]

/-- One failure for several, so that none is lost. A single failure stays as it is. -/
def combine (failures : List Failure) : Option Failure :=
  match failures.flatMap parts with
  | [] => none
  | [f] => some f
  | fs => some (.several fs)

mutual

/-- Whether the failure happened while the init job was driven. -/
def isJobLifecycle : Failure → Bool
  | .store role _ _ _ => role = .initJob || role = .initJobPod
  | .several failures => anyJobLifecycle failures
  | _ => false

/-- Whether one of the failures happened while the init job was driven. -/
def anyJobLifecycle : List Failure → Bool
  | [] => false
  | f :: rest => f.isJobLifecycle || anyJobLifecycle rest

end

end Failure

end OdooKeeper
