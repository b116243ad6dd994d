import OdooKeeper.App.Status

/-! # Setting conditions

A list of conditions has at most one of each type. The time of a condition moves only when its
status changes. -/

namespace OdooKeeper

inductive ConditionType where
  | operatorDegraded
  | operatorSucceeded
  | databaseInitialized
deriving DecidableEq, Repr

namespace ConditionType

def all : List ConditionType := [.operatorDegraded, .operatorSucceeded, .databaseInitialized]

def name : ConditionType → String
  | .operatorDegraded => "OperatorDegraded"
  | .operatorSucceeded => "OperatorSucceeded"
  | .databaseInitialized => "DatabaseInitialized"

def ofName? (name : String) : Option ConditionType := all.find? fun t => t.name = name

end ConditionType

/-- What is said about the subject of a condition. -/
inductive ConditionStatus where
  | true
  | false
  | unknown
deriving DecidableEq, Repr

namespace ConditionStatus

def all : List ConditionStatus := [.true, .false, .unknown]

def name : ConditionStatus → String
  | .true => "True"
  | .false => "False"
  | .unknown => "Unknown"

def ofName? (name : String) : Option ConditionStatus := all.find? fun s => s.name = name

end ConditionStatus

namespace Condition

structure Update where
  type : ConditionType
  status : ConditionStatus
  reason : String
  message : String
  generation : Option Int64 := none
deriving DecidableEq

def Update.fresh (u : Update) (now : Timestamp) : Condition where
  type := u.type.name
  status := u.status.name
  reason := u.reason
  message := u.message
  observedGeneration := u.generation
  lastTransitionTime := now

/-- A condition of the update's type after the update. -/
def Update.revise (u : Update) (now : Timestamp) (c : Condition) : Condition :=
  { u.fresh now with
    lastTransitionTime := if c.status = u.status.name then c.lastTransitionTime else now }

/-- Sets a condition in the place of the one of its type, or behind all others. -/
def set (u : Update) (now : Timestamp) : List Condition → List Condition
  | [] => [u.fresh now]
  | c :: rest => if c.type = u.type.name then u.revise now c :: rest else c :: set u now rest

def find? (type : ConditionType) (conditions : List Condition) : Option Condition :=
  conditions.find? fun c => c.type = type.name

end Condition

end OdooKeeper
