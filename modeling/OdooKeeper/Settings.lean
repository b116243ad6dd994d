import OdooKeeper.Decimal.Integer
import OdooKeeper.Pass
import OdooKeeper.Text.Blank

/-! # Settings

How the keeper is run. Each setting is the value of a variable; a blank value counts as none. -/

namespace OdooKeeper

inductive LogFormat where
  | compact
  | json
deriving DecidableEq, Repr

/-- All settings; times are in seconds. Without a namespace, all namespaces are watched. -/
structure Settings where
  ns : Option String := none
  concurrency : Nat := 2
  resync : Nat := 300
  logLevel : String := "info"
  logFormat : LogFormat := .compact
  pass : PassSettings := {}
deriving DecidableEq

namespace Settings

inductive Flaw where
  | number (name raw : String) (fault : Decimal.Fault)
  | truth (name raw : String)
  | logFormat (word : String)
deriving DecidableEq, Repr

def Flaw.message : Flaw → String
  | .number name raw fault => s!"parse {name}={Text.quoted raw}: {fault.message}"
  | .truth name raw => s!"parse {name}={Text.quoted raw}: provided string was not `true` or `false`"
  | .logFormat word => s!"unknown log format {Text.quoted word} (expected compact|json)"

/-- The log format of a word, in any case and with blanks around it. -/
def readLogFormat (text : String) : Except Flaw LogFormat :=
  let word := Text.lowerAscii (Text.trim text)
  if word = "compact" ∨ word = "text" ∨ word = "auto" then .ok .compact
  else if word = "json" then .ok .json
  else .error (.logFormat word)

/-- The value of a variable that is not blank. -/
def given? (lookup : String → Option String) (name : String) : Option String :=
  (lookup name).filter fun value => !Text.isAllBlank value

/-- A number up to `limit`, or `default` when the variable is not given. -/
def numberOr (lookup : String → Option String) (name : String) (limit default : Nat) :
    Except Flaw Nat :=
  match given? lookup name with
  | none => .ok default
  | some raw => (Decimal.natural limit (Text.trim raw)).mapError (.number name raw)

/-- A truth value, or `default` when the variable is not given. -/
def truthOr (lookup : String → Option String) (name : String) (default : Bool) :
    Except Flaw Bool :=
  match given? lookup name with
  | none => .ok default
  | some raw =>
    let word := Text.trim raw
    if word = "true" then .ok true
    else if word = "false" then .ok false
    else .error (.truth name raw)

/-- The largest number of passes at a time that can be asked for. -/
def concurrencyLimit : Nat := UInt16.size - 1

def secondsLimit : Nat := UInt64.size - 1

/-- Reads the settings from the values of variables. The first variable with a bad value decides on
the flaw. -/
def ofLookup (lookup : String → Option String) : Except Flaw Settings := do
  let standard : Settings := {}
  let ns := (given? lookup "ODOO_OPERATOR_NAMESPACE").map Text.trim
  let concurrency ←
    numberOr lookup "ODOO_OPERATOR_CONCURRENCY" concurrencyLimit standard.concurrency
  let requeueTransient ←
    numberOr lookup "ODOO_OPERATOR_REQUEUE_SECS" secondsLimit standard.pass.requeueTransient
  let requeueJobPoll ←
    numberOr lookup "ODOO_OPERATOR_JOB_POLL_SECS" secondsLimit standard.pass.requeueJobPoll
  let resync ← numberOr lookup "ODOO_OPERATOR_RESYNC_SECS" secondsLimit standard.resync
  let gateWorkload ← truthOr lookup "ODOO_OPERATOR_GATE_WORKLOAD" standard.pass.gateWorkload
  let logLevel :=
    ((given? lookup "ODOO_OPERATOR_LOG_LEVEL").map Text.trim).getD standard.logLevel
  let logFormat ←
    match given? lookup "ODOO_OPERATOR_LOG_FORMAT" with
    | none => .ok standard.logFormat
    | some raw => readLogFormat raw
  .ok
    { ns, concurrency, resync, logLevel, logFormat
      pass := { requeueTransient, requeueJobPoll, gateWorkload } }

end Settings

end OdooKeeper
