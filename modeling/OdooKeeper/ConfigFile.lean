import OdooKeeper.Connection

/-! # The configuration file

Equal settings give equal texts, so the secret with the file changes only when a setting does. -/

namespace OdooKeeper.ConfigFile

inductive Line where
  | heading (name : String)
  | blank
  | option (key value : String)
deriving DecidableEq, Repr

def Line.text : Line → String
  | .heading name => "[" ++ name ++ "]"
  | .blank => ""
  | .option key value => key ++ " = " ++ value

def integer (n : Int) : String := toString n

def truth (b : Bool) : String := if b then "true" else "false"

def lines (db : Connection) (config : RuntimeSettings) (adminPassword : String) : List Line :=
  [.heading "options",
    .option "admin_passwd" adminPassword,
    .option "data_dir" config.dataDir,
    .blank,
    .option "db_host" db.host,
    .option "db_port" (integer db.port.toInt),
    .option "db_user" db.user,
    .option "db_password" db.password,
    .option "db_maxconn" (integer db.maxConn.toInt),
    .option "db_name" db.name,
    .blank,
    .option "debug_mode" (truth config.debugMode),
    .option "without_demo" (truth config.withoutDemo),
    .option "proxy_mode" (truth config.proxyMode),
    .option "workers" (integer config.workers.toInt),
    .option "limit_memory_soft" (integer config.limitMemorySoft.toInt),
    .option "limit_memory_hard" (integer config.limitMemoryHard.toInt),
    .option "limit_request" (integer config.limitRequest.toInt),
    .option "limit_time_cpu" (integer config.limitTimeCpu.toInt),
    .option "limit_time_real" (integer config.limitTimeReal.toInt)]

/-- The text of the file: every line ends with a line feed. -/
def render (db : Connection) (config : RuntimeSettings) (adminPassword : String) : String :=
  String.join ((lines db config adminPassword).map fun line => line.text ++ "\n")

end OdooKeeper.ConfigFile
