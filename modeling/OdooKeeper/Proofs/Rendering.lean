import OdooKeeper.Proofs.Configuring
import OdooKeeper.Proofs.Removing

/-! # Reading the configuration file back

The file shows all settings but two, and as long as no text breaks a line each of them can be read
off its lines, whatever the texts say. So files differ exactly when settings that they show differ,
and the config secret is found to have drifted exactly when such a setting has changed. -/

namespace OdooKeeper

namespace ConfigFile

/-! ## Settings -/

/-- What a configuration file is made of. -/
structure Source where
  db : Connection
  config : RuntimeSettings
  adminPassword : String

/-- The settings that a configuration file shows. -/
structure Settings where
  adminPassword : String
  dataDir : String
  host : String
  port : Int32
  user : String
  password : String
  maxConn : Int32
  name : String
  debugMode : Bool
  withoutDemo : Bool
  proxyMode : Bool
  workers : Int32
  limitMemorySoft : Int64
  limitMemoryHard : Int64
  limitRequest : Int32
  limitTimeCpu : Int32
  limitTimeReal : Int32
deriving DecidableEq

namespace Source

def file (source : Source) : String := render source.db source.config source.adminPassword

def settings (source : Source) : Settings where
  adminPassword := source.adminPassword
  dataDir := source.config.dataDir
  host := source.db.host
  port := source.db.port
  user := source.db.user
  password := source.db.password
  maxConn := source.db.maxConn
  name := source.db.name
  debugMode := source.config.debugMode
  withoutDemo := source.config.withoutDemo
  proxyMode := source.config.proxyMode
  workers := source.config.workers
  limitMemorySoft := source.config.limitMemorySoft
  limitMemoryHard := source.config.limitMemoryHard
  limitRequest := source.config.limitRequest
  limitTimeCpu := source.config.limitTimeCpu
  limitTimeReal := source.config.limitTimeReal

def OneLine (source : Source) : Prop :=
  ∀ text ∈ freeTexts source.db source.config source.adminPassword, '\n' ∉ text.toList

variable {a b : Source}

theorem settings_eq_iff : a.settings = b.settings ↔
    { a.db with ssl := b.db.ssl } = b.db ∧
      { a.config with adminSecretName := b.config.adminSecretName } = b.config ∧
      a.adminPassword = b.adminPassword := by
  obtain ⟨⟨host, port, user, password, name, ssl, maxConn⟩, ⟨adminSecretName, debugMode, dataDir,
    withoutDemo, proxyMode, workers, limitRequest, limitTimeReal, limitTimeCpu, limitMemorySoft,
    limitMemoryHard⟩, adminPassword⟩ := b
  simp only [settings, Settings.mk.injEq, Connection.mk.injEq, RuntimeSettings.mk.injEq, true_and]
  constructor
  · rintro ⟨h₁, h₂, h₃, h₄, h₅, h₆, h₇, h₈, h₉, h₁₀, h₁₁, h₁₂, h₁₃, h₁₄, h₁₅, h₁₆, h₁₇⟩
    exact ⟨⟨h₃, h₄, h₅, h₆, h₈, h₇⟩, ⟨h₉, h₂, h₁₀, h₁₁, h₁₂, h₁₅, h₁₇, h₁₆, h₁₃, h₁₄⟩, h₁⟩
  · rintro ⟨⟨h₃, h₄, h₅, h₆, h₈, h₇⟩, ⟨h₉, h₂, h₁₀, h₁₁, h₁₂, h₁₅, h₁₇, h₁₆, h₁₃, h₁₄⟩, h₁⟩
    exact ⟨h₁, h₂, h₃, h₄, h₅, h₆, h₇, h₈, h₉, h₁₀, h₁₁, h₁₂, h₁₃, h₁₄, h₁₅, h₁₆, h₁₇⟩

theorem file_congr (h : a.settings = b.settings) : a.file = b.file := by
  obtain ⟨db, config, adminPassword⟩ := a
  obtain ⟨db', config', adminPassword'⟩ := b
  obtain ⟨hdb, hconfig, hpassword⟩ := settings_eq_iff.mp h
  unfold file
  rw [← hdb, ← hconfig, ← hpassword]
  rfl

end Source

/-! ## Reading lines -/

/-- The key and the value that a line gives: the key ends at the first blank. -/
def option? (line : String) : Option (String × String) :=
  match Text.cutAt? ' ' line.toList with
  | some (key, '=' :: ' ' :: value) => some (String.ofList key, String.ofList value)
  | _ => none

def readOptions (text : String) : List (String × String) :=
  (Text.filledLines text).filterMap option?

theorem option?_text {key value : String} (h : ' ' ∉ key.toList) :
    option? (key ++ " = " ++ value) = some (key, value) := by
  have hline : (key ++ " = " ++ value).toList =
      key.toList ++ ' ' :: '=' :: ' ' :: value.toList := by
    simp
  simp only [option?, hline, Text.cutAt?_append h, String.ofList_toList]

theorem filterMap_option? {l : List (String × String)} (h : ∀ e ∈ l, ' ' ∉ e.1.toList) :
    (l.map fun (key, value) => key ++ " = " ++ value).filterMap option? = l := by
  induction l with
  | nil => rfl
  | cons e rest ih =>
    obtain ⟨he, hrest⟩ := List.forall_mem_cons.mp h
    rw [List.map_cons, List.filterMap_cons, option?_text he, ih hrest]

theorem readOptions_file {source : Source} (h : source.OneLine) :
    readOptions source.file = options source.db source.config source.adminPassword := by
  have hkeys : ∀ e ∈ options source.db source.config source.adminPassword, ' ' ∉ e.1.toList := by
    simp [options]
  have hheading : option? "[options]" = none := by decide
  rw [readOptions, Source.file, filledLines_render_iff.mpr h, documented, List.filterMap_cons,
    hheading, filterMap_option? hkeys]

/-! ## Reading settings -/

def truth? (text : String) : Option Bool :=
  if text = "true" then some true else if text = "false" then some false else none

theorem truth?_truth (b : Bool) : truth? (truth b) = some b := by
  cases b <;> rfl

def int64? (text : String) : Option Int64 :=
  (Decimal.integer? 9223372036854775807 text.toList).map Int64.ofInt

theorem int64?_integer (n : Int64) : int64? (integer n.toInt) = some n := by
  have hlow := n.le_toInt
  have hhigh := n.toInt_lt
  rw [int64?, integer, Decimal.integer?_toString (by omega) (by omega), Option.map_some,
    Int64.ofInt_toInt]

def Settings.read? (text : String) : Option Settings := do
  let given := readOptions text
  let adminPassword ← given.lookup "admin_passwd"
  let dataDir ← given.lookup "data_dir"
  let host ← given.lookup "db_host"
  let port ← (given.lookup "db_port").bind Decimal.int32?
  let user ← given.lookup "db_user"
  let password ← given.lookup "db_password"
  let maxConn ← (given.lookup "db_maxconn").bind Decimal.int32?
  let name ← given.lookup "db_name"
  let debugMode ← (given.lookup "debug_mode").bind truth?
  let withoutDemo ← (given.lookup "without_demo").bind truth?
  let proxyMode ← (given.lookup "proxy_mode").bind truth?
  let workers ← (given.lookup "workers").bind Decimal.int32?
  let limitMemorySoft ← (given.lookup "limit_memory_soft").bind int64?
  let limitMemoryHard ← (given.lookup "limit_memory_hard").bind int64?
  let limitRequest ← (given.lookup "limit_request").bind Decimal.int32?
  let limitTimeCpu ← (given.lookup "limit_time_cpu").bind Decimal.int32?
  let limitTimeReal ← (given.lookup "limit_time_real").bind Decimal.int32?
  pure
    { adminPassword, dataDir, host, port, user, password, maxConn, name, debugMode, withoutDemo,
      proxyMode, workers, limitMemorySoft, limitMemoryHard, limitRequest, limitTimeCpu,
      limitTimeReal }

theorem Settings.read?_file {source : Source} (h : source.OneLine) :
    read? source.file = some source.settings := by
  have hint32 : ∀ n : Int32, Decimal.int32? (integer n.toInt) = some n := Decimal.int32?_toString
  unfold read?
  rw [readOptions_file h]
  simp [options, OrdMap.lookup_cons_ite, hint32, truth?_truth, int64?_integer, Source.settings]

theorem file_inj {a b : Source} (ha : a.OneLine) (hb : b.OneLine) :
    a.file = b.file ↔ a.settings = b.settings := by
  constructor
  · intro h
    have hread := Settings.read?_file ha
    rw [h, Settings.read?_file hb] at hread
    exact (Option.some.inj hread).symm
  · exact Source.file_congr

/-! ## Config secrets -/

/-- The secret is what the step of the config secret has made of a source: the one that it left, or
the one that it wanted. -/
inductive Source.Makes (source : Source) : Secret → Prop where
  | left {app : App} {s t u : Store} {c : Converged .secret}
      (config : app.content.spec.config = source.config)
      (connection : (Connection.resolve app).Gives
        (s.recording (.get .secret app.space app.configSecretName)) source.db t)
      (h : ((Dependent.configSecret source.adminPassword).converge app).Gives s c u) :
      Makes source c.object
  | wanted {app : App} {live : Option Secret} {s t u : Store} {secret : Secret}
      (config : app.content.spec.config = source.config)
      (connection : (Connection.resolve app).Gives s source.db t)
      (h : ((Dependent.configSecret source.adminPassword).desired app live).Gives s secret u) :
      Makes source secret

theorem Source.Makes.data {source : Source} {secret : Secret} (h : source.Makes secret) :
    secret.content.data =
      some (OrdMap.singleton configFileKey (Bytes.ofText source.file)) := by
  have hsame : ∀ {app : App} {s t v : Store} {db : Connection},
      (Connection.resolve app).Gives s source.db t → (Connection.resolve app).Gives s db v →
      db = source.db := by
    intro app s t v db h h'
    exact (Except.ok.inj (congrArg Prod.fst (h.symm.trans h'))).symm
  cases h with
  | left config connection h =>
    obtain ⟨db, v, hdb, hdata⟩ := Step.configSecret_file h
    rw [hdata, config, hsame connection hdb]
    rfl
  | wanted config connection h =>
    obtain ⟨db, v, hdb, hpure⟩ := Attempt.gives_bind.mp h
    obtain ⟨rfl, -⟩ := Attempt.gives_pure.mp hpure
    rw [config, hsame connection hdb]
    rfl

theorem drifted_iff {a b : Source} {live desired : Secret} (ha : a.Makes live)
    (hb : b.Makes desired) :
    (Dependent.configSecret b.adminPassword).drifted live desired = true ↔ a.file ≠ b.file := by
  have hsingle : ∀ x y : Bytes, OrdMap.singleton configFileKey x =
      OrdMap.singleton configFileKey y ↔ x = y := by
    intro x y
    simp [OrdMap.singleton]
  simp only [Dependent.configSecret, ha.data, hb.data, decide_eq_true_eq, ne_eq,
    Option.some.injEq, hsingle, Bytes.ofText_inj]

/-- As long as no text breaks a line, files are equal exactly when the settings are that they show,
each of which can be read off the lines of the file. -/
theorem file_shows_settings {a b : Source} (ha : a.OneLine) (hb : b.OneLine) :
    (a.file = b.file ↔ a.settings = b.settings) ∧
      (a.settings = b.settings ↔
        { a.db with ssl := b.db.ssl } = b.db ∧
          { a.config with adminSecretName := b.config.adminSecretName } = b.config ∧
          a.adminPassword = b.adminPassword) ∧
      Settings.read? a.file = some a.settings ∧
      ∀ live desired, a.Makes live → b.Makes desired →
        ((Dependent.configSecret b.adminPassword).drifted live desired = true ↔
          a.settings ≠ b.settings) := by
  refine ⟨file_inj ha hb, Source.settings_eq_iff, Settings.read?_file ha, ?_⟩
  intro live desired hlive hdesired
  rw [drifted_iff hlive hdesired, ne_eq, ne_eq, file_inj ha hb]

end ConfigFile

namespace Sample

/-- The sample app, with a directory whose name looks like another option. -/
def working (workers : Int32) : App :=
  { App.sample key.name key.ns with
    content.spec.config := { workers, dataDir := "/data # [x] workers = 9" } }

def source (workers : Int32) : ConfigFile.Source where
  db :=
    { host := "postgres.db.svc"
      port := 5432
      user := "odoo"
      password := "hunter2"
      name := "odoo"
      ssl := false
      maxConn := 20 }
  config := (working workers).content.spec.config
  adminPassword := ""

theorem source_oneLine (workers : Int32) : (source workers).OneLine := by
  unfold ConfigFile.Source.OneLine
  simp [source, working, ConfigFile.freeTexts]

end Sample

theorem ConfigFile.file_shows_settings_sample : ∃ live desired : Secret,
    (Sample.source 2).Makes live ∧ (Sample.source 4).Makes desired ∧
      (Dependent.configSecret "").drifted live desired = true ∧
      Settings.read? (Sample.source 2).file = some (Sample.source 2).settings := by
  obtain ⟨-, -, hread, hdrift⟩ :=
    file_shows_settings (Sample.source_oneLine 2) (Sample.source_oneLine 4)
  have hconnection : ((Connection.resolve (Sample.working 2)).run.run (Sample.store.recording
        (.get .secret (Sample.working 2).space (Sample.working 2).configSecretName))).1.toOption =
      some (Sample.source 2).db ∧
    ((Connection.resolve (Sample.working 4)).run.run Sample.store).1.toOption =
      some (Sample.source 4).db := by decide +kernel
  obtain ⟨c, hconverge⟩ : ∃ c, (((Dependent.configSecret "").converge
      (Sample.working 2)).run.run Sample.store).1.toOption = some c :=
    Option.isSome_iff_exists.mp (by decide +kernel)
  obtain ⟨desired, hdesired⟩ : ∃ desired, (((Dependent.configSecret "").desired
      (Sample.working 4) none).run.run Sample.store).1.toOption = some desired :=
    Option.isSome_iff_exists.mp (by decide +kernel)
  have hleft : (Sample.source 2).Makes c.object :=
    .left rfl (Attempt.gives_of_toOption hconnection.1) (Attempt.gives_of_toOption hconverge)
  have hwanted : (Sample.source 4).Makes desired :=
    .wanted rfl (Attempt.gives_of_toOption hconnection.2) (Attempt.gives_of_toOption hdesired)
  exact ⟨c.object, desired, hleft, hwanted, (hdrift _ _ hleft hwanted).mpr (by decide), hread⟩

end OdooKeeper
