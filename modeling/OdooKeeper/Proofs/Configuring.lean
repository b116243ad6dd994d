import OdooKeeper.Proofs.Failing
import OdooKeeper.Proofs.Mounting
import OdooKeeper.Proofs.Numerals

/-! # The lines of the configuration file

The configuration file has one line for each option, and nothing else that is not blank, exactly when
no text that it tells contains a line feed. A line feed begins a line of its own, whatever the user or
a secret has put after it. -/

namespace OdooKeeper

/-! ## Lines -/

def Text.filledLines (text : String) : List String :=
  (segments '\n' text).filter fun line => line ≠ ""

theorem Text.segmentsOf_lines (lines : List (List Char)) :
    segmentsOf '\n' (lines.flatMap fun line => line ++ ['\n']) =
      lines.flatMap (segmentsOf '\n') ++ [[]] := by
  induction lines with
  | nil => rfl
  | cons line rest ih =>
    rw [List.flatMap_cons, List.append_assoc, List.singleton_append, segmentsOf_append, ih,
      List.flatMap_cons, List.append_assoc]

theorem Text.filledLines_join (lines : List String) :
    filledLines (String.join (lines.map fun line => line ++ "\n")) = lines.flatMap filledLines := by
  have htext : (String.join (lines.map fun line => line ++ "\n")).toList =
      (lines.map String.toList).flatMap fun line => line ++ ['\n'] := by
    simp [String.toList_join, List.flatMap_map]
  rw [filledLines, segments, htext, segmentsOf_lines]
  simp only [List.flatMap_map, List.map_append, List.map_flatMap, List.filter_append,
    List.filter_flatMap]
  exact List.append_nil _

theorem Text.flatMap_filledLines {lines : List String} (h : ∀ line ∈ lines, '\n' ∉ line.toList) :
    lines.flatMap filledLines = lines.filter fun line => line ≠ "" := by
  induction lines with
  | nil => rfl
  | cons line rest ih =>
    obtain ⟨hline, hrest⟩ := List.forall_mem_cons.mp h
    rw [List.flatMap_cons, ih hrest, filledLines, segments, segmentsOf_self hline, List.map_singleton,
      String.ofList_toList, ← List.filter_append, List.singleton_append]

namespace ConfigFile

variable {db : Connection} {config : RuntimeSettings} {adminPassword : String}

def options (db : Connection) (config : RuntimeSettings) (adminPassword : String) :
    List (String × String) :=
  [("admin_passwd", adminPassword),
    ("data_dir", config.dataDir),
    ("db_host", db.host),
    ("db_port", integer db.port.toInt),
    ("db_user", db.user),
    ("db_password", db.password),
    ("db_maxconn", integer db.maxConn.toInt),
    ("db_name", db.name),
    ("debug_mode", truth config.debugMode),
    ("without_demo", truth config.withoutDemo),
    ("proxy_mode", truth config.proxyMode),
    ("workers", integer config.workers.toInt),
    ("limit_memory_soft", integer config.limitMemorySoft.toInt),
    ("limit_memory_hard", integer config.limitMemoryHard.toInt),
    ("limit_request", integer config.limitRequest.toInt),
    ("limit_time_cpu", integer config.limitTimeCpu.toInt),
    ("limit_time_real", integer config.limitTimeReal.toInt)]

/-- The file as it is documented: a heading and one line for each option. -/
def documented (db : Connection) (config : RuntimeSettings) (adminPassword : String) : List String :=
  "[options]" :: (options db config adminPassword).map fun (key, value) => key ++ " = " ++ value

/-- The values of the file that can be any text. -/
def freeTexts (db : Connection) (config : RuntimeSettings) (adminPassword : String) : List String :=
  [adminPassword, config.dataDir, db.host, db.user, db.password, db.name]

theorem integer_one_line (n : Int) : '\n' ∉ (integer n).toList := by
  intro hmem
  rcases (Decimal.denotes_toString n).mem hmem with hdigit | hplus | hminus
  · exact absurd hdigit (by decide)
  · cases hplus
  · cases hminus

theorem truth_one_line (b : Bool) : '\n' ∉ (truth b).toList := by
  cases b <;> decide

theorem documented_filled (db : Connection) (config : RuntimeSettings) (adminPassword : String) :
    ((lines db config adminPassword).map Line.text).filter (fun line => line ≠ "") =
      documented db config adminPassword := by
  simp [lines, Line.text, documented, options]

theorem lines_one_line (h : ∀ text ∈ freeTexts db config adminPassword, '\n' ∉ text.toList) :
    ∀ line ∈ (lines db config adminPassword).map Line.text, '\n' ∉ line.toList := by
  simp only [freeTexts, List.forall_mem_cons] at h
  simp [lines, Line.text, integer_one_line, truth_one_line, h]

theorem filledLines_render : Text.filledLines (render db config adminPassword) =
    ((lines db config adminPassword).map Line.text).flatMap Text.filledLines := by
  rw [← Text.filledLines_join, render, List.map_map]
  rfl

theorem filledLines_render_iff : Text.filledLines (render db config adminPassword) =
      documented db config adminPassword ↔
    ∀ text ∈ freeTexts db config adminPassword, '\n' ∉ text.toList := by
  constructor
  · intro hlines text htext
    have hoption : ∃ key, (key, text) ∈ options db config adminPassword := by
      simp only [freeTexts, List.mem_cons, List.not_mem_nil, or_false] at htext
      rcases htext with rfl | rfl | rfl | rfl | rfl | rfl
      · exact ⟨"admin_passwd", by simp [options]⟩
      · exact ⟨"data_dir", by simp [options]⟩
      · exact ⟨"db_host", by simp [options]⟩
      · exact ⟨"db_user", by simp [options]⟩
      · exact ⟨"db_password", by simp [options]⟩
      · exact ⟨"db_name", by simp [options]⟩
    obtain ⟨key, hoption⟩ := hoption
    have hline : key ++ " = " ++ text ∈ Text.filledLines (render db config adminPassword) := by
      rw [hlines]
      exact List.mem_cons_of_mem _ (List.mem_map.mpr ⟨_, hoption, rfl⟩)
    have hcut := Text.sep_not_mem_segments (List.mem_filter.mp hline).1
    rw [String.toList_append, List.mem_append, not_or] at hcut
    exact hcut.2
  · intro h
    rw [filledLines_render, Text.flatMap_filledLines (lines_one_line h), documented_filled]

end ConfigFile

/-! ## The step of the config secret -/

/-- A store has the configuration file of an app in its config secret, with what the app's settings
and its admin password were in another store. -/
structure App.Configured (app : App) (u : Store) (db : Connection) (password : String) (t : Store) :
    Prop where
  credentials : ∃ secret : Secret,
    u.objects.get? .secret ⟨app.space, app.adminSecretName⟩ = some secret ∧
      adminPassword secret = .ok password
  connection : ∃ v, (Connection.resolve app).Gives u db v
  file : ∃ secret : Secret,
    t.objects.get? .secret ⟨app.space, app.configSecretName⟩ = some secret ∧
      secret.content.data = some (OrdMap.singleton configFileKey
        (Bytes.ofText (ConfigFile.render db app.content.spec.config password)))

section Parts

variable {others : Store → Store → Prop} {k : Kind} {app : App} {s t u : Store} {log : List Event}

theorem Dependent.converge_begins {d : Dependent k} {result : Except Failure (Converged k)}
    (h : (d.converge app).run.Executes others s log result t) :
    ∃ u rest, others s u ∧ log = ⟨u, d.reading app⟩ :: rest := by
  cases converge_converges h with
  | unread before => exact ⟨_, [], before, rfl⟩
  | unknown before read desires => exact ⟨_, _, before, rfl⟩
  | left before read desires rests => exact ⟨_, _, before, rfl⟩
  | created before read desires meanwhile => exact ⟨_, _, before, rfl⟩
  | replaced before read desires writes meanwhile => exact ⟨_, _, before, rfl⟩

theorem Step.configSecret_configures {password : String} {c : Converged .secret} {secret : Secret}
    (h : ((configSecret password).dependent.converge app).run.Executes Eq s log (.ok c) u)
    (hs : s.WellFormed)
    (hsecret : s.objects.get? .secret ⟨app.space, app.adminSecretName⟩ = some secret)
    (hpassword : adminPassword secret = .ok password)
    (ht : t.objects.table .secret = u.objects.table .secret) :
    ∃ e rest db, log = e :: rest ∧ app.Configured e.store db password t := by
  obtain ⟨v, rest, rfl, rfl⟩ := Dependent.converge_begins h
  obtain ⟨db, w, hdb, hdata⟩ := configSecret_file h.run_eq
  have hidles := hdb.idles (Connection.resolve_asks app) (t := s) ⟨rfl, fun _ _ => rfl⟩
  obtain ⟨w, hgives, -⟩ := hidles s (.refl s)
  refine ⟨_, rest, db, rfl, ⟨secret, hsecret, hpassword⟩, ⟨w, hgives⟩, c.object, ?_, hdata⟩
  rw [Objects.get?, ht]
  exact converge_stored h.run_eq hs

end Parts

namespace Pass

variable {settings : PassSettings} {now : Timestamp} {fresh : String} {role : Role}
  {roles : List Role} {app : App} {r : Report} {s t u : Store} {log work : List Event}
  {outcome : Outcome} {stage : Stage} {stages : List Stage} {last : List Event}
  {result : Except Failure (Option Nat)}

def secretRoles : List Role := [.adminSecret, .configSecret]

theorem Works.spares_secrets (h : Works Eq settings r s role work outcome u)
    (hrole : role ∉ secretRoles) : u.objects.table .secret = s.objects.table .secret := by
  obtain ⟨α, p, a, run⟩ := h.executes
  refine (run.table fun e he => ?_).2
  rcases h.owns (.self r) e he with hreads | ⟨d, rfl, hwrites⟩ | ⟨-, hjobs⟩
  · rw [hreads]
    simp
  · rw [hwrites.changes?]
    cases d <;> simp [secretRoles, Step.dependent, Dependent.adminSecret,
      Dependent.configSecret] at hrole ⊢
  · exact hjobs.sparesSecrets

theorem Made.spares_secrets (h : Made Eq settings now r s stage) (hrole : stage.role ∉ secretRoles) :
    stage.write.after.objects.table .secret = s.objects.table .secret := by
  obtain ⟨u, hworks, rfl⟩ := h.works
  rw [← hworks.spares_secrets hrole]
  exact stage.store.serve_table (Request.sparesSecrets_status _)

theorem Proceeds.spares_secrets (h : Proceeds Eq settings now roles r s stages last result t)
    (hroles : ∀ role ∈ roles, role ∉ secretRoles) :
    t.objects.table .secret = s.objects.table .secret := by
  induction h with
  | stop made stops => exact made.spares_secrets (hroles _ List.mem_cons_self)
  | next made succeeded accepted rest ih =>
    obtain ⟨hfirst, hrest⟩ := List.forall_mem_cons.mp hroles
    exact (ih hrest).trans (made.spares_secrets hfirst)
  | wait seconds gate => rfl
  | @finish r s u result before refused told =>
    subst before
    exact s.serve_table (Request.sparesSecrets_status _)

/-- The step of the config secret, if it has not failed, has left the configuration file there. -/
def Configures (app : App) (stage : Stage) (t : Store) : Prop :=
  stage.role = .configSecret → stage.outcome.failure = none →
    ∃ e rest db password, stage.work = e :: rest ∧ app.Configured e.store db password t

theorem configures_of_role (h : stage.role ≠ .configSecret) : Configures app stage t :=
  fun hrole => absurd hrole h

theorem configStage_configures {password : String} {secret : Secret}
    {converged : Except Failure (Converged .secret)}
    (hrun : ((Step.configSecret password).dependent.converge app).run.Executes Eq s work converged u)
    (hof : Stage.Of Eq .configSecret work (stepOutcome (.configSecret password) converged) u stage)
    (hs : s.WellFormed)
    (hsecret : s.objects.get? .secret ⟨app.space, app.adminSecretName⟩ = some secret)
    (hpassword : adminPassword secret = .ok password)
    (ht : t.objects.table .secret = stage.write.after.objects.table .secret) :
    Configures app stage t := by
  obtain ⟨-, rfl, houtcome, rfl⟩ := hof
  intro _ hsucceeded
  rw [houtcome] at hsucceeded
  cases converged with
  | error failure => cases hsucceeded
  | ok c =>
    have hwrite : stage.write.after.objects.table .secret = stage.store.objects.table .secret :=
      stage.store.serve_table (Request.sparesSecrets_status _)
    obtain ⟨e, rest, db, hwork, hconfigured⟩ :=
      Step.configSecret_configures hrun hs hsecret hpassword (ht.trans hwrite)
    exact ⟨e, rest, db, password, hwork, hconfigured⟩

theorem administered_configures {secret : Secret}
    (h : (administered settings now secret r).run.Executes Eq s log result t) (hr : r.About app)
    (hs : s.WellFormed)
    (hsecret : s.objects.get? .secret ⟨app.space, app.adminSecretName⟩ = some secret) :
    ∃ stages last, log = stages.flatMap Stage.log ++ last ∧
      Proceeds Eq settings now order.tail r s stages last result t ∧
      ∀ stage ∈ stages, Configures app stage t := by
  unfold administered at h
  cases hpassword : adminPassword secret with
  | error failure =>
    simp only [hpassword] at h
    have hworks : Works Eq settings r s .configSecret [] { failure := some failure } s :=
      .unusable hpassword
    obtain ⟨failure', rfl, hstage⟩ := abort_isStage hworks rfl h
    obtain ⟨stage, hof, rfl, rfl, hproceeds⟩ := hstage.stops
    refine ⟨[stage], [], by simp, hproceeds _, List.forall_mem_singleton.mpr fun _ hsucceeded => ?_⟩
    rw [hof.outcome] at hsucceeded
    cases hsucceeded
  | ok password =>
    simp only [hpassword] at h
    rcases Attempt.executes_bind h with ⟨failure, hstep, rfl⟩ |
      ⟨log₁, log₂, ⟨config, r'⟩, u, rfl, hstep, h⟩
    · obtain ⟨_, _, _, hrun, -, hstage⟩ := step_isStage settings (.configSecret password) hstep
      obtain ⟨stage, hof, rfl, rfl, hproceeds⟩ := hstage.stops
      rw [hr.converge] at hrun
      refine ⟨[stage], [], by simp, hproceeds _, List.forall_mem_singleton.mpr ?_⟩
      exact configStage_configures hrun hof hs hsecret hpassword rfl
    · obtain ⟨_, _, _, hrun, -, hstage⟩ := step_isStage settings (.configSecret password) hstep
      obtain ⟨stage, hof, rfl, rfl, hnext⟩ := hstage.passes
      rw [hr.converge] at hrun
      obtain ⟨stages, last, rfl, hproceeds⟩ := configured_onwards h
      have hspared := hproceeds.spares_secrets (by simp [secretRoles])
      refine ⟨stage :: stages, last, by simp, hnext hproceeds, List.forall_mem_cons.mpr ⟨?_, ?_⟩⟩
      · exact configStage_configures hrun hof hs hsecret hpassword hspared
      intro later hlater
      refine configures_of_role fun hrole => ?_
      have hroles := hproceeds.order.subset (List.mem_map_of_mem hlater)
      rw [hrole] at hroles
      simp at hroles

/-- A pass over an app is a series of stages in order, and that of the config secret leaves the
configuration file, unless it has failed. -/
theorem converge_configures
    (h : (converge settings now fresh app).run.Executes Eq s log result t) (hs : s.WellFormed) :
    ∃ stages last, log = stages.flatMap Stage.log ++ last ∧
      Proceeds Eq settings now order (Report.start app) s stages last result t ∧
      ∀ stage ∈ stages, Configures app stage t := by
  have hother : Role.adminSecret ≠ .configSecret := by simp
  rw [converge_eq_administered] at h
  rcases Attempt.executes_bind h with ⟨failure, hstep, rfl⟩ |
    ⟨log₁, log₂, ⟨secret, r⟩, u, rfl, hstep, h⟩
  · obtain ⟨_, _, _, -, -, hstage⟩ := step_isStage settings (.adminSecret fresh) hstep
    obtain ⟨stage, hof, rfl, rfl, hproceeds⟩ := hstage.stops
    refine ⟨[stage], [], by simp, hproceeds _, List.forall_mem_singleton.mpr ?_⟩
    exact configures_of_role (hof.role ▸ hother)
  obtain ⟨_, _, v, hadmin, hobject, hstage⟩ := step_isStage settings (.adminSecret fresh) hstep
  obtain ⟨c, rfl, rfl⟩ := hobject _ rfl
  obtain ⟨stage, hof, rfl, rfl, hnext⟩ := hstage.passes
  have hsecret : stage.write.after.objects.get? .secret ⟨app.space, app.adminSecretName⟩ =
      some c.object := by
    have hwrite : stage.write.after.objects.table .secret = stage.store.objects.table .secret :=
      stage.store.serve_table (Request.sparesSecrets_status _)
    rw [Objects.get?, hwrite, ← hof.store]
    exact Step.converge_stored hadmin.run_eq hs
  have hr : r.About app := step_about (.adminSecret fresh) hstep .start
  obtain ⟨stages, last, rfl, hproceeds, hconfigures⟩ :=
    administered_configures h hr (hstep.wellFormed_alone hs) hsecret
  exact ⟨stage :: stages, last, by simp, hnext hproceeds,
    List.forall_mem_cons.mpr ⟨configures_of_role (hof.role ▸ hother), hconfigures⟩⟩

theorem Proceeds.succeeds {requeue : Option Nat}
    (h : Proceeds Eq settings now roles r s stages last result t) (hresult : result = .ok requeue)
    (hrole : role ∈ roles) (hwaits : role ∉ [Role.workload, .httpService, .pollService]) :
    ∃ stage ∈ stages, stage.role = role ∧ stage.outcome.failure = none := by
  induction h with
  | stop made stops => cases hresult
  | next made succeeded accepted rest ih =>
    rcases List.mem_cons.mp hrole with rfl | hlater
    · exact ⟨_, List.mem_cons_self, rfl, succeeded⟩
    · obtain ⟨stage, hstage, hdone⟩ := ih hresult hlater
      exact ⟨stage, List.mem_cons_of_mem _ hstage, hdone⟩
  | wait seconds gate => exact absurd hrole hwaits
  | finish => cases hrole

end Pass

/-! ## The file that a pass leaves -/

/-- Every pass that succeeds leaves the configuration file in the config secret. The lines of the
file are the documented ones if and only if no value among them contains a line feed. -/
theorem file_documented_iff {settings : PassSettings} {now : Timestamp} {fresh : String}
    {key : ObjectKey} {s t : Store} {log : List Event} {result : Except Failure (Option Nat)}
    (hs : s.WellFormed)
    (h : (reconcile settings now fresh key.ns key.name).run.Executes Eq s log result t) :
    ∃ stages last, log = ⟨s, .get .app key.ns key.name⟩ :: (stages.flatMap Stage.log ++ last) ∧
      Pass.Ordered Eq settings now (s.objects.get? .app key) stages last ∧
      (∀ requeue, result = .ok requeue → (s.objects.get? .app key).isSome →
        ∃ stage ∈ stages, stage.role = .configSecret ∧ stage.outcome.failure = none) ∧
      ∀ stage ∈ stages, stage.role = .configSecret → stage.outcome.failure = none →
        ∃ app : App, s.objects.get? .app key = some app ∧
          ∃ e rest db password, stage.work = e :: rest ∧ app.Configured e.store db password t ∧
            (Text.filledLines (ConfigFile.render db app.content.spec.config password) =
                ConfigFile.documented db app.content.spec.config password ↔
              ∀ text ∈ ConfigFile.freeTexts db app.content.spec.config password,
                '\n' ∉ text.toList) := by
  obtain ⟨u, rest, rfl, rfl, ⟨rfl, -, -, hgone⟩ | ⟨(app : App), happ, h⟩⟩ :=
    Pass.reconcile_loads h
  · refine ⟨[], [], rfl, .nil _, fun requeue hok hthere => ?_, by simp⟩
    rw [(hgone requeue hok).2] at hthere
    cases hthere
  obtain ⟨stages, last, rfl, hproceeds, hconfigures⟩ := Pass.converge_configures h (hs.recording _)
  refine ⟨stages, last, rfl, ?_, ?_, fun stage hstage hrole hsucceeded => ?_⟩
  · change Pass.Ordered _ _ _ (s.objects.get? .app ⟨key.ns, key.name⟩) _ _
    rw [happ]
    exact .of_proceeds hproceeds
  · rintro requeue rfl -
    exact hproceeds.succeeds rfl (by simp [Pass.order]) (by simp)
  · obtain ⟨e, rest, db, password, hwork, hconfigured⟩ := hconfigures stage hstage hrole hsucceeded
    exact ⟨app, happ, e, rest, db, password, hwork, hconfigured, ConfigFile.filledLines_render_iff⟩

theorem file_documented_iff_sample : ∃ (stage : Stage) (app : App) (e : Event) (rest : List Event)
    (db : Connection) (password : String), stage.work = e :: rest ∧
    app.Configured e.store db password Sample.recording.stop ∧
    (Text.filledLines (ConfigFile.render db app.content.spec.config password) =
        ConfigFile.documented db app.content.spec.config password ↔
      ∀ text ∈ ConfigFile.freeTexts db app.content.spec.config password, '\n' ∉ text.toList) := by
  obtain ⟨result, hpass⟩ : Sample.recording.Passes Sample.key := Round.passes_play ..
  have hsucceeds : ((reconcile Sample.recording.settings Sample.recording.now Sample.recording.fresh
      Sample.key.ns Sample.key.name).run.run Sample.recording.start).1.isOk := by decide +kernel
  have hthere : (Sample.recording.start.objects.get? .app Sample.key).isSome := by decide +kernel
  obtain ⟨stages, -, -, -, hsuccess, hstages⟩ :=
    file_documented_iff Sample.recording_wellFormed hpass
  rw [hpass.run_eq] at hsucceeds
  cases result with
  | error failure => cases hsucceeds
  | ok requeue =>
    obtain ⟨stage, hstage, hrole, hdone⟩ := hsuccess requeue rfl hthere
    obtain ⟨app, -, e, rest, db, password, hfile⟩ := hstages stage hstage hrole hdone
    exact ⟨stage, app, e, rest, db, password, hfile⟩

namespace Sample

/-- A store with the sample app, whose database password goes on with another option. -/
def injecting : Store :=
  (({} : Store).insert (App.sample key.name key.ns)).insert
    (Secret.ofTexts key.ns "db-creds" [("password", "x\nlist_db = True")])

def injected : String :=
  ConfigFile.render
    { host := "postgres.db.svc"
      port := 5432
      user := "odoo"
      password := "x\nlist_db = True"
      name := "odoo"
      ssl := false
      maxConn := 20 }
    (App.sample key.name key.ns).content.spec.config "fresh"

end Sample

/-- It is not so that the lines of the file are always those that are documented: a password can add
an option. -/
theorem file_not_always_documented : ¬ ∀ (settings : PassSettings) (now : Timestamp) (fresh : String)
    (key : ObjectKey) (s t : Store) (requeue : Option Nat) (app : App) (secret : Secret)
    (file : String), s.WellFormed → s.objects.get? .app key = some app →
    (reconcile settings now fresh key.ns key.name).run.run s = (.ok requeue, t) →
    t.objects.get? .secret ⟨app.space, app.configSecretName⟩ = some secret →
    (secret.content.data.getD ∅).get? configFileKey = some (Bytes.ofText file) →
    ∃ db password, Text.filledLines file = ConfigFile.documented db app.content.spec.config password := by
  intro h
  have hstore : Sample.injecting.WellFormed := (Store.wellFormed_empty.insert _).insert _
  have hsample : ((reconcile {} (.ofUnix 0) "fresh" Sample.key.ns Sample.key.name).run.run
      Sample.injecting).1.isOk ∧
      (((reconcile {} (.ofUnix 0) "fresh" Sample.key.ns Sample.key.name).run.run
        Sample.injecting).2.objects.get? .secret ⟨"web", "shop-config"⟩).any fun secret : Secret =>
          (secret.content.data.getD ∅).get? configFileKey =
            some (Bytes.ofText Sample.injected) := by decide +kernel
  obtain ⟨app, happ, hname⟩ : ∃ app : App, Sample.injecting.objects.get? .app Sample.key = some app ∧
      (⟨app.space, app.configSecretName⟩ : ObjectKey) = ⟨"web", "shop-config"⟩ :=
    ⟨_, rfl, by decide +kernel⟩
  have hlines : (Text.filledLines Sample.injected).length = 19 := by
    rw [Sample.injected, ConfigFile.filledLines_render]
    decide +kernel
  cases hrun : (reconcile {} (.ofUnix 0) "fresh" Sample.key.ns Sample.key.name).run.run
      Sample.injecting with
  | mk result t =>
    rw [hrun] at hsample
    obtain ⟨hsucceeds, hfound⟩ := hsample
    obtain ⟨secret, hsecret, hfile⟩ := (Option.any_eq_true ..).mp hfound
    cases result with
    | error failure => cases hsucceeds
    | ok requeue =>
      obtain ⟨db, password, hdocumented⟩ :=
        h _ _ _ _ _ _ _ app secret _ hstore happ hrun (hname ▸ hsecret) (of_decide_eq_true hfile)
      rw [hdocumented] at hlines
      simp [ConfigFile.documented, ConfigFile.options] at hlines

end OdooKeeper
