import OdooKeeper.Proofs.Resting
import OdooKeeper.Proofs.Runs

/-! # What becomes of secrets

A pass adds a password to the credentials secret when it has none, and writes the configuration file
to the config secret. Nothing else of a secret changes, whether the pass fails or not. -/

namespace OdooKeeper

/-! ## Secrets that keep what they hold -/

/-- The secret holds all that another held. -/
structure Secret.Keeps (old new : Secret) : Prop where
  data : ∀ key value, (old.content.data.getD ∅).get? key = some value →
    (new.content.data.getD ∅).get? key = some value
  text : new.content.stringData = old.content.stringData

/-- The secret holds a configuration file and nothing else. -/
def Secret.HoldsFile (secret : Secret) : Prop :=
  ∃ file, secret.content.data = some (OrdMap.singleton configFileKey (Bytes.ofText file))

theorem Secret.Keeps.refl (secret : Secret) : secret.Keeps secret := ⟨fun _ _ h => h, rfl⟩

theorem Secret.Keeps.trans {a b c : Secret} (h : a.Keeps b) (h' : b.Keeps c) : a.Keeps c :=
  ⟨fun key value hvalue => h'.data key value (h.data key value hvalue), h'.text.trans h.text⟩

/-- A secret at a key is still there and keeps what it holds. -/
def Store.KeepsSecret (s t : Store) (key : ObjectKey) : Prop :=
  ∀ old : Secret, s.objects.get? .secret key = some old →
    ∃ new : Secret, t.objects.get? .secret key = some new ∧ old.Keeps new

/-- A secret at a key is still there. It keeps what it holds, unless it is the config secret of an
app and holds the configuration file now. -/
def Store.LeavesSecret (app : App) (s t : Store) (key : ObjectKey) : Prop :=
  ∀ old : Secret, s.objects.get? .secret key = some old →
    ∃ new : Secret, t.objects.get? .secret key = some new ∧
      (old.Keeps new ∨ key = ⟨app.space, app.configSecretName⟩ ∧ new.HoldsFile)

namespace Store

variable {app : App} {s t u : Store} {key : ObjectKey}

theorem keepsSecret_of_get? (h : t.objects.get? .secret key = s.objects.get? .secret key) :
    s.KeepsSecret t key := by
  intro old hold
  exact ⟨old, h.trans hold, .refl old⟩

theorem KeepsSecret.leaves (h : s.KeepsSecret t key) : s.LeavesSecret app t key := by
  intro old hold
  obtain ⟨new, hnew, hkeeps⟩ := h old hold
  exact ⟨new, hnew, .inl hkeeps⟩

theorem KeepsSecret.trans (h : s.KeepsSecret t key) (h' : t.LeavesSecret app u key) :
    s.LeavesSecret app u key := by
  intro old hold
  obtain ⟨mid, hmid, hkeeps⟩ := h old hold
  obtain ⟨new, hnew, hkeeps' | hfile⟩ := h' mid hmid
  · exact ⟨new, hnew, .inl (hkeeps.trans hkeeps')⟩
  · exact ⟨new, hnew, .inr hfile⟩

theorem KeepsSecret.of_table (h : s.KeepsSecret t key)
    (htable : u.objects.table .secret = t.objects.table .secret) : s.KeepsSecret u key := by
  unfold KeepsSecret Objects.get? at *
  rw [htable]
  exact h

theorem LeavesSecret.of_table (h : s.LeavesSecret app t key)
    (htable : u.objects.table .secret = t.objects.table .secret) : s.LeavesSecret app u key := by
  unfold LeavesSecret Objects.get? at *
  rw [htable]
  exact h

end Store

/-! ## Dependents -/

namespace Step

variable {app : App} {s u : Store} {key : ObjectKey}

theorem adminSecret_keeps {fresh : String} {c : Converged .secret}
    (h : ((adminSecret fresh).dependent.converge app).Gives s c u) (hs : s.WellFormed) :
    s.KeepsSecret u key := by
  rcases converge_writes h hs with hsame | ⟨desired, s', reads, content, stored⟩
  · exact Store.keepsSecret_of_get? (by rw [hsame])
  by_cases hkey : key = (adminSecret fresh).dependent.place app
  · subst hkey
    intro old hold
    rw [hold] at reads content
    refine ⟨c.object, by rw [stored, if_pos rfl], ?_⟩
    obtain ⟨rfl, -⟩ := Attempt.gives_pure.mp reads
    constructor
    · intro name value hvalue
      rw [content]
      simp only [dependent, Dependent.next, Dependent.adminSecret, Option.getD_some]
      split
      · exact hvalue
      · rename_i hmissing
        rw [OrdMap.get?_insert, if_neg]
        · exact hvalue
        · rintro rfl
          exact hmissing (by rw [OrdMap.contains, hvalue]; rfl)
    · rw [content]
      rfl
  · exact Store.keepsSecret_of_get? (by rw [stored, if_neg hkey])

theorem configSecret_leaves {password : String} {c : Converged .secret}
    (h : ((configSecret password).dependent.converge app).Gives s c u) (hs : s.WellFormed) :
    s.LeavesSecret app u key := by
  rcases converge_writes h hs with hsame | ⟨desired, s', reads, content, stored⟩
  · exact (Store.keepsSecret_of_get? (by rw [hsame])).leaves
  by_cases hkey : key = (configSecret password).dependent.place app
  · subst hkey
    intro old hold
    rw [hold] at reads content
    refine ⟨c.object, by rw [stored, if_pos rfl], .inr ⟨rfl, ?_⟩⟩
    obtain ⟨db, v, -, hpure⟩ := Attempt.gives_bind.mp reads
    obtain ⟨rfl, -⟩ := Attempt.gives_pure.mp hpure
    exact ⟨_, by rw [content]; rfl⟩
  · exact (Store.keepsSecret_of_get? (by rw [stored, if_neg hkey])).leaves

end Step

/-! ## Failures -/

theorem Attempt.request_leaves {role : Role} {operation : Operation} {name : String} {r : Request}
    {s t : Store} {log : List Event} {result : Except Failure r.Value}
    (h : (Attempt.request role operation name (Program.ask r)).run.Executes Eq s log result t)
    (hquiet : r.changes? = none ∨ ∃ failure, result = .error failure) : t.objects = s.objects := by
  have hrun : ((s.serve r).1.mapError (Failure.store role operation name), (s.serve r).2) =
      (result, t) := h.run_eq
  obtain ⟨hresult, rfl⟩ := Prod.mk.inj hrun
  rcases hquiet with hreads | ⟨failure, hfailure⟩
  · rw [Store.serve_reading s hreads, Store.recording_objects]
  · cases hanswer : (s.serve r).1 with
    | ok value =>
      rw [hanswer, hfailure] at hresult
      cases hresult
    | error cause => rw [Store.serve_error hanswer, Store.recording_objects]

theorem Step.converge_fails {step : Step} {app : App} {s u : Store} {log : List Event}
    {failure : Failure}
    (h : (step.dependent.converge app).run.Executes Eq s log (.error failure) u) :
    u.objects = s.objects := by
  have hdesired : ∀ {live : Option (Object step.kind)} {s' u' : Store} {log' : List Event}
      {result : Except Failure (Object step.kind)},
      (step.dependent.desired app live).run.Executes Eq s' log' result u' →
        u'.objects = s'.objects := by
    intro live s' u' log' result hrun
    have hreads := (step.desired_asks app live).allow fun _ hr => hr.changes?
    exact (hrun.stays (hrun.asked hreads).1).objects
  unfold Dependent.converge at h
  rcases Attempt.executes_bind h with ⟨_, hget, -⟩ | ⟨_, _, live, s₁, rfl, hget, h⟩
  · exact Attempt.request_leaves hget (.inl rfl)
  rcases Attempt.executes_bind h with ⟨_, hfails, -⟩ | ⟨_, _, desired, s₂, rfl, hreads, h⟩
  · exact (hdesired hfails).trans (Attempt.request_leaves hget (.inl rfl))
  have hsame : s₂.objects = s.objects :=
    (hdesired hreads).trans (Attempt.request_leaves hget (.inl rfl))
  -- Only the write is left, and it is refused.
  cases live with
  | none =>
    rcases Attempt.executes_bind h with ⟨_, hcreate, -⟩ | ⟨_, _, object, s₃, rfl, -, h⟩
    · exact (Attempt.request_leaves hcreate (.inr ⟨_, rfl⟩)).trans hsame
    · cases h
  | some live =>
    simp only at h
    split at h
    · cases h
    · rcases Attempt.executes_bind h with ⟨_, hreplace, -⟩ | ⟨_, _, object, s₃, rfl, -, h⟩
      · exact (Attempt.request_leaves hreplace (.inr ⟨_, rfl⟩)).trans hsame
      · cases h

/-! ## Parts of a pass -/

def Request.SparesSecrets (r : Request) : Prop := r.changes? ≠ some .secret

theorem Request.sparesSecrets_status (sent : App) : (Request.replaceStatus sent).SparesSecrets := by
  simp [Request.SparesSecrets, Request.changes?]

theorem Request.OnJobs.sparesSecrets {r : Request} (h : r.OnJobs) : r.SparesSecrets := by
  intro hchanges
  rw [Request.OnJobs, Request.kind_of_changes? hchanges] at h
  simp at h

theorem Report.save_spares (r : Report) :
    r.save.Asks Request.SparesSecrets fun _ => True :=
  Report.save_asks (Request.sparesSecrets_status _) fun _ => trivial

theorem Report.abort_spares {α : Type} (r : Report) (now : Timestamp) (role : Role)
    (failure : Failure) :
    (r.abort now role failure : Attempt α).Asks Request.SparesSecrets fun _ => True :=
  Report.abort_asks (Request.sparesSecrets_status _)

theorem Step.converge_spares (d : Step) (hkind : d.kind ≠ .secret) (app : App) :
    (d.dependent.converge app).Asks Request.SparesSecrets fun _ => True := by
  unfold Request.SparesSecrets
  refine d.converge_requests app (by simp [Request.changes?]) (fun r hr => ?_) fun r hr => ?_
  · rw [hr.changes?]
    simp
  · rw [hr]
    simpa using hkind

theorem Program.Executes.spares {α : Type} {p : Program α} {post : α → Prop} {s t : Store}
    {log : List Event} {a : α} (h : p.Executes Eq s log a t)
    (hp : p.Asks Request.SparesSecrets post) :
    t.objects.table .secret = s.objects.table .secret :=
  (h.table (h.asked hp).1).2

namespace Pass

variable {settings : PassSettings} {now : Timestamp} {fresh : String} {app : App} {r : Report}
  {s t : Store} {log : List Event} {key : ObjectKey}

theorem step_leaves_secrets {d : Step} {out : Except Failure (Object d.kind × Report)}
    {leaves : Store → Prop}
    (h : (step now d.dependent r).run.Executes Eq s log out t) (hr : r.About app)
    (htable : ∀ u v, v.objects.table .secret = u.objects.table .secret → leaves u → leaves v)
    (hs : leaves s) (hconverge : ∀ c u, (d.dependent.converge app).Gives s c u → leaves u) :
    leaves t := by
  unfold step at h
  rw [hr.converge] at h
  obtain ⟨_, _, converged, u, rfl, hrun, h⟩ := Program.executes_bind h
  cases converged with
  | error failure =>
    have hsame : u.objects.table .secret = s.objects.table .secret := by
      rw [Step.converge_fails hrun]
    exact htable _ _ (h.spares (Report.abort_spares ..)) (htable _ _ hsame hs)
  | ok c =>
    obtain ⟨_, _, saved, v, rfl, hsave, h⟩ := Program.executes_bind h
    cases h
    exact htable _ _ (hsave.spares (Report.save_spares _)) (hconverge c u hrun.run_eq)

theorem step_about (d : Step) {object : Object d.kind} {r' : Report}
    (h : (step now d.dependent r).run.Executes Eq s log (.ok (object, r')) t) (hr : r.About app) :
    r'.About app := by
  have hasks : (step now d.dependent r).Asks (fun _ => True)
      fun out => out.2.Tells app r.status.progress :=
    step_requests (fun _ _ _ => trivial) d
      (d.converge_requests app trivial (fun _ _ => trivial) fun _ _ => trivial) ⟨hr, rfl⟩
  exact ((h.asked hasks).2 _ rfl).1

theorem prepare_leaves_secrets {result : Except Failure Report}
    (h : (prepare now fresh app).run.Executes Eq s log result t) (hs : s.WellFormed) :
    s.LeavesSecret app t key := by
  have hadmin : ∀ {log out u}, (step now (Step.adminSecret fresh).dependent
      (Report.start app)).run.Executes Eq s log out u → s.KeepsSecret u key :=
    fun hrun => step_leaves_secrets hrun .start (fun _ _ htable hu => hu.of_table htable)
      (Store.keepsSecret_of_get? rfl) fun _ _ hgives => Step.adminSecret_keeps hgives hs
  unfold prepare at h
  rcases Attempt.executes_bind h with ⟨_, hrun, -⟩ | ⟨_, _, ⟨secret, r₁⟩, s₁, rfl, hrun, h⟩
  · exact (hadmin hrun).leaves
  refine (hadmin hrun).trans ?_
  have hr₁ : r₁.About app := step_about (.adminSecret fresh) hrun .start
  have hs₁ : s₁.WellFormed := hrun.wellFormed_alone hs
  have hnothing : s₁.LeavesSecret app s₁ key := (Store.keepsSecret_of_get? rfl).leaves
  simp only at h
  cases hpassword : adminPassword secret with
  | error failure =>
    rw [hpassword] at h
    exact hnothing.of_table (h.spares (Report.abort_spares ..))
  | ok password =>
    have hconfig : ∀ {log out u}, (step now (Step.configSecret password).dependent
        r₁).run.Executes Eq s₁ log out u → s₁.LeavesSecret app u key :=
      fun hrun => step_leaves_secrets hrun hr₁ (fun _ _ htable hu => hu.of_table htable) hnothing
        fun _ _ hgives => Step.configSecret_leaves hgives hs₁
    rw [hpassword] at h
    rcases Attempt.executes_bind h with ⟨_, hrun₂, -⟩ | ⟨_, _, ⟨config, r₂⟩, s₂, rfl, hrun₂, h⟩
    · exact hconfig hrun₂
    have hr₂ : r₂.About app := step_about (.configSecret password) hrun₂ hr₁
    have hfilestore : (step now Step.filestore.dependent r₂).Asks Request.SparesSecrets
        fun out => out.2.Tells app r₂.status.progress :=
      step_requests (fun sent _ _ => Request.sparesSecrets_status sent) .filestore
        (Step.filestore.converge_spares (by simp) app) ⟨hr₂, rfl⟩
    refine (hconfig hrun₂).of_table ?_
    rcases Attempt.executes_bind h with ⟨_, hrun₃, -⟩ | ⟨_, _, out, s₃, rfl, hrun₃, h⟩
    · exact hrun₃.spares hfilestore
    · cases h
      exact hrun₃.spares hfilestore

theorem course_leaves_secrets {result : Except Failure (Option Nat)}
    (h : Course Eq settings now fresh app s log result t) (hs : s.WellFormed) :
    s.LeavesSecret app t key := by
  cases h with
  | unprepared hprepare => exact prepare_leaves_secrets hprepare hs
  | @prepared r _ _ _ _ _ _ _ _ hprepare hjob hrest =>
    have htells := (hprepare.asked (prepare_quiet now fresh app)).2 _ rfl
    obtain ⟨tracked, outcome, x₀, x, htrack, rfl, rfl, rfl, hconcludes⟩ := jobStep_parts _ _ _ hjob
    have htracked := htrack.spares
      ((InitJob.track_asks ..).allow fun _ (hr : Request.OnJobs _) => hr.sparesSecrets)
    have hwritten := x₀.serve_table
      (Request.sparesSecrets_status (r.ended now .initJob outcome).written)
    have hworkload := hrest.spares (afterwards_asks (hconcludes.tells htells) fun requeue r hr =>
      workload_requests (fun sent _ _ => Request.sparesSecrets_status sent)
        (fun d hd => d.converge_spares (by rintro hkind; simp [hkind] at hd) app) hr)
    exact (prepare_leaves_secrets hprepare hs).of_table
      (hworkload.trans (hwritten.trans htracked))

end Pass

/-! ## Inputs -/

/-- The names of the secrets that the user may have filled in: the credentials secret and those that
the settings refer to. -/
def App.inputSecrets (app : App) : List String :=
  app.adminSecretName :: app.secretRefs.map SecretRef.name

/-- A pass leaves every secret where it is with all that it holds, except that the config secret of
the app may hold the configuration file instead. -/
theorem inputs_kept {settings : PassSettings} {now : Timestamp} {fresh : String} {key : ObjectKey}
    {s t : Store} {result : Except Failure (Option Nat)} {app : App} (hs : s.WellFormed)
    (happ : s.objects.get? .app key = some app)
    (hrun : (reconcile settings now fresh key.ns key.name).run.run s = (result, t)) :
    (∀ place, s.LeavesSecret app t place) ∧
      (app.configSecretName ∉ app.inputSecrets →
        ∀ input ∈ app.inputSecrets, s.KeepsSecret t ⟨app.space, input⟩) := by
  have hleaves : ∀ place, s.LeavesSecret app t place := by
    intro place
    obtain ⟨log, hpass⟩ := Program.exists_executes_run
      (reconcile settings now fresh key.ns key.name).run s
    rw [hrun] at hpass
    obtain ⟨s', rest, rfl, -, ⟨-, rfl⟩ | ⟨app', happ', hcourse⟩⟩ := Pass.reconcile_course hpass
    · exact (Store.keepsSecret_of_get? rfl).leaves
    · obtain rfl : app = app' := Option.some.inj (happ.symm.trans happ')
      have hleft : (s.recording (.get .app key.ns key.name)).LeavesSecret app t place :=
        Pass.course_leaves_secrets hcourse ⟨hs.fits, hs.distinct⟩
      exact hleft
  refine ⟨hleaves, fun hapart input hinput old hold => ?_⟩
  obtain ⟨new, hnew, hkeeps | ⟨hplace, -⟩⟩ := hleaves ⟨app.space, input⟩ old hold
  · exact ⟨new, hnew, hkeeps⟩
  · have hname : input = app.configSecretName := congrArg ObjectKey.name hplace
    exact absurd (hname ▸ hinput) hapart

theorem inputs_kept_sample :
    ∃ (app : App) (old new : Secret), Sample.store.WellFormed ∧
      Sample.store.objects.get? .app Sample.key = some app ∧
      app.configSecretName ∉ app.inputSecrets ∧ "db-creds" ∈ app.inputSecrets ∧
      Sample.store.objects.get? .secret ⟨app.space, "db-creds"⟩ = some old ∧
      Sample.starting.stop.objects.get? .secret ⟨app.space, "db-creds"⟩ = some new ∧
      old.Keeps new := by
  have hstore : Sample.store.WellFormed := (Store.wellFormed_empty.insert _).insert _
  obtain ⟨result, hpass⟩ : Sample.starting.Passes Sample.key := Round.passes_play ..
  obtain ⟨app, happ, hapart, hinput, hspace⟩ : ∃ app : App,
      Sample.store.objects.get? .app Sample.key = some app ∧
      app.configSecretName ∉ app.inputSecrets ∧ "db-creds" ∈ app.inputSecrets ∧
      app.space = "web" :=
    ⟨_, rfl, by decide +kernel, by decide +kernel, rfl⟩
  obtain ⟨old, hold⟩ : ∃ old : Secret,
      Sample.store.objects.get? .secret ⟨app.space, "db-creds"⟩ = some old := by
    rw [hspace]
    exact ⟨_, rfl⟩
  obtain ⟨new, hnew, hkeeps⟩ :=
    (inputs_kept hstore happ hpass.run_eq).2 hapart "db-creds" hinput old hold
  exact ⟨app, old, new, hstore, happ, hapart, hinput, hold, hnew, hkeeps⟩

/-! ## Inputs in the config secret -/

namespace Sample

def misnamed : App :=
  let app := App.sample key.name key.ns
  { app with
    content :=
      { app.content with
        spec :=
          { app.content.spec with
            config := { app.content.spec.config with adminSecretName := some "shop-config" } } } }

/-- A store with that app, the secret that it reads and an admin password that the user has
chosen. -/
def misnaming : Store :=
  ((({} : Store).insert misnamed).insert
    (Secret.ofTexts key.ns "db-creds" [("password", "hunter2")])).insert
      (Secret.ofTexts key.ns "shop-config" [("password", "chosen"), ("note", "keep me")])

end Sample

/-- It is not so that a pass never takes anything out of a credentials secret: the admin password
that the user has chosen is gone when the config secret bears the name. -/
theorem inputs_not_always_kept : ¬ ∀ (settings : PassSettings) (now : Timestamp) (fresh : String)
    (key : ObjectKey) (s t : Store) (result : Except Failure (Option Nat)) (app : App),
    s.WellFormed → s.objects.get? .app key = some app →
    (reconcile settings now fresh key.ns key.name).run.run s = (result, t) →
    ∀ input ∈ app.inputSecrets, s.KeepsSecret t ⟨app.space, input⟩ := by
  intro h
  have hstore : Sample.misnaming.WellFormed :=
    ((Store.wellFormed_empty.insert _).insert _).insert _
  obtain ⟨app, happ, hinput, hspace⟩ : ∃ app : App,
      Sample.misnaming.objects.get? .app Sample.key = some app ∧
      "shop-config" ∈ app.inputSecrets ∧ app.space = "web" :=
    ⟨_, rfl, by decide +kernel, rfl⟩
  obtain ⟨old, hold, hchosen⟩ : ∃ old : Secret,
      Sample.misnaming.objects.get? .secret ⟨"web", "shop-config"⟩ = some old ∧
      (old.content.data.getD ∅).get? adminPasswordKey = some (Bytes.ofText "chosen") :=
    ⟨_, rfl, by decide +kernel⟩
  have hlost : (((reconcile {} (.ofUnix 0) "fresh" Sample.key.ns Sample.key.name).run.run
      Sample.misnaming).2.objects.get? .secret ⟨"web", "shop-config"⟩).all fun secret : Secret =>
        ((secret.content.data.getD ∅).get? adminPasswordKey).isNone := by decide +kernel
  cases hrun : (reconcile {} (.ofUnix 0) "fresh" Sample.key.ns Sample.key.name).run.run
      Sample.misnaming with
  | mk result t =>
    rw [hrun] at hlost
    have hkept := h _ _ _ _ _ _ _ app hstore happ hrun "shop-config" hinput
    rw [hspace] at hkept
    obtain ⟨new, hnew, hkeeps⟩ := hkept old hold
    rw [hnew, Option.all_some, hkeeps.data _ _ hchosen] at hlost
    cases hlost

end OdooKeeper
