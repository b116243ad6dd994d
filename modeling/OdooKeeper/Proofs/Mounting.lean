import OdooKeeper.Proofs.Secrets

/-! # What pods mount

The pods of an app mount a claim and a secret. The steps before them see to both, and nothing that
follows takes either away, so neither the init job nor the deployment is ever written while something
that its pods mount is missing. -/

namespace OdooKeeper

/-! ## Pods -/

def Object.podSpec? : {k : Kind} → Object k → Option PodSpec
  | .job, object => object.content.spec.bind fun spec => spec.template.spec
  | .deployment, object => object.content.spec.bind fun spec => spec.template.spec
  | _, _ => none

def Request.podSpec? : Request → Option PodSpec
  | .create _ _ object => object.podSpec?
  | .replace _ _ object => object.podSpec?
  | _ => none

def Request.MakesPods (r : Request) : Prop :=
  r.call.kind ∈ [Kind.job, .deployment] ∧ r.call.verb ∈ [Verb.create, .replace]

/-- All that the containers of a pod mount is declared, and all that its volumes refer to is there, in
the namespace of the pod. -/
structure PodSpec.Provided (pod : PodSpec) (s : Store) (ns : String) : Prop where
  declared : ∀ container ∈ pod.containers, ∀ mount ∈ container.volumeMounts.getD [],
    ∃ volume ∈ pod.volumes.getD [], volume.name = mount.name
  claims : ∀ volume ∈ pod.volumes.getD [], ∀ source ∈ volume.claim,
    (s.objects.get? .claim ⟨ns, source.claimName⟩).isSome
  secrets : ∀ volume ∈ pod.volumes.getD [], ∀ source ∈ volume.secret,
    ∃ name, source.secretName = some name ∧ ∃ secret : Secret,
      s.objects.get? .secret ⟨ns, name⟩ = some secret ∧
        ∀ item ∈ source.items.getD [], (secret.content.data.getD ∅).contains item.key

/-! ## What an app supplies -/

def Store.HoldsFile (s : Store) (app : App) : Prop :=
  ∃ secret : Secret, s.objects.get? .secret ⟨app.space, app.configSecretName⟩ = some secret ∧
    secret.HoldsFile

/-- The claim of an app and its config secret are there. -/
structure Store.Supplies (s : Store) (app : App) : Prop where
  claim : (s.objects.get? .claim ⟨app.space, app.claimName⟩).isSome
  file : s.HoldsFile app

section Supplies

variable {app : App} {s t : Store}

theorem Store.HoldsFile.of_table (h : s.HoldsFile app)
    (htable : t.objects.table .secret = s.objects.table .secret) : t.HoldsFile app := by
  unfold HoldsFile Objects.get? at *
  rw [htable]
  exact h

theorem Store.Supplies.of_tables (h : s.Supplies app)
    (hclaim : t.objects.table .claim = s.objects.table .claim)
    (hsecret : t.objects.table .secret = s.objects.table .secret) : t.Supplies app := by
  refine ⟨?_, h.file.of_table hsecret⟩
  rw [Objects.get?, hclaim]
  exact h.claim

theorem Store.Supplies.provided {pod : PodSpec} (h : s.Supplies app)
    (hvolumes : pod.volumes = some app.volumes)
    (hmounts : ∀ container ∈ pod.containers,
      container.volumeMounts = app.container.volumeMounts) : pod.Provided s app.space := by
  obtain ⟨hclaim, secret, hsecret, file, hfile⟩ := h
  refine ⟨fun container hcontainer mount hmount => ?_, ?_, ?_⟩ <;>
    simp only [hvolumes, Option.getD_some, App.volumes, List.forall_mem_cons]
  · rw [hmounts container hcontainer] at hmount
    simp only [App.container, App.dataMount, Option.getD_some, List.mem_cons, List.not_mem_nil,
      or_false] at hmount
    rcases hmount with rfl | rfl | rfl <;> simp
  · refine ⟨?_, by simp, by simp⟩
    rintro _ ⟨⟩
    exact hclaim
  · refine ⟨by simp, ?_, by simp⟩
    rintro _ ⟨⟩
    refine ⟨_, rfl, secret, hsecret, ?_⟩
    simp only [Option.getD_some, List.forall_mem_cons]
    refine ⟨?_, by simp⟩
    rw [hfile, Option.getD_some, OrdMap.contains, OrdMap.get?_singleton, if_pos rfl]
    rfl

theorem Store.Supplies.podSpec (h : s.Supplies app) : app.podSpec.Provided s app.space :=
  h.provided rfl (by simp [App.podSpec])

theorem Store.Supplies.initPodSpec (h : s.Supplies app) : app.initPodSpec.Provided s app.space :=
  h.provided rfl (by simp [App.initPodSpec])

end Supplies

/-! ## The steps before -/

namespace Step

variable {app : App} {s u : Store}

theorem configSecret_file {password : String} {c : Converged .secret}
    (h : ((configSecret password).dependent.converge app).Gives s c u) :
    ∃ db v, (Connection.resolve app).Gives
        (s.recording (.get .secret app.space app.configSecretName)) db v ∧
      c.object.content.data = some (OrdMap.singleton configFileKey
        (Bytes.ofText (ConfigFile.render db app.content.spec.config password))) := by
  cases Dependent.converge_comes h with
  | left desired found reads rests =>
    have hrests : (configSecret password).dependent.needsWrite app c.object desired = false := by
      simpa [dependent, Dependent.configSecret] using rests
    rw [Dependent.needsWrite, Bool.or_eq_false_iff] at hrests
    have hsame : c.object.content.data = desired.content.data := by
      simpa [dependent, Dependent.configSecret] using hrests.2
    obtain ⟨db, v, hdb, hpure⟩ := Attempt.gives_bind.mp reads
    obtain ⟨rfl, -⟩ := Attempt.gives_pure.mp hpure
    exact ⟨db, v, hdb, hsame⟩
  | written live desired s' r found reads changes after accepted content owners stored =>
    obtain ⟨db, v, hdb, hpure⟩ := Attempt.gives_bind.mp reads
    obtain ⟨rfl, -⟩ := Attempt.gives_pure.mp hpure
    refine ⟨db, v, hdb, ?_⟩
    rw [content]
    cases live <;> rfl

theorem configSecret_supplies {password : String} {c : Converged .secret}
    (h : ((configSecret password).dependent.converge app).Gives s c u) (hs : s.WellFormed) :
    u.HoldsFile app := by
  obtain ⟨db, v, -, hdata⟩ := configSecret_file h
  exact ⟨c.object, converge_stored h hs, _, hdata⟩

end Step

namespace Pass

variable {settings : PassSettings} {now : Timestamp} {fresh : String} {app : App} {r r' : Report}
  {s t : Store} {log : List Event} {result : Except Failure (Option Nat)}

theorem step_converges (d : Step) {object : Object d.kind}
    (h : (step now d.dependent r).Gives s (object, r') t) (hr : r.About app) :
    r'.About app ∧ ∃ c u, c.object = object ∧ (d.dependent.converge app).Gives s c u ∧
      ∀ k ≠ .app, t.objects.table k = u.objects.table k := by
  obtain ⟨c, u, hconverge, hobject, hsave⟩ := step_gives h
  rw [hr.converge] at hconverge
  obtain ⟨stored, -, rfl, rfl⟩ := Report.save_gives hsave
  refine ⟨?_, c, u, hobject, hconverge, fun k hk => u.serve_table ?_⟩
  · obtain ⟨version, status, happ⟩ := hr
    exact Report.About.accepted (r := r.apply _) ⟨version, status, happ⟩ stored
  · rw [Request.changes?]
    exact fun hsame => hk (Option.some.inj hsame).symm

theorem prepare_supplies (h : (prepare now fresh app).Gives s r t) (hs : s.WellFormed) :
    t.Supplies app := by
  obtain ⟨_, _, s₁, password, _, _, s₂, _, h₁, -, h₂, h₃⟩ := prepare_gives h
  have hr₁ := (step_converges (.adminSecret fresh) h₁ .start).1
  have hs₁ := h₁.wellFormed hs
  obtain ⟨hr₂, c₂, u₂, -, hconfig, htables₂⟩ := step_converges (.configSecret password) h₂ hr₁
  have hfile : s₂.HoldsFile app :=
    (Step.configSecret_supplies hconfig hs₁).of_table (htables₂ .secret (by simp))
  obtain ⟨-, c₃, u₃, -, hclaim, htables₃⟩ := step_converges .filestore h₃ hr₂
  obtain ⟨claimLog, hexecutes⟩ := hclaim.executes
  have hsecrets := hexecutes.spares (Step.filestore.converge_spares (by simp) app)
  refine ⟨?_, hfile.of_table ((htables₃ .secret (by simp)).trans hsecrets)⟩
  rw [Objects.get?, htables₃ .claim (by simp)]
  exact Option.isSome_of_eq_some (Step.converge_stored hclaim (h₂.wellFormed hs₁))

end Pass

/-! ## The requests for pods -/

/-- The request leaves claims and secrets alone, and all pods that it asks for are the app's own. -/
structure Request.Runs (app : App) (r : Request) : Prop where
  claims : r.changes? ≠ some .claim
  secrets : r.changes? ≠ some .secret
  pods : r.MakesPods → r.call.ns = app.space ∧
    ∃ pod, r.podSpec? = some pod ∧ (pod = app.podSpec ∨ pod = app.initPodSpec)

section Runs

variable {app : App} {r : Request}

theorem Request.runs_status (sent : App) : (Request.replaceStatus sent).Runs app := by
  refine ⟨by simp [changes?], by simp [changes?], fun hmakes => ?_⟩
  simp [MakesPods, call] at hmakes

theorem Request.Runs.of_reads (h : r.changes? = none) : r.Runs app := by
  refine ⟨by simp [h], by simp [h], fun hmakes => ?_⟩
  cases r <;> simp_all [MakesPods, call, changes?]

theorem Request.Runs.serve {s : Store} (h : r.Runs app) (hs : s.Supplies app) :
    (s.serve r).2.Supplies app :=
  hs.of_tables (s.serve_table h.claims) (s.serve_table h.secrets)

theorem Program.Executes.supplied {α : Type} {p : Program α} {s t : Store} {log : List Event} {a : α}
    (h : p.Executes Eq s log a t) (hlog : ∀ e ∈ log, e.request.Runs app) (hs : s.Supplies app) :
    (∀ e ∈ log, e.store.Supplies app ∧ e.after.Supplies app) ∧ t.Supplies app :=
  h.keeps (Request.Runs app) (Store.Supplies · app) hlog (fun _ _ he hs => he ▸ hs)
    (fun _ _ hr hs => hr.serve hs) hs

theorem Step.deployment_runs :
    (deployment.dependent.converge app).Asks (Request.Runs app) fun _ => True := by
  refine deployment.converge_writes_asks app (.of_reads rfl) fun live => Attempt.asks_pure ?_
  have hpod : ∀ object : Deployment, object.content.spec = app.deployment.content.spec →
      ((deployment.dependent.withOwner app object).podSpec? = some app.podSpec) := by
    intro object hspec
    simp only [Object.podSpec?, Dependent.withOwner_content, hspec]
    rfl
  cases live with
  | none =>
    exact ⟨by simp [Request.changes?], by simp [Request.changes?],
      fun _ => ⟨rfl, _, hpod _ rfl, .inl rfl⟩⟩
  | some live =>
    exact ⟨by simp [Request.changes?], by simp [Request.changes?],
      fun _ => ⟨rfl, _, hpod _ rfl, .inl rfl⟩⟩

theorem Step.service_runs (part : Dependent.ServicePart) :
    ((service part).dependent.converge app).Asks (Request.Runs app) fun _ => True := by
  refine (service part).converge_requests app (.of_reads rfl) (fun r hr => .of_reads hr.changes?)
    fun r hr => ⟨by simp [hr], by simp [hr], fun hmakes => ?_⟩
  have hkind := Request.kind_of_changes? hr
  rw [Request.MakesPods, hkind] at hmakes
  simp at hmakes

theorem Step.workload_runs (d : Step) (h : d.kind ∈ [Kind.deployment, .service]) :
    (d.dependent.converge app).Asks (Request.Runs app) fun _ => True := by
  cases d with
  | deployment => exact deployment_runs
  | service part => exact service_runs part
  | _ => simp at h

theorem InitJob.track_runs (poll : Nat) {report : Report} (h : report.About app) :
    (track poll report.app report.status).Asks (Request.Runs app) fun _ => True := by
  have hpod : app.initJob.podSpec? = some app.initPodSpec := rfl
  obtain ⟨version, status, happ⟩ := h
  rw [happ]
  refine track_requests (fun r hjobs hverb => ?_) poll (.of_reads rfl) ?_ fun _ => .of_reads rfl
  · refine ⟨fun hchanges => ?_, fun hchanges => ?_, fun hmakes => ?_⟩
    · rw [Request.OnJobs, Request.kind_of_changes? hchanges] at hjobs
      simp at hjobs
    · rw [Request.OnJobs, Request.kind_of_changes? hchanges] at hjobs
      simp at hjobs
    · rw [Request.MakesPods] at hmakes
      cases r <;> simp [Request.call] at hverb hmakes
  · refine ⟨by simp, by simp, fun _ => ⟨rfl, _, ?_, .inr rfl⟩⟩
    simp only [App.initJobRequest, Request.podSpec?, Object.podSpec?, Object.ensureOwner_content]
    exact hpod

end Runs

/-! ## Whole passes -/

/-- From the step of the init job on, a pass asks for the app's pods only, and what they mount is there
all the time. -/
theorem Pass.moves_run {settings : PassSettings} {now : Timestamp} {r : Report} {app : App}
    {s v t : Store} {jlog wlog : List Event} {moved : Except Failure (Option Nat × Report)}
    {result : Except Failure (Option Nat)} (hr : r.About app) (hs : s.Supplies app)
    (hjob : (jobStep settings now r).run.Executes Eq s jlog moved v)
    (hrest : (afterwards settings now moved).run.Executes Eq v wlog result t) :
    ∀ e ∈ jlog ++ wlog, e.request.Runs app ∧ e.store.Supplies app ∧ e.after.Supplies app := by
  obtain ⟨tracked, outcome, x₀, x, htrack, -, hlog, -, hconcludes⟩ := jobStep_parts _ _ _ hjob
  have hjlog : ∀ e ∈ jlog, e.request.Runs app := by
    rw [hlog]
    exact List.forall_mem_append.mpr ⟨(htrack.asked (InitJob.track_runs _ hr)).1,
      List.forall_mem_singleton.mpr (Request.runs_status _)⟩
  have hworkload : (afterwards settings now moved).Asks (Request.Runs app) fun _ => True :=
    afterwards_asks (hconcludes.tells ⟨hr, rfl⟩) fun requeue r hr =>
      workload_requests (fun sent _ _ => Request.runs_status sent) Step.workload_runs hr
  have hwlog := (hrest.asked hworkload).1
  obtain ⟨hsupplied, hv⟩ := hjob.supplied hjlog hs
  refine List.forall_mem_append.mpr ⟨fun e he => ⟨hjlog e he, hsupplied e he⟩, fun e he => ?_⟩
  exact ⟨hwlog e he, (hrest.supplied hwlog hv).1 e he⟩

theorem Pass.prepare_makes_no_pods {now : Timestamp} {fresh : String} {app : App} {s t : Store}
    {log : List Event} {result : Except Failure Report}
    (h : (prepare now fresh app).run.Executes Eq s log result t) :
    ∀ e ∈ log, ¬ e.request.MakesPods := by
  intro e he hmakes
  have hkind := ((h.asked (prepare_quiet now fresh app)).1 e he).kind
  rw [Request.MakesPods] at hmakes
  simp only [List.mem_cons, List.not_mem_nil, or_false] at hkind hmakes
  rcases hkind with hkind | hkind | hkind <;> rw [hkind] at hmakes <;> simp at hmakes

/-- Whenever a pass that nobody disturbs creates the init job, or creates or replaces the deployment,
all that the pods of the app are to mount is there: before the request and after it. -/
theorem mounts_provided {settings : PassSettings} {now : Timestamp} {fresh : String}
    {key : ObjectKey} {s t : Store} {log : List Event} {result : Except Failure (Option Nat)}
    (hs : s.WellFormed)
    (h : (reconcile settings now fresh key.ns key.name).run.Executes Eq s log result t) :
    ∀ e ∈ log, e.request.MakesPods → e.request.call.ns = key.ns ∧
      ∃ app : App, s.objects.get? .app key = some app ∧
        ∃ pod, e.request.podSpec? = some pod ∧ (pod = app.podSpec ∨ pod = app.initPodSpec) ∧
          pod.Provided e.store key.ns ∧ pod.Provided e.after key.ns := by
  intro e he hmakes
  have hread : ∀ u : Store, e ≠ ⟨u, .get .app key.ns key.name⟩ := by
    rintro u rfl
    simp [Request.MakesPods, Request.call] at hmakes
  obtain ⟨u, rest, rfl, rfl, ⟨rfl, -⟩ | ⟨(app : App), happ, hcourse⟩⟩ := Pass.reconcile_course h
  · exact absurd (List.mem_singleton.mp he) (hread _)
  rcases List.mem_cons.mp he with hfirst | he
  · exact absurd hfirst (hread _)
  have hspace : app.space = key.ns := by
    rw [App.space, Metadata.space, (hs.fits _ _ _ happ).ns]
    rfl
  cases hcourse with
  | unprepared hprepare => exact absurd hmakes (Pass.prepare_makes_no_pods hprepare e he)
  | @prepared r plog jlog wlog _ _ _ _ _ hprepare hjob hrest =>
    rcases List.mem_append.mp he with he | he
    · exact absurd hmakes (Pass.prepare_makes_no_pods hprepare e he)
    have hr : r.About app := ((hprepare.asked (Pass.prepare_quiet now fresh app)).2 _ rfl).1
    have hsupplies := Pass.prepare_supplies hprepare.run_eq (hs.recording _)
    obtain ⟨hruns, hbefore, hafter⟩ := Pass.moves_run hr hsupplies hjob hrest e he
    obtain ⟨hns, pod, hpod, hown⟩ := hruns.pods hmakes
    rw [← hspace]
    refine ⟨hns, app, happ, pod, hpod, hown, ?_⟩
    rcases hown with rfl | rfl
    · exact ⟨hbefore.podSpec, hafter.podSpec⟩
    · exact ⟨hbefore.initPodSpec, hafter.initPodSpec⟩

theorem mounts_provided_sample :
    ∃ e ∈ Sample.serving.log, e.request.call = ⟨.create, .deployment, "web", "shop"⟩ ∧
      ∃ pod, e.request.podSpec? = some pod ∧ pod.Provided e.store "web" := by
  obtain ⟨result, hpass⟩ : Sample.serving.Passes Sample.key := Round.passes_play ..
  have hcreated : (Sample.serving.log.find? fun e =>
      e.request.call = ⟨.create, .deployment, "web", "shop"⟩).isSome := by decide +kernel
  obtain ⟨e, hfound⟩ := Option.isSome_iff_exists.mp hcreated
  have he := List.mem_of_find?_eq_some hfound
  have hcall : e.request.call = ⟨.create, .deployment, "web", "shop"⟩ := by
    simpa using List.find?_some hfound
  obtain ⟨-, app, -, pod, hpod, -, hprovided, -⟩ :=
    mounts_provided Sample.serving_wellFormed hpass e he (by simp [Request.MakesPods, hcall])
  exact ⟨e, he, hcall, pod, hpod, hprovided⟩

end OdooKeeper
