import OdooKeeper.Proofs.Failing
import OdooKeeper.Proofs.Removing

/-! # The footprint of a pass

What a pass can change: the objects that serve its app, the init job that the app has or has recorded,
the pods of these jobs, and the status of the app. Everything else is as it was. -/

namespace OdooKeeper

/-! ## The objects of an app -/

/-- A pass over the app may change the object at a key, given the objects that are there when it
starts. -/
inductive App.Touches (app : App) (o : Objects) : Kind → ObjectKey → Prop where
  | adminSecret : Touches app o .secret ⟨app.space, app.adminSecretName⟩
  | configSecret : Touches app o .secret ⟨app.space, app.configSecretName⟩
  | claim : Touches app o .claim ⟨app.space, app.claimName⟩
  | ownJob {k : Kind} {key : ObjectKey} (part : o.PartOfJob app.initJobKey k key) :
      Touches app o k key
  | recordedJob {k : Kind} {key : ObjectKey} (recorded : app.progress.initJob.isIdle = false)
      (part : o.PartOfJob (InitJob.recordedKey app app.progress.initJob) k key) : Touches app o k key
  | deployment : Touches app o .deployment ⟨app.space, app.deploymentName⟩
  | httpService : Touches app o .service ⟨app.space, app.httpServiceName⟩
  | pollService : Touches app o .service ⟨app.space, app.pollServiceName⟩
  | status : Touches app o .app app.key

theorem App.Touches.dependent {app : App} {o : Objects} (d : Step) {k : Kind} {key : ObjectKey}
    (h : (k, key) = d.place app) : app.Touches o k key := by
  cases h
  cases d with
  | adminSecret fresh => exact .adminSecret
  | configSecret password => exact .configSecret
  | filestore => exact .claim
  | deployment => exact .deployment
  | service part =>
    cases part with
    | http => exact .httpService
    | poll => exact .pollService

/-- The names that the app bears and has recorded can stand in a selector. -/
structure App.HasPlainNames (app : App) : Prop where
  name : Text.IsPlain app.instanceName
  recorded : Text.IsPlain app.progress.initJob.name

theorem App.HasPlainNames.initJobName {app : App} (h : app.HasPlainNames) :
    Text.IsPlain app.initJobName :=
  h.name.append (by decide)

/-! ## Steps -/

section Steps

variable {settings : PassSettings} {now : Timestamp} {d : Step} {app : App} {o : Objects} {r : Report}
  {role : Role} {s u : Store} {work : List Event} {outcome : Outcome} {stage : Stage}

theorem Step.converge_within {result : Except Failure (Converged d.kind)} (hs : s.WellFormed)
    (h : (d.dependent.converge app).run.Executes Eq s work result u) :
    ∀ e ∈ work, e.Within fun k key => (k, key) = d.place app := by
  intro e he
  rcases d.converge_cases h he with hreads | ⟨object, hcreate, hname⟩ | hreplaces
  · exact Event.within_of_reads hreads
  · refine .inr fun k key htarget => ?_
    rw [hcreate] at htarget
    cases htarget
    rw [hname]
    rfl
  cases hreplaces with
  | @last _ v _ live desired object reads before read desires meanwhile changes name version =>
    subst before meanwhile
    cases hanswer : (v.serve (.replace d.kind app.space object)).1 with
    | error cause => exact .inl ⟨cause, hanswer⟩
    | ok stored =>
      obtain ⟨old, hold, hcurrent, -⟩ := Store.serve_replace_ok hanswer
      have hlive : v.objects.get? d.kind (d.dependent.place app) = some live := by
        rw [Objects.get?, (desires.table fun e he => by rw [d.desired_reads desires e he]; simp).2]
        exact read
      have hplace := (desires.wellFormed_alone (hs.recording _)).accepted_key hlive hold version
        hcurrent
      refine .inr fun k key htarget => ?_
      cases htarget
      rw [hplace]
      rfl

namespace Pass

/-- A step changes nothing but objects of its app. The tracker does so when its turn comes before
anything else has changed the pods and the record. -/
theorem Works.within (h : Works Eq settings r s role work outcome u) (hr : r.About app)
    (hs : s.WellFormed) (hpods : o.NamesPods) (hnames : app.HasPlainNames)
    (hjob : role = .initJob →
      s.objects.table .pod = o.table .pod ∧ r.status.progress = app.progress) :
    ∀ e ∈ work, e.Within (app.Touches o) := by
  cases h with
  | converged d run =>
    rw [hr.converge] at run
    exact fun e he => (d.converge_within hs run e he).mono fun _ _ => .dependent d
  | failed d run =>
    rw [hr.converge] at run
    exact fun e he => (d.converge_within hs run e he).mono fun _ _ => .dependent d
  | unusable password => simp
  | tracked run =>
    obtain ⟨htable, hprogress⟩ := hjob rfl
    have hrecord : r.status.initJob = app.progress.initJob := congrArg Progress.initJob hprogress
    have hown : r.app.initJobKey = app.initJobKey := InitJob.initJobKey_congr hr.key
    have hname : r.app.initJobName = app.initJobName := congrArg ObjectKey.name hown
    have hplain : Text.IsPlain r.app.initJobName := hname ▸ hnames.initJobName
    have htrack := InitJob.track_within settings.requeueJobPoll
      (hpods.of_table htable) hplain (hrecord ▸ hnames.recorded) _ _ _ run
    rw [hown, hrecord, InitJob.recordedKey_congr hr.key] at htrack
    refine fun e he => (htrack e he).mono fun k key hpart => ?_
    rcases hpart with hpart | ⟨hrecorded, hpart⟩
    · exact .ownJob (hpart.of_table htable.symm)
    · exact .recordedJob hrecorded (hpart.of_table htable.symm)

theorem Works.wellFormed {others : Store → Store → Prop}
    (h : Works others settings r s role work outcome u)
    (hothers : ∀ s s', others s s' → s.WellFormed → s'.WellFormed) (hs : s.WellFormed) :
    u.WellFormed := by
  obtain ⟨α, p, a, run⟩ := h.executes
  exact run.wellFormed hothers hs

theorem Works.pods (h : Works Eq settings r s role work outcome u) (hrole : role ≠ .initJob) :
    u.objects.table .pod = s.objects.table .pod := by
  obtain ⟨α, p, a, run⟩ := h.executes
  refine (run.table fun e he => ?_).2
  rcases h.owns (.self r) e he with hreads | ⟨d, -, hwrites⟩ | ⟨hjob, -⟩
  · rw [hreads]
    simp
  · rw [hwrites.changes?]
    cases d <;> simp
  · exact absurd hjob hrole

theorem Works.progress {others : Store → Store → Prop}
    (h : Works others settings r s role work outcome u) (hrole : role ≠ .initJob) :
    (StatusUpdate.applyAll r.status outcome.updates).progress = r.status.progress := by
  cases h with
  | converged d run => exact d.recorded_progress r _
  | failed d run => rfl
  | unusable password => rfl
  | tracked run => exact absurd rfl hrole

/-! ## Stages -/

theorem Made.wellFormed (h : Made Eq settings now r s stage) (hs : s.WellFormed) :
    stage.write.after.WellFormed := by
  obtain ⟨u, hworks, hstore⟩ := h.works
  subst hstore
  exact (hworks.wellFormed (fun _ _ he hs => he ▸ hs) hs).serve _

theorem Made.within (h : Made Eq settings now r s stage) (hr : r.About app) (hs : s.WellFormed)
    (hpods : o.NamesPods) (hnames : app.HasPlainNames)
    (hjob : stage.role = .initJob →
      s.objects.table .pod = o.table .pod ∧ r.status.progress = app.progress) :
    ∀ e ∈ stage.log, e.Within (app.Touches o) := by
  obtain ⟨u, hworks, -⟩ := h.works
  refine List.forall_mem_append.mpr ⟨hworks.within hr hs hpods hnames hjob, ?_⟩
  refine List.forall_mem_singleton.mpr (.inr fun k key htarget => ?_)
  cases htarget
  rw [Report.written_key, h.app, hr.key]
  exact .status

theorem Made.keeps (h : Made Eq settings now r s stage) (hrole : stage.role ≠ .initJob) :
    stage.write.after.objects.table .pod = s.objects.table .pod ∧
      stage.report.status.progress = r.status.progress := by
  obtain ⟨u, hworks, hstore⟩ := h.works
  subst hstore
  refine ⟨?_, ?_⟩
  · rw [← hworks.pods hrole]
    exact stage.store.serve_table (r := .replaceStatus _) (by simp [Request.changes?])
  · rw [h.report, Report.ended_progress, hworks.progress hrole]

theorem Proceeds.within {roles : List Role} {stages : List Stage} {last : List Event}
    {result : Except Failure (Option Nat)} {t : Store}
    (h : Proceeds Eq settings now roles r s stages last result t) (hroles : roles.Nodup)
    (hr : r.About app) (hs : s.WellFormed) (hpods : o.NamesPods) (hnames : app.HasPlainNames)
    (hjob : .initJob ∈ roles →
      s.objects.table .pod = o.table .pod ∧ r.status.progress = app.progress) :
    ∀ e ∈ stages.flatMap Stage.log ++ last, e.Within (app.Touches o) := by
  induction h with
  | stop made stops =>
    have hwithin := made.within hr hs hpods hnames fun hrole => hjob (hrole ▸ List.mem_cons_self)
    simpa using hwithin
  | next made succeeded accepted rest ih =>
    obtain ⟨hfirst, hroles⟩ := List.nodup_cons.mp hroles
    have hwithin := made.within hr hs hpods hnames fun hrole => hjob (hrole ▸ List.mem_cons_self)
    rw [List.flatMap_cons, List.append_assoc]
    refine List.forall_mem_append.mpr ⟨hwithin, ih hroles (made.about hr) (made.wellFormed hs) ?_⟩
    -- If the tracker is still to come, this stage is that of a dependent.
    intro hlater
    obtain ⟨htable, hprogress⟩ := hjob (List.mem_cons_of_mem _ hlater)
    obtain ⟨hpod, hkept⟩ := made.keeps fun hrole => hfirst (hrole ▸ hlater)
    exact ⟨hpod.trans htable, hkept.trans hprogress⟩
  | wait seconds gate => simp
  | @finish r s u result before refused told =>
    refine List.forall_mem_append.mpr ⟨by simp, List.forall_mem_singleton.mpr (.inr ?_)⟩
    have hkey : (r.succeed now).app.key = app.key := hr.key
    intro k key htarget
    cases htarget
    rw [Report.written_key, hkey]
    exact .status

end Pass

end Steps

/-! ## Whole passes -/

section Allowed

variable {r : Request}

theorem Pass.Allows.status (h : Pass.Allows r) :
    r.changes? ≠ some .app ∨ ∃ sent, r = .replaceStatus sent := by
  rcases h with hreads | hstatus | ⟨role, app, work, hwrites⟩
  · exact .inl (by rw [hreads]; simp)
  · exact .inr hstatus
  · exact .inl hwrites.changes?_ne_app

theorem Pass.Allows.deletes {k : Kind} {ns name : String} (h : Pass.Allows (.delete k ns name)) :
    k = .job ∨ k = .pod := by
  rcases h with hreads | ⟨sent, hstatus⟩ | ⟨role, app, work, ⟨d, -, hwrites⟩ | ⟨-, hjobs⟩⟩
  · cases hreads
  · cases hstatus
  · cases hwrites
  · exact hjobs

theorem Pass.not_allows_replace_claim {ns : String} {claim : Claim} :
    ¬ Pass.Allows (.replace .claim ns claim) := by
  rintro (hreads | ⟨sent, hstatus⟩ | ⟨role, app, work, ⟨d, -, hwrites⟩ | ⟨-, hjobs | hjobs⟩⟩)
  · cases hreads
  · cases hstatus
  · generalize hr : Request.replace .claim ns claim = r at hwrites
    cases hwrites with
    | creates name => cases hr
    | replaces read found name version changes =>
      cases d with
      | filestore => cases changes
      | _ => cases hr
  · cases hjobs
  · cases hjobs

end Allowed

/-- What a pass asks for is allowed, and changes nothing but objects of the app that it reads. -/
theorem Pass.reconcile_within {settings : PassSettings} {now : Timestamp} {fresh : String}
    {place : ObjectKey} {s t : Store} {log : List Event} {result : Except Failure (Option Nat)}
    (hs : s.WellFormed) (hpods : s.objects.NamesPods)
    (happ : ∀ app : App, s.objects.get? .app place = some app →
      app.key = place ∧ app.HasPlainNames)
    (h : (reconcile settings now fresh place.ns place.name).run.Executes Eq s log result t) :
    ∀ e ∈ log, Allows e.request ∧ e.Within fun k key =>
      ∃ app : App, s.objects.get? .app place = some app ∧ app.Touches s.objects k key := by
  obtain ⟨_, rest, rfl, rfl, ⟨rfl, -, -⟩ | ⟨app, hread, stages, last, rfl, hproceeds⟩⟩ :=
    reconcile_onwards h
  · exact List.forall_mem_singleton.mpr ⟨.inl rfl, Event.within_of_reads rfl⟩
  · obtain ⟨rfl, hnames⟩ := happ app hread
    have hallows := (Ordered.of_proceeds hproceeds).allows
    have hwithin := hproceeds.within (by decide) .start (hs.recording _) hpods hnames
      fun _ => ⟨rfl, rfl⟩
    refine List.forall_mem_cons.mpr ⟨⟨.inl rfl, Event.within_of_reads rfl⟩, fun e he => ?_⟩
    exact ⟨hallows e he, (hwithin e he).mono fun k key htouches => ⟨app, hread, htouches⟩⟩

/-- Whatever a pass comes to, it changes nothing but the objects of the app that it reads, and of
the app itself no more than the version and the status. -/
theorem pass_footprint {settings : PassSettings} {now : Timestamp} {fresh : String}
    {place : ObjectKey} {s t : Store} {log : List Event} {result : Except Failure (Option Nat)}
    (hs : s.WellFormed) (hpods : s.objects.NamesPods)
    (happ : ∀ app : App, s.objects.get? .app place = some app →
      app.key = place ∧ app.HasPlainNames)
    (h : (reconcile settings now fresh place.ns place.name).run.Executes Eq s log result t) :
    (∀ k key, (∀ app : App, s.objects.get? .app place = some app →
        ¬ app.Touches s.objects k key) → t.objects.get? k key = s.objects.get? k key) ∧
      (∀ app : App, s.objects.get? .app place = some app → t.Bears place app) ∧
      (∀ key, ∀ claim : Claim, s.objects.get? .claim key = some claim →
        t.objects.get? .claim key = some claim) ∧
      ∀ k ∈ [Kind.secret, .claim, .deployment, .service],
        (∀ e ∈ log, ∀ ns name, e.request ≠ .delete k ns name) ∧
        ∀ key, (s.objects.get? k key).isSome → (t.objects.get? k key).isSome := by
  have hpass := Pass.reconcile_within hs hpods happ h
  have hallows := fun e he => (hpass e he).1
  have hkept : ∀ k ∈ [Kind.secret, .claim, .deployment, .service], ∀ r, Pass.Allows r →
      ∀ ns name, r ≠ .delete k ns name := by
    rintro k hk r hr ns name rfl
    rcases hr.deletes with rfl | rfl <;> simp at hk
  refine ⟨fun k key hkey => h.elsewhere (fun e he => (hpass e he).2) ?_, fun app hstored => ?_,
    fun key claim hstored => ?_, fun k hk => ⟨fun e he => hkept k hk _ (hallows e he), fun key hstored => ?_⟩⟩
  · rintro ⟨app, hread, htouches⟩
    exact hkey app hread htouches
  · exact (h.keeps Pass.Allows (fun u => u.Bears place app) hallows (fun _ _ he hu => he ▸ hu)
      (fun u r hr hu => hu.serve hr.status) (Store.bears_of_get? hstored)).2
  · refine (h.keeps Pass.Allows (fun u => u.objects.get? .claim key = some claim) hallows
      (fun _ _ he hu => he ▸ hu) (fun u r hr hu => ?_) hstored).2
    refine Store.serve_created_only (by simp) (hkept .claim (by simp) r hr) ?_ hu
    rintro ns claim' rfl
    exact Pass.not_allows_replace_claim hr
  · exact (h.keeps Pass.Allows (fun u => (u.objects.get? k key).isSome) hallows
      (fun _ _ he hu => he ▸ hu) (fun u r hr hu => Store.serve_stays (hkept k hk r hr) hu) hstored).2

/-- The init job of the sample app has succeeded, and its pod is there. -/
def Sample.finished : Store :=
  Sample.recording.start.insert (k := .pod)
    { metadata :=
        { name := some "shop-init-0"
          ns := some Sample.key.ns
          labels := some (OrdMap.singleton "job-name" "shop-init") }
      content := {} }

theorem pass_footprint_sample :
    ∃ (app : App) (log : List Event) (result : Except Failure (Option Nat)) (t : Store),
      Sample.finished.objects.get? .app Sample.key = some app ∧
      (reconcile {} (.ofUnix 60) "fresh" Sample.key.ns Sample.key.name).run.Executes Eq
        Sample.finished log result t ∧
      (∀ k key, ¬ app.Touches Sample.finished.objects k key →
        t.objects.get? k key = Sample.finished.objects.get? k key) ∧
      t.Bears Sample.key app := by
  have hstored : (Sample.finished.objects.get? .app Sample.key).any fun app : App =>
      app.key = Sample.key ∧ app.progress.initJob.name = "shop-init" := by decide +kernel
  obtain ⟨app, happ, hplace⟩ := (Option.any_eq_true ..).mp hstored
  obtain ⟨hkey, hrecorded⟩ := of_decide_eq_true hplace
  have hnames : app.HasPlainNames := by
    refine ⟨?_, ?_⟩
    · rw [show app.instanceName = "shop" from congrArg ObjectKey.name hkey]
      decide
    · rw [hrecorded]
      decide
  have hpods : Sample.finished.objects.NamesPods := by
    refine Objects.NamesPods.insert (fun key pod hpod => ?_) fun _ => rfl
    have hnone : Sample.recording.start.objects.table .pod = ∅ := by decide +kernel
    rw [Objects.get?, hnone] at hpod
    cases hpod
  obtain ⟨log, hexecutes⟩ := Program.exists_executes_run
    (reconcile {} (.ofUnix 60) "fresh" Sample.key.ns Sample.key.name).run Sample.finished
  obtain ⟨helsewhere, hbears, -, -⟩ := pass_footprint (Sample.recording_wellFormed.insert _) hpods
    (fun app' happ' => by
      obtain rfl : app' = app := Option.some.inj (happ'.symm.trans happ)
      exact ⟨hkey, hnames⟩) hexecutes
  refine ⟨app, log, _, _, happ, hexecutes, fun k key hother => helsewhere k key ?_, hbears app happ⟩
  intro app' happ' htouches
  obtain rfl : app' = app := Option.some.inj (happ'.symm.trans happ)
  exact hother htouches

end OdooKeeper
