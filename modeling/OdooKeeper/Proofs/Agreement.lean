import OdooKeeper.Proofs.Statuses

/-! # The job record and the condition about the database

The status has a record of the job in flight and a condition about the database. They are changed by
different means, but the two never disagree. -/

namespace OdooKeeper

/-! ## What a run of the tracker tells -/

/-- What the outcome of a run of the tracker tells about the job in flight, of which there was a
record. -/
inductive InitJob.Verdict (app : App) (record : JobRecord) (outcome : Outcome) : Prop where
  | kept (updates : outcome.updates = []) (report : ∀ c ∈ outcome.report, c.status = .unknown)
  | cleared (updates : outcome.updates = [.initJobCleared])
      (report : ∀ c ∈ outcome.report, c.status ≠ .true)
  | started (needed : app.content.spec.modules ≠ []) (before : List StatusUpdate)
      (updates : outcome.updates = before ++ [.initJobStarted app.initJobRecord])
      (report : ∃ c, outcome.report = some c ∧ c.status = .unknown)
  | succeeded (recorded : record.isIdle = false) (updates : outcome.updates = [.initJobSucceeded])

namespace InitJob

variable {allowed : Request → Prop} {app : App} {record : JobRecord} {installed : List String}
  {updates : List StatusUpdate}

theorem Verdict.unstarted {report : Option JobReport} {requeue : Option Nat}
    {failure : Option Failure} (hupdates : updates = [] ∨ updates = [.initJobCleared])
    (hreport : ∀ c ∈ report, c.status = .unknown) :
    Verdict app record { updates, report, requeue, failure } := by
  rcases hupdates with rfl | rfl
  · exact .kept rfl hreport
  · exact .cleared rfl fun c hc => by simp [hreport c hc]

theorem Verdict.start (poll : Nat)
    (hneeded : needsInit installed app.content.spec.modules = true) (updates : List StatusUpdate) :
    Verdict app record (InitJob.started poll app updates) := by
  have hmodules : app.content.spec.modules ≠ [] := by
    intro hempty
    rw [hempty] at hneeded
    simp [needsInit] at hneeded
  exact .started hmodules updates rfl ⟨_, rfl, rfl⟩

theorem startIfNeeded_verdict (poll : Nat) (h : updates = [] ∨ updates = [.initJobCleared]) :
    (startIfNeeded poll app installed updates).Asks (fun _ => True) (Verdict app record) := by
  unfold startIfNeeded
  split
  · exact Program.asks_pure (.unstarted h (by simp))
  rename_i hneeds
  have hneeded : needsInit installed app.content.spec.modules = true := by simpa using hneeds
  refine Program.asks_bind (Program.asks_ask (r := app.initJobRequest) trivial fun created => ?_)
  cases created with
  | ok job => exact Program.asks_pure (.start poll hneeded updates)
  | error cause =>
    cases cause with
    | request message => exact Program.asks_pure (.unstarted h (by simp))
    | conflict message =>
      have hreusable : (reusable app.space app.initJobName app.content.spec.modules).Asks
          (fun _ => True) fun _ => True :=
        reusable_requests (fun _ _ _ => trivial) trivial app.content.spec.modules
      refine Program.asks_bind (Program.Asks.mono hreusable fun result _ => ?_)
      split
      · exact Program.asks_pure (.start poll hneeded updates)
      · exact Program.asks_pure (.unstarted h (by simp))
      · exact Program.asks_pure (.unstarted h (by simp))

theorem advance_verdict (poll : Nat) (ns : String) (job : Job) (h : record.isIdle = false) :
    (advance poll ns record job).Asks (fun _ => True) (Verdict app record) := by
  have hremove : (remove ns record.name).Asks (fun _ => True) fun _ => True :=
    remove_requests (fun _ _ _ => trivial) ns record.name
  unfold advance
  cases job.phase with
  | pending => exact Program.asks_pure (.unstarted (.inl rfl) (by simp))
  | running => exact Program.asks_pure (.unstarted (.inl rfl) (by simp))
  | succeeded =>
    refine Program.asks_bind (Program.Asks.mono hremove fun removed _ => Program.asks_pure ?_)
    cases removed <;> exact .succeeded h rfl
  | failed =>
    refine Program.asks_bind (Program.Asks.mono hremove fun removed _ => Program.asks_pure ?_)
    cases removed <;> exact .cleared rfl (by simp [Outcome.after])

theorem track_verdict (poll : Nat) (app : App) (status : App.Status) :
    (track poll app status).Asks (fun _ => True) (Verdict app status.initJob) := by
  cases hrecord : status.initJob.isIdle with
  | true =>
    rw [track_unrecorded hrecord]
    exact startIfNeeded_verdict poll (.inl rfl)
  | false =>
    unfold track
    simp only [hrecord, Bool.false_eq_true, if_false]
    refine Program.asks_bind (Program.asks_ask (r := .get .job _ _) trivial fun found => ?_)
    split
    · exact Program.asks_pure (.kept rfl (by simp))
    · exact startIfNeeded_verdict poll (.inr rfl)
    · exact advance_verdict poll _ _ hrecord

end InitJob

/-! ## Agreement -/

/-- What the status says in the condition of a type, if there is one. -/
def App.Status.says? (status : App.Status) (type : ConditionType) : Option String :=
  (Condition.find? type status.conditions).map Condition.status

/-- The record of the job in flight and the condition about the database agree. -/
structure App.Status.Agrees (key : ObjectKey) (status : App.Status) : Prop where
  /-- A job in flight is the app's own and installs something; whether the database is ready is not
  known then. -/
  inFlight : status.initJob.isIdle = false → status.initJob.name = key.name ++ "-init" ∧
    status.initJob.ns = key.ns ∧ status.initJob.modules ≠ [] ∧
    status.says? .databaseInitialized = some ConditionStatus.unknown.name
  /-- When the database is ready, no job is in flight, and there are modules in it. -/
  initialized : status.says? .databaseInitialized = some ConditionStatus.true.name →
    status.initJob.isIdle = true ∧ status.installed ≠ []

namespace App.Status.Agrees

variable {key : ObjectKey} {status status' : App.Status} {r : Report} {now : Timestamp}
  {role : Role} {outcome : Outcome}

theorem of_progress (h : status.Agrees key) (hprogress : status'.progress = status.progress)
    (hstated : status'.says? .databaseInitialized = status.says? .databaseInitialized) :
    status'.Agrees key := by
  have hinstalled : status'.installed = status.installed := congrArg Progress.installed hprogress
  have hrecord : status'.initJob = status.initJob := congrArg Progress.initJob hprogress
  refine ⟨?_, ?_⟩
  · rw [hrecord, hstated]
    exact h.inFlight
  · rw [hrecord, hstated, hinstalled]
    exact h.initialized

theorem of_idle (hidle : status.initJob.isIdle = true)
    (hinstalled : status.says? .databaseInitialized = some ConditionStatus.true.name →
      status.installed ≠ []) : status.Agrees key := by
  refine ⟨fun hrecorded => ?_, fun htrue => ⟨hidle, hinstalled htrue⟩⟩
  rw [hidle] at hrecorded
  cases hrecorded

theorem of_unknown
    (hstated : status.says? .databaseInitialized = some ConditionStatus.unknown.name)
    (hrecord : status.initJob.isIdle = false → status.initJob.name = key.name ++ "-init" ∧
      status.initJob.ns = key.ns ∧ status.initJob.modules ≠ []) : status.Agrees key := by
  refine ⟨fun hrecorded => ?_, fun htrue => ?_⟩
  · obtain ⟨hname, hns, hmodules⟩ := hrecord hrecorded
    exact ⟨hname, hns, hmodules, hstated⟩
  · rw [hstated] at htrue
    exact absurd htrue (by decide)

theorem says?_ended (r : Report) (now : Timestamp) (role : Role) (outcome : Outcome) :
    (r.ended now role outcome).status.says? .databaseInitialized =
      (outcome.report.map fun c => c.status.name).or (r.status.says? .databaseInitialized) := by
  unfold App.Status.says?
  cases hreport : outcome.report with
  | none =>
    rw [Report.ended_find? hreport]
    rfl
  | some c =>
    obtain ⟨since, hfind⟩ := Report.ended_reported hreport
    change Condition.find? .databaseInitialized _ = _ at hfind
    rw [hfind]
    rfl

theorem ended_silent (h : r.status.Agrees key) (hreport : outcome.report = none)
    (hprogress : (StatusUpdate.applyAll r.status outcome.updates).progress = r.status.progress) :
    (r.ended now role outcome).status.Agrees key := by
  refine h.of_progress (Report.ended_progress.trans hprogress) ?_
  rw [says?_ended, hreport]
  rfl

theorem ended_kept (h : r.status.Agrees key) (hupdates : outcome.updates = [])
    (hreport : ∀ c ∈ outcome.report, c.status = .unknown) :
    (r.ended now role outcome).status.Agrees key := by
  have hprogress : (r.ended now role outcome).status.progress = r.status.progress := by
    rw [Report.ended_progress, hupdates]
    rfl
  have hstated := says?_ended r now role outcome
  cases hsome : outcome.report with
  | none => exact h.ended_silent hsome (Report.ended_progress.symm.trans hprogress)
  | some c =>
    have hrecord : (r.ended now role outcome).status.initJob = r.status.initJob :=
      congrArg Progress.initJob hprogress
    rw [hsome, Option.map_some, Option.some_or, hreport c hsome] at hstated
    refine of_unknown hstated fun hrecorded => ?_
    rw [hrecord] at hrecorded ⊢
    obtain ⟨hname, hns, hmodules, -⟩ := h.inFlight hrecorded
    exact ⟨hname, hns, hmodules⟩

theorem ended_cleared (h : r.status.Agrees key) (hupdates : outcome.updates = [.initJobCleared])
    (hreport : ∀ c ∈ outcome.report, c.status ≠ .true) :
    (r.ended now role outcome).status.Agrees key := by
  have hprogress : (r.ended now role outcome).status.progress = ⟨r.status.installed, {}⟩ := by
    rw [Report.ended_progress, hupdates]
    rfl
  obtain ⟨hinstalled, hrecord⟩ := Progress.mk.inj hprogress
  refine of_idle (by rw [hrecord]; rfl) fun htrue => ?_
  rw [says?_ended] at htrue
  cases hsome : outcome.report with
  | none =>
    rw [hsome] at htrue
    rw [hinstalled]
    exact (h.initialized htrue).2
  | some c =>
    rw [hsome, Option.map_some, Option.some_or, Option.some.injEq] at htrue
    exact absurd (ConditionStatus.name_inj htrue) (hreport c hsome)

theorem ended_started {before : List StatusUpdate} (hkey : r.app.key = key)
    (hneeded : r.app.content.spec.modules ≠ [])
    (hupdates : outcome.updates = before ++ [.initJobStarted r.app.initJobRecord])
    (hreport : ∃ c, outcome.report = some c ∧ c.status = .unknown) :
    (r.ended now role outcome).status.Agrees key := by
  have hrecord : (r.ended now role outcome).status.initJob = r.app.initJobRecord := by
    refine (congrArg Progress.initJob Report.ended_progress).trans ?_
    rw [hupdates, StatusUpdate.applyAll, List.foldl_append]
    rfl
  obtain ⟨c, hsome, hstatus⟩ := hreport
  have hstated := says?_ended r now role outcome
  rw [hsome, Option.map_some, Option.some_or, hstatus] at hstated
  refine of_unknown hstated fun _ => ?_
  rw [hrecord, ← hkey]
  exact ⟨rfl, rfl, hneeded⟩

/-- The modules of a job that has succeeded are the installed ones then. -/
theorem ended_succeeded (h : r.status.Agrees key) (hrecorded : r.status.initJob.isIdle = false)
    (hupdates : outcome.updates = [.initJobSucceeded]) :
    (r.ended now role outcome).status.Agrees key := by
  have hprogress : (r.ended now role outcome).status.progress = ⟨r.status.initJob.modules, {}⟩ := by
    rw [Report.ended_progress, hupdates]
    rfl
  obtain ⟨hinstalled, hrecord⟩ := Progress.mk.inj hprogress
  refine of_idle (by rw [hrecord]; rfl) fun _ => ?_
  rw [hinstalled]
  exact (h.inFlight hrecorded).2.2.1

theorem ended_tracked (hkey : r.app.key = key) (h : r.status.Agrees key)
    (hverdict : InitJob.Verdict r.app r.status.initJob outcome) :
    (r.ended now role outcome).status.Agrees key := by
  cases hverdict with
  | kept updates report => exact h.ended_kept updates report
  | cleared updates report => exact h.ended_cleared updates report
  | started needed before updates report => exact ended_started hkey needed updates report
  | succeeded recorded updates => exact h.ended_succeeded recorded updates

end App.Status.Agrees

theorem Pass.keeps_agrees (key : ObjectKey) : Keeps key (App.Status.Agrees key) where
  unset := .of_idle rfl fun htrue => by cases htrue
  works := by
    intro others settings now role outcome r s u work hkey h hworks
    cases hworks with
    | converged d run => exact h.ended_silent rfl (d.recorded_progress r _)
    | failed d run => exact h.ended_silent rfl rfl
    | unusable password => exact h.ended_silent rfl rfl
    | tracked run =>
      exact h.ended_tracked hkey (run.asked (InitJob.track_verdict _ r.app r.status)).2
  finish := by
    intro r now h
    refine h.of_progress Report.succeed_progress ?_
    unfold App.Status.says? Report.succeed Report.setOutcome Report.setCondition
    rw [Condition.find?_set_of_ne (by simp), Condition.find?_set_of_ne (by simp)]

/-- Passes over an app that has no status at first go on while others change anything but its status.
In every status that is ever stored the job record and the condition about the database agree. -/
theorem status_agrees {key : ObjectKey} {first s : Store} {rounds : List Round}
    (hfirst : ∀ status, ¬ first.HasStatus key status)
    (hrun : SharedRun (Store.SparesStatus key) key first rounds s) :
    (∀ round ∈ rounds, ∀ t, round.Visits t → ∀ status, t.HasStatus key status →
        status.Agrees key) ∧
      ∀ status, s.HasStatus key status → status.Agrees key :=
  hrun.statuses (Pass.keeps_agrees key) hfirst

theorem status_agrees_sample : ∃ status, Sample.starting.stop.HasStatus Sample.key status ∧
    status.initJob.isIdle = false ∧ status.Agrees Sample.key := by
  have hrecorded : ((Sample.starting.stop.objects.get? .app Sample.key).bind fun app =>
      app.content.status.map fun status => status.initJob.isIdle) = some false := by
    decide +kernel
  obtain ⟨app, happ, hstatus⟩ := Option.bind_eq_some_iff.mp hrecorded
  obtain ⟨status, hstatus, hidle⟩ := Option.map_eq_some_iff.mp hstatus
  refine ⟨status, ⟨app, happ, hstatus⟩, hidle, ?_⟩
  exact (status_agrees Sample.untouched.no_status Sample.run_shared).1 Sample.starting (by simp) _
    (.inr (.inr rfl)) status ⟨app, happ, hstatus⟩

end OdooKeeper
