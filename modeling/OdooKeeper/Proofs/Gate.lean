import OdooKeeper.Proofs.Runs

/-! # The gate before the workload

With the gate on, a pass comes to the deployment and the services only when no job is in flight and
none is needed. If there is anything to install, an earlier pass has seen the recorded job succeed. -/

namespace OdooKeeper

/-- The event finds the job that the stored app records, and the job has succeeded. -/
def Event.FindsSuccess (e : Event) (key : ObjectKey) : Prop :=
  ∃ app : App, ∃ job : Job, e.store.objects.get? .app key = some app ∧
    app.progress.initJob.isIdle = false ∧
    e.Finds (InitJob.recordedKey app app.progress.initJob) job ∧ job.phase = .succeeded

/-- No job is in flight for the app, and none is needed. -/
def App.IsInitialised (app : App) : Prop :=
  app.progress.initJob.isIdle = true ∧
    needsInit app.progress.installed app.content.spec.modules = false

theorem installed_of_initialised {app : App} (h : app.IsInitialised)
    (hmodules : app.content.spec.modules ≠ []) : app.progress.installed ≠ [] := by
  intro hnone
  obtain ⟨-, hneeds⟩ := h
  rw [hnone] at hneeds
  simp [needsInit, hmodules] at hneeds

/-! ## Invariant -/

/-- What holds after every round: modules are installed only after a recorded job has been found to
have succeeded. -/
def GateSound (key : ObjectKey) (logs : List (List Event)) (s : Store) : Prop :=
  ∃ spec p, s.Holds key spec p ∧
    (p.installed = [] ∨ ∃ log ∈ logs, ∃ found ∈ log, found.FindsSuccess key)

section Invariant

variable {key : ObjectKey} {logs : List (List Event)} {s s' t : Store} {settings : PassSettings}
  {now : Timestamp} {fresh : String} {log : List Event} {result : Except Failure (Option Nat)}

theorem GateSound.start (h : s.Untouched key) : GateSound key [] s := by
  obtain ⟨spec, hs⟩ := h.holds
  exact ⟨spec, {}, hs, .inl rfl⟩

theorem GateSound.others (h : GateSound key logs s) (hstatus : s.KeepsStatus key s') :
    GateSound key logs s' := by
  obtain ⟨spec, p, hs, hinstalled⟩ := h
  obtain ⟨spec', hs'⟩ := hstatus.holds hs
  exact ⟨spec', p, hs', hinstalled⟩

theorem GateSound.pass (h : GateSound key logs s)
    (hpass : (reconcile settings now fresh key.ns key.name).run.Executes Eq s log result t) :
    GateSound key (logs ++ [log]) t := by
  obtain ⟨spec, p, hs, hinstalled⟩ := h
  have hlater : p.installed = [] ∨
      ∃ seen ∈ logs ++ [log], ∃ found ∈ seen, found.FindsSuccess key := by
    rcases hinstalled with hnone | ⟨seen, hseen, hfound⟩
    · exact .inl hnone
    · exact .inr ⟨seen, List.mem_append_left _ hseen, hfound⟩
  cases Pass.undisturbed hpass hs with
  | unmoved kinds holds stop jobs => exact ⟨spec, p, stop, hlater⟩
  | @moved plog tlog wlog app sent stored status outcome u _ about move kinds onJobs before begins
      reads write progress written after goesOn workload holds stop jobs =>
    obtain ⟨hkey, hspec, rfl⟩ := about
    refine ⟨spec, stored.progress, stop, ?_⟩
    rw [progress]
    cases move with
    | idle updates installed record settled =>
      rw [App.Status.progress, installed]
      exact hlater
    | started updated installs requeue =>
      rw [updated]
      exact hlater
    | waiting updates reads unfinished =>
      rw [updates]
      exact hlater
    | succeeded e rest job record first found phase updates unfinished =>
      -- The tracker has found the job itself, with the record of the app as it is stored.
      have he : e ∈ plog ++ tlog := by simp [first]
      obtain ⟨app', happ', hkey', -, hp'⟩ := (before e he).1
      have hrecord : app'.progress.initJob = status.initJob := congrArg Progress.initJob hp'
      have hfound : e.FindsSuccess key := by
        refine ⟨app', job, happ', by rw [hrecord, record], ?_, phase⟩
        rw [hrecord, InitJob.recordedKey_congr (hkey'.trans hkey.symm)]
        exact found
      refine .inr ⟨_, List.mem_append_right _ (List.mem_singleton.mpr rfl), e, ?_, hfound⟩
      exact List.mem_append.mpr ((List.mem_append.mp he).imp_right (List.mem_append_left _))

theorem InitJob.Move.settled {app : App} {status : App.Status} {tlog : List Event}
    {outcome : Outcome} {u : Store} (h : InitJob.Move app status tlog outcome u)
    (hrequeue : outcome.requeue = none) (hfailure : outcome.failure = none) :
    (StatusUpdate.applyAll status outcome.updates).initJob.isIdle = true ∧
      (StatusUpdate.applyAll status outcome.updates).installed = status.installed ∧
      needsInit status.installed app.content.spec.modules = false := by
  cases h with
  | idle updates installed record settled => exact ⟨record, installed, settled hrequeue hfailure⟩
  | started updated installs requeue => simp [hrequeue] at requeue
  | waiting updates reads unfinished => simp [hrequeue, hfailure] at unfinished
  | succeeded e rest job record first found phase updates unfinished =>
    simp [hrequeue, hfailure] at unfinished

theorem workload_later {plog tlog wlog : List Event} {e write : Event}
    (hkind : e.request.call.kind = .deployment ∨ e.request.call.kind = .service)
    (hprepare : ∀ e ∈ plog, e.request.call.kind ∈ [Kind.app, Kind.secret, Kind.claim])
    (htrack : ∀ e ∈ tlog, e.request.OnJobs) (hwrite : write.request.call.kind = .app)
    (he : e ∈ plog ++ (tlog ++ write :: wlog)) : e ∈ wlog := by
  have hother : ∀ kinds : List Kind, e.request.call.kind ∈ kinds → Kind.deployment ∉ kinds →
      Kind.service ∉ kinds → False := by
    intro kinds hin hdeployment hservice
    rcases hkind with hkind | hkind <;> rw [hkind] at hin
    · exact hdeployment hin
    · exact hservice hin
  rcases List.mem_append.mp he with hin | hin
  · exact (hother _ (hprepare e hin) (by simp) (by simp)).elim
  rcases List.mem_append.mp hin with hin | hin
  · have hjobs : e.request.call.kind ∈ [Kind.job, Kind.pod] := by
      simpa [Request.OnJobs] using htrack e hin
    exact (hother _ hjobs (by simp) (by simp)).elim
  rcases List.mem_cons.mp hin with rfl | hin
  · exact (hother [.app] (by simp [hwrite]) (by simp) (by simp)).elim
  · exact hin

theorem Store.Holds.initialised {stored : App} (h : s.Holds key stored.content.spec stored.progress)
    (hstored : stored.IsInitialised) : ∃ app : App, s.objects.get? .app key = some app ∧
      app.content.spec = stored.content.spec ∧ app.IsInitialised := by
  obtain ⟨app, happ, -, hspec, hprogress⟩ := h
  refine ⟨app, happ, hspec, ?_⟩
  unfold App.IsInitialised
  rw [hprogress, hspec]
  exact hstored

/-- A request on the workload comes after a write that says that nothing is left to install. -/
theorem gated_pass {spec : App.Spec} {p : Progress} (hs : s.Holds key spec p)
    (hpass : (reconcile settings now fresh key.ns key.name).run.Executes Eq s log result t)
    (hgate : settings.gateWorkload = true) {e : Event} (he : e ∈ log)
    (hkind : e.request.call.kind = .deployment ∨ e.request.call.kind = .service) :
    ∃ before written after stored, log = before ++ written :: after ∧ written.Stores stored ∧
      stored.IsInitialised ∧ e ∈ after ∧ stored.progress.installed = p.installed ∧
      ∀ e' ∈ after, ¬ e'.request.OnJobs ∧ ∃ app : App, e'.store.objects.get? .app key = some app ∧
        app.content.spec = stored.content.spec ∧ app.IsInitialised := by
  cases Pass.undisturbed hpass hs with
  | unmoved kinds holds stop jobs =>
    have hkinds := kinds e he
    rcases hkind with hkind | hkind <;> simp [hkind] at hkinds
  | @moved plog tlog wlog app sent stored status outcome u _ about move kinds onJobs before begins
      reads write progress written after goesOn workload holds stop jobs =>
    obtain ⟨hkey, hspec, rfl⟩ := about
    have hlater : e ∈ wlog := workload_later hkind kinds onJobs rfl he
    obtain ⟨hfailure, hrequeue⟩ := goesOn (List.ne_nil_of_mem hlater)
    have hnone : outcome.requeue = none := by simpa [hgate] using hrequeue
    obtain ⟨hidle, hinstalled, hneedless⟩ := move.settled hnone hfailure
    obtain ⟨stored', hstored', -, hstoredSpec, -⟩ := after
    rw [written] at hstored'
    cases hstored'
    rw [hspec, ← hstoredSpec] at hneedless
    rw [← hstoredSpec] at holds
    have hsame : stored.progress.installed = status.installed := by
      rw [progress]
      exact hinstalled
    have hinitialised : stored.IsInitialised := by
      refine ⟨?_, ?_⟩
      · rw [progress]
        exact hidle
      · rw [hsame]
        exact hneedless
    refine ⟨plog ++ tlog, ⟨u, .replaceStatus sent⟩, wlog, stored, (List.append_assoc ..).symm,
      ⟨u, sent, rfl, write⟩, hinitialised, hlater, hsame,
      fun e' he' => ⟨?_, (holds e' he').1.initialised hinitialised⟩⟩
    have hkinds := workload e' he'
    unfold Request.OnJobs
    rintro (hjob | hpod)
    · simp [hjob] at hkinds
    · simp [hpod] at hkinds

end Invariant

/-! ## Runs -/

/-- With the gate on, a pass asks for nothing of the workload before it has stored that no job is in
flight and none is needed; and this stays so to its end. -/
theorem workload_gated {key : ObjectKey} {first s : Store} {rounds earlier later : List Round}
    {round : Round} {e : Event} (hfirst : first.Untouched key)
    (hrun : Run (Store.KeepsStatus key) key first rounds s)
    (hrounds : rounds = earlier ++ round :: later) (hgate : round.settings.gateWorkload = true)
    (he : e ∈ round.log)
    (hkind : e.request.call.kind = .deployment ∨ e.request.call.kind = .service) :
    ∃ before written after stored, round.log = before ++ written :: after ∧
      written.Stores stored ∧ stored.IsInitialised ∧ e ∈ after ∧
      (∀ e' ∈ after, ¬ e'.request.OnJobs ∧ ∃ app : App, e'.store.objects.get? .app key = some app ∧
        app.content.spec = stored.content.spec ∧ app.IsInitialised) ∧
      (stored.content.spec.modules ≠ [] →
        ∃ log ∈ earlier.map Round.log, ∃ found ∈ log, found.FindsSuccess key) := by
  obtain ⟨⟨spec, p, hs, hinstalled⟩, result, hpass⟩ := hrun.invariant_cut (GateSound.start hfirst)
    (fun _ _ _ h hkeeps => h.others hkeeps) (fun _ _ h ⟨_, hpass⟩ => h.pass hpass) hrounds
  obtain ⟨before, written, after, stored, hlog, hstores, hinitialised, hafter, hsame, hrest⟩ :=
    gated_pass hs hpass hgate he hkind
  refine ⟨before, written, after, stored, hlog, hstores, hinitialised, hafter, hrest, ?_⟩
  intro hmodules
  have hsome := installed_of_initialised hinitialised hmodules
  rw [hsame] at hsome
  exact hinstalled.resolve_left hsome

theorem workload_gated_sample : ∃ e ∈ Sample.serving.log, e.request.call.kind = .deployment ∧
    ∃ stored : App, stored.IsInitialised ∧ (stored.content.spec.modules ≠ [] →
      ∃ log ∈ [Sample.starting.log, Sample.recording.log], ∃ found ∈ log,
        found.FindsSuccess Sample.key) := by
  have hany : Sample.serving.log.any (fun e => e.request.call.kind = .deployment) = true := by
    decide +kernel
  obtain ⟨e, he, hkind⟩ := List.any_eq_true.mp hany
  have hkind : e.request.call.kind = .deployment := of_decide_eq_true hkind
  have hrounds : [Sample.starting, Sample.recording, Sample.serving] =
      [Sample.starting, Sample.recording] ++ Sample.serving :: [] := rfl
  obtain ⟨-, -, -, stored, -, -, hinitialised, -, -, hfound⟩ :=
    workload_gated Sample.untouched (Sample.run.mono fun _ _ h => h.1) hrounds rfl he (.inl hkind)
  exact ⟨e, he, hkind, stored, hinitialised, hfound⟩

end OdooKeeper
