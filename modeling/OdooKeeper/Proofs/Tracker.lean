import OdooKeeper.InitJob.Tracker
import OdooKeeper.Proofs.Modules
import OdooKeeper.Proofs.Reporting

/-! # One move of the init job

What one run of the tracker can come to. Each outcome is one constructor of `InitJob.Move`; what the
passes keep true is derived from these. -/

namespace OdooKeeper

/-- The event reads a job at a key and gets one. -/
def Event.Finds (e : Event) (key : ObjectKey) (job : Job) : Prop :=
  ∃ s, e = ⟨s, .get .job key.ns key.name⟩ ∧
    (s.serve (.get .job key.ns key.name)).1 = .ok (some job)

namespace Event.Finds

variable {e : Event} {key : ObjectKey} {job : Job}

theorem stored (h : e.Finds key job) : e.store.objects.get? .job key = some job := by
  obtain ⟨s, rfl, hanswer⟩ := h
  exact Store.serve_get_ok hanswer

theorem reads (h : e.Finds key job) : e.request.changes? = none := by
  obtain ⟨s, rfl, -⟩ := h
  rfl

end Event.Finds

def Request.OnJobs (r : Request) : Prop := r.call.kind = .job ∨ r.call.kind = .pod

def App.initJobRecord (app : App) : JobRecord where
  name := app.initJobName
  ns := app.space
  modules := app.content.spec.modules

def App.initJobKey (app : App) : ObjectKey := ⟨app.space, app.initJobName⟩

def App.initJobRequest (app : App) : Request := .create .job app.space (app.initJob.ensureOwner app)

@[simp] theorem App.changes?_initJobRequest (app : App) :
    app.initJobRequest.changes? = some .job := rfl

namespace InitJob

def recordedKey (app : App) (record : JobRecord) : ObjectKey :=
  ⟨recordedSpace app record, record.name⟩

theorem recordedKey_initJobRecord (app : App) :
    recordedKey app app.initJobRecord = app.initJobKey := by
  have hspace : recordedSpace app app.initJobRecord = app.space := by
    unfold recordedSpace App.initJobRecord
    split
    · rfl
    · rfl
  unfold recordedKey App.initJobKey
  rw [hspace]
  rfl

theorem initJobKey_congr {app app' : App} (h : app.key = app'.key) :
    app.initJobKey = app'.initJobKey :=
  congrArg (fun key : ObjectKey => (⟨key.ns, key.name ++ "-init"⟩ : ObjectKey)) h

theorem recordedKey_congr {app app' : App} (h : app.key = app'.key) (record : JobRecord) :
    recordedKey app record = recordedKey app' record := by
  have hspace : app.space = app'.space := congrArg ObjectKey.ns h
  unfold recordedKey recordedSpace
  rw [hspace]

/-! ## Requests -/

section Requests

variable {allowed : Request → Prop}
  (hother : ∀ r : Request, r.OnJobs → r.call.verb ∈ [Verb.list, .delete] → allowed r)
include hother

theorem remove_requests (ns job : String) : (remove ns job).Asks allowed fun _ => True := by
  unfold remove
  refine Attempt.asks_bind
    (Attempt.asks_request (hother _ (.inr rfl) (by simp [Request.call])) fun pods => ?_)
  refine Attempt.asks_bind ((Attempt.asks_forM fun pod _ => ?_).mono fun _ _ => ?_)
  · exact Attempt.asks_request (hother _ (.inr rfl) (by simp [Request.call])) fun _ => trivial
  · exact Attempt.asks_request (hother _ (.inl rfl) (by simp [Request.call])) fun _ => trivial

theorem reusable_requests {ns name : String} (hget : allowed (.get .job ns name))
    (modules : List String) : (reusable ns name modules).Asks allowed fun _ => True := by
  unfold reusable
  refine Attempt.asks_bind (Attempt.asks_request hget fun found => ?_)
  cases found with
  | none => exact Attempt.asks_pure trivial
  | some job =>
    simp only
    split
    · exact Attempt.asks_pure trivial
    · exact Attempt.asks_bind
        ((remove_requests hother ns name).mono fun _ _ => Attempt.asks_pure trivial)

theorem startIfNeeded_requests (poll : Nat) {app : App}
    (hown : allowed (.get .job app.space app.initJobName))
    (hcreate : allowed app.initJobRequest)
    (installed : List String) (updates : List StatusUpdate) :
    (startIfNeeded poll app installed updates).Asks allowed fun _ => True := by
  unfold startIfNeeded
  split
  · exact Program.asks_pure trivial
  refine Program.asks_bind (Program.asks_ask hcreate fun created => ?_)
  cases created with
  | ok job => exact Program.asks_pure trivial
  | error cause =>
    cases cause with
    | request message => exact Program.asks_pure trivial
    | conflict message =>
      have hreusable := reusable_requests hother hown app.content.spec.modules
      refine Program.asks_bind (Program.Asks.mono hreusable fun result _ => ?_)
      split <;> exact Program.asks_pure trivial

theorem advance_requests (poll : Nat) (ns : String) (record : JobRecord) (job : Job) :
    (advance poll ns record job).Asks allowed fun _ => True := by
  have hremove := remove_requests hother ns record.name
  unfold advance
  cases job.phase with
  | pending => exact Program.asks_pure trivial
  | running => exact Program.asks_pure trivial
  | succeeded =>
    exact Program.asks_bind (Program.Asks.mono hremove fun _ _ => Program.asks_pure trivial)
  | failed =>
    exact Program.asks_bind (Program.Asks.mono hremove fun _ _ => Program.asks_pure trivial)

theorem track_requests (poll : Nat) {app : App} {status : App.Status}
    (hown : allowed (.get .job app.space app.initJobName))
    (hcreate : allowed app.initJobRequest)
    (hrecorded : status.initJob.isIdle = false →
      allowed (.get .job (recordedSpace app status.initJob) status.initJob.name)) :
    (track poll app status).Asks allowed fun _ => True := by
  unfold track
  simp only
  split
  · exact startIfNeeded_requests hother poll hown hcreate _ _
  rename_i hrecord
  refine Program.asks_bind (Program.asks_ask (hrecorded (by simpa using hrecord)) fun found => ?_)
  split
  · exact Program.asks_pure trivial
  · exact startIfNeeded_requests hother poll hown hcreate _ _
  · exact advance_requests hother ..

end Requests

theorem track_asks (poll : Nat) (app : App) (status : App.Status) :
    (track poll app status).Asks Request.OnJobs fun _ => True :=
  track_requests (fun _ hr _ => hr) poll (.inl rfl) (.inl rfl) fun _ => .inl rfl

/-! ## Rules

What is to be shown of a run is shown for each way that it can go. Others may come in before each
request. -/

section Rules

variable {others : Store → Store → Prop} {s : Store} {app : App} {status : App.Status} {poll : Nat}

theorem reusable_cases {ns name : String} {modules : List String}
    {post : List Event → Except Failure Bool → Store → Prop}
    (refused : ∀ (u : Store) failure, others s u →
      post [⟨u, .get .job ns name⟩] (.error failure) (u.recording (.get .job ns name)))
    (missing : ∀ u : Store, others s u → u.objects.get? .job ⟨ns, name⟩ = none →
      post [⟨u, .get .job ns name⟩] (.ok false) (u.recording (.get .job ns name)))
    (reused : ∀ (u : Store) (job : Job), others s u →
      u.objects.get? .job ⟨ns, name⟩ = some job → job.isInFlight = true →
      job.modules? = some modules →
      post [⟨u, .get .job ns name⟩] (.ok true) (u.recording (.get .job ns name)))
    (stale : ∀ (u : Store) (job : Job), others s u →
      u.objects.get? .job ⟨ns, name⟩ = some job →
      ¬(job.isInFlight = true ∧ job.modules? = some modules) →
      (remove ns name).run.Meets others (u.recording (.get .job ns name)) fun log result t =>
        post (⟨u, .get .job ns name⟩ :: log) (result.map fun _ => false) t) :
    (reusable ns name modules).run.Meets others s post := by
  unfold reusable
  refine Attempt.meets_bind (Attempt.meets_request fun u hu => ?_)
  rw [Store.serve_reading u rfl]
  cases hanswer : (u.serve (.get .job ns name)).1 with
  | error cause => exact refused u _ hu
  | ok found =>
    have hstored := Store.serve_get_ok hanswer
    cases found with
    | none => exact Attempt.meets_pure (missing u hu hstored)
    | some job =>
      change (ite _ _ _ : Attempt Bool).run.Meets _ _ _
      split
      · rename_i hjob
        simp only [Bool.and_eq_true, decide_eq_true_eq] at hjob
        exact Attempt.meets_pure (reused u job hu hstored hjob.1 hjob.2)
      · rename_i hjob
        simp only [Bool.and_eq_true, decide_eq_true_eq] at hjob
        refine Attempt.meets_bind ((stale u job hu hstored hjob).mono ?_)
        intro log result t h
        cases result with
        | ok done => exact Attempt.meets_pure (by rwa [List.append_nil])
        | error failure => exact h

theorem startIfNeeded_cases {installed : List String} {updates : List StatusUpdate}
    {post : List Event → Outcome → Store → Prop}
    (needless : needsInit installed app.content.spec.modules = false → post [] { updates } s)
    (failed : needsInit installed app.content.spec.modules = true → ∀ (u : Store) failure,
      others s u → post [⟨u, app.initJobRequest⟩] { updates, failure := some failure }
        (u.recording app.initJobRequest))
    (created : needsInit installed app.content.spec.modules = true → ∀ (u : Store) (job : Job),
      others s u → (u.serve app.initJobRequest).1 = .ok job →
      job.content = app.initJob.content →
      (∀ key, (u.serve app.initJobRequest).2.objects.get? .job key =
        if key = app.initJobKey then some job else u.objects.get? .job key) →
      post [⟨u, app.initJobRequest⟩] (started poll app updates) (u.serve app.initJobRequest).2)
    (taken : needsInit installed app.content.spec.modules = true → ∀ u : Store, others s u →
      (u.objects.get? .job app.initJobKey).isSome →
      (reusable app.space app.initJobName app.content.spec.modules).run.Meets others
        (u.recording app.initJobRequest) fun log result t => match result with
          | .ok true => post (⟨u, app.initJobRequest⟩ :: log) (started poll app updates) t
          | .ok false => ∀ report,
            post (⟨u, app.initJobRequest⟩ :: log) { updates, report, requeue := some poll } t
          | .error failure =>
            post (⟨u, app.initJobRequest⟩ :: log) { updates, failure := some failure } t) :
    (startIfNeeded poll app installed updates).Meets others s post := by
  have hname : (app.initJob.ensureOwner app).name = app.initJobName := Object.ensureOwner_name ..
  unfold startIfNeeded
  split
  · rename_i hneeds
    exact Program.meets_pure (needless (by simpa using hneeds))
  rename_i hneeds
  have hneeded : needsInit installed app.content.spec.modules = true := by simpa using hneeds
  refine Program.meets_bind (Program.meets_ask fun u hu => ?_)
  cases hanswer : (u.serve (.create .job app.space (app.initJob.ensureOwner app))).1 with
  | ok job =>
    obtain ⟨hjob, hstored⟩ := Store.serve_create_ok hanswer
    rw [hname] at hstored
    refine Program.meets_pure (created hneeded u job hu hanswer ?_ hstored)
    rw [hjob]
    exact Object.ensureOwner_content ..
  | error cause =>
    rw [Store.serve_error hanswer]
    cases cause with
    | request message => exact Program.meets_pure (failed hneeded u _ hu)
    | conflict message =>
      have htaken := Store.serve_create_conflict hanswer
      rw [hname] at htaken
      refine Program.meets_bind ((taken hneeded u hu htaken).mono fun log result t h => ?_)
      cases result with
      | error failure => exact Program.meets_pure (by rwa [List.append_nil])
      | ok reused =>
        cases reused with
        | true => exact Program.meets_pure (by rwa [List.append_nil])
        | false => exact Program.meets_pure (by rw [List.append_nil]; exact h _)

theorem advance_cases {ns : String} {record : JobRecord} {job : Job}
    {post : List Event → Outcome → Store → Prop}
    (unfinished : job.phase = .pending ∨ job.phase = .running → ∀ report,
      post [] { report, requeue := some poll } s)
    (ended : ∀ report updates,
      job.phase = .succeeded ∧ updates = [.initJobSucceeded] ∨
        job.phase = .failed ∧ updates = [.initJobCleared] →
      (remove ns record.name).run.Meets others s fun log removed =>
        post log (Outcome.after { updates, report } poll removed)) :
    (advance poll ns record job).Meets others s post := by
  have hended : ∀ report updates,
      job.phase = .succeeded ∧ updates = [.initJobSucceeded] ∨
        job.phase = .failed ∧ updates = [.initJobCleared] →
      ((remove ns record.name).run >>= fun removed =>
        pure (Outcome.after { updates, report } poll removed)).Meets others s post := by
    refine fun report updates h => Program.meets_bind ((ended report updates h).mono ?_)
    exact fun log removed t hpost => Program.meets_pure (by rwa [List.append_nil])
  unfold advance
  cases hphase : job.phase with
  | pending => exact Program.meets_pure (unfinished (.inl hphase) _)
  | running => exact Program.meets_pure (unfinished (.inr hphase) _)
  | succeeded => exact hended _ _ (.inl ⟨hphase, rfl⟩)
  | failed => exact hended _ _ (.inr ⟨hphase, rfl⟩)

theorem track_unrecorded (h : status.initJob.isIdle = true) :
    track poll app status = startIfNeeded poll app status.installed [] := by
  unfold track
  simp only [h, if_true]

theorem track_recorded {post : List Event → Outcome → Store → Prop}
    (hrecord : status.initJob.isIdle = false)
    (refused : ∀ (e : Event) failure, others s e.store → e.request.changes? = none →
      post [e] { failure := some failure } e.after)
    (gone : ∀ e : Event, others s e.store → e.request.changes? = none →
      e.store.objects.get? .job (recordedKey app status.initJob) = none →
      (startIfNeeded poll app status.installed [.initJobCleared]).Meets others e.after
        fun log => post (e :: log))
    (found : ∀ (e : Event) job, others s e.store → e.Finds (recordedKey app status.initJob) job →
      (advance poll (recordedSpace app status.initJob) status.initJob job).Meets others e.after
        fun log => post (e :: log)) :
    (track poll app status).Meets others s post := by
  unfold track
  simp only [hrecord, Bool.false_eq_true, if_false]
  refine Program.meets_bind (Program.meets_ask fun s' hs' => ?_)
  cases hanswer :
      (s'.serve (.get .job (recordedSpace app status.initJob) status.initJob.name)).1 with
  | error cause => exact Program.meets_pure (refused ⟨s', _⟩ _ hs' rfl)
  | ok answer =>
    cases answer with
    | none => exact gone ⟨s', _⟩ hs' rfl (Store.serve_get_ok hanswer)
    | some job => exact found ⟨s', _⟩ job hs' ⟨s', rfl, hanswer⟩

end Rules

/-! ## Moves -/

/-- A job at a key that installs what the modules of an app name. -/
def InstallsFor (app : App) (t : Store) : Prop :=
  ∃ job : Job, t.objects.get? .job app.initJobKey = some job ∧
    job.modules? = some (namedModules app.content.spec.modules)

/-- What one run comes to: its requests, its outcome and the store it leaves. -/
inductive Move (app : App) (status : App.Status) (log : List Event) (outcome : Outcome)
    (t : Store) : Prop where
  /-- No job is in flight. Unless modules have to be installed, the pass goes on. -/
  | idle (updates : outcome.updates = [] ∨ outcome.updates = [.initJobCleared])
      (installed : (StatusUpdate.applyAll status outcome.updates).installed = status.installed)
      (record : (StatusUpdate.applyAll status outcome.updates).initJob.isIdle = true)
      (settled : outcome.requeue = none → outcome.failure = none →
        needsInit status.installed app.content.spec.modules = false)
  | started (updated : (StatusUpdate.applyAll status outcome.updates).progress =
        ⟨status.installed, app.initJobRecord⟩)
      (installs : InstallsFor app t) (requeue : outcome.requeue.isSome)
  | waiting (updates : outcome.updates = []) (reads : ∀ e ∈ log, e.request.changes? = none)
      (unfinished : outcome.requeue.isSome ∨ outcome.failure.isSome)
  | succeeded (e : Event) (rest : List Event) (job : Job)
      (record : status.initJob.isIdle = false) (first : log = e :: rest)
      (found : e.Finds (recordedKey app status.initJob) job) (phase : job.phase = .succeeded)
      (updates : outcome.updates = [.initJobSucceeded])
      (unfinished : outcome.requeue.isSome ∨ outcome.failure.isSome)

section Moves

variable {others : Store → Store → Prop} {s : Store} {app : App} {status : App.Status}

theorem reusable_meets (ns name : String) (modules : List String) :
    (reusable ns name modules).run.Meets others s fun _ result t =>
      result = .ok true → ∃ job : Job, t.objects.get? .job ⟨ns, name⟩ = some job ∧
        job.modules? = some modules := by
  refine reusable_cases (fun u failure _ h => by cases h) (fun u _ _ h => by cases h)
    (fun u job _ hstored _ hmodules _ => ⟨job, hstored, hmodules⟩)
    fun u _ _ _ _ log result t _ h => ?_
  cases result <;> cases h

theorem startIfNeeded_meets (poll : Nat) (installed : List String) (updates : List StatusUpdate) :
    (startIfNeeded poll app installed updates).Meets others s fun _ outcome t =>
      (outcome.updates = updates ∧ (outcome.requeue = none → outcome.failure = none →
        needsInit installed app.content.spec.modules = false)) ∨
      (outcome.updates = updates ++ [.initJobStarted app.initJobRecord] ∧ InstallsFor app t ∧
        outcome.requeue.isSome) := by
  refine startIfNeeded_cases (fun hneedless => .inl ⟨rfl, fun _ _ => hneedless⟩)
    (fun _ u failure _ => .inl ⟨rfl, fun _ h => by cases h⟩)
    (fun _ u job _ _ hcontent hstored => .inr ⟨rfl, ⟨job, ?_, modules?_initJob hcontent⟩, rfl⟩)
    fun _ u _ _ => ?_
  · rw [hstored, if_pos rfl]
  · -- A job of that name is there already, and is as good if it installs the same modules.
    refine (reusable_meets app.space app.initJobName app.content.spec.modules).mono
      fun log result t hresult => ?_
    split
    · obtain ⟨job, hjob, hmodules⟩ := hresult rfl
      refine .inr ⟨rfl, ⟨job, hjob, ?_⟩, rfl⟩
      rw [hmodules, Job.namedModules_of_modules? hmodules]
    · exact fun report => .inl ⟨rfl, fun h => by cases h⟩
    · exact .inl ⟨rfl, fun _ h => by cases h⟩

theorem after_open (outcome : Outcome) (requeue : Nat) (removed : Except Failure Unit) :
    (Outcome.after outcome requeue removed).updates = outcome.updates ∧
      ((Outcome.after outcome requeue removed).requeue.isSome ∨
        (Outcome.after outcome requeue removed).failure.isSome) := by
  cases removed with
  | ok _ => exact ⟨rfl, .inl rfl⟩
  | error failure => exact ⟨rfl, .inr rfl⟩

theorem advance_meets (poll : Nat) (ns : String) (record : JobRecord) (job : Job) :
    (advance poll ns record job).Meets others s fun log outcome _ =>
      (outcome.requeue.isSome ∨ outcome.failure.isSome) ∧
      ((job.phase = .pending ∨ job.phase = .running) ∧ outcome.updates = [] ∧ log = [] ∨
        job.phase = .succeeded ∧ outcome.updates = [.initJobSucceeded] ∨
        job.phase = .failed ∧ outcome.updates = [.initJobCleared]) := by
  refine advance_cases (fun hphase _ => ⟨.inl rfl, .inl ⟨hphase, rfl, rfl⟩⟩)
    fun report updates hended log removed t _ => ?_
  obtain ⟨hupdates, hopen⟩ := after_open { updates, report } poll removed
  rcases hended with ⟨hphase, rfl⟩ | ⟨hphase, rfl⟩
  · exact ⟨hopen, .inr (.inl ⟨hphase, hupdates⟩)⟩
  · exact ⟨hopen, .inr (.inr ⟨hphase, hupdates⟩)⟩

/-- Every run is one of the moves. -/
theorem track_meets (poll : Nat) :
    (track poll app status).Meets others s fun log outcome t => Move app status log outcome t := by
  cases hrecord : status.initJob.isIdle with
  | true =>
    rw [track_unrecorded hrecord]
    refine (startIfNeeded_meets poll status.installed []).mono fun log outcome t h => ?_
    rcases h with ⟨hupdates, hsettled⟩ | ⟨hupdates, hinstalls, hrequeue⟩
    · refine .idle (.inl hupdates) ?_ ?_ hsettled <;> rw [hupdates]
      · rfl
      · exact hrecord
    · refine .started ?_ hinstalls hrequeue
      rw [hupdates]
      rfl
  | false =>
    refine track_recorded hrecord (fun e _ _ hreads => ?_) (fun e _ _ _ => ?_)
      fun e job _ hfound => ?_
    · exact .waiting rfl (by simpa using hreads) (.inr rfl)
    · -- The job is gone. Its record goes too, and another job may be started right away.
      refine (startIfNeeded_meets poll status.installed [.initJobCleared]).mono
        fun log outcome t h => ?_
      rcases h with ⟨hupdates, hsettled⟩ | ⟨hupdates, hinstalls, hrequeue⟩
      · refine .idle (.inr hupdates) ?_ ?_ hsettled <;> rw [hupdates] <;> rfl
      · refine .started ?_ hinstalls hrequeue
        rw [hupdates]
        rfl
    · refine (advance_meets poll _ status.initJob job).mono fun log outcome t h => ?_
      obtain ⟨hopen, ⟨-, hupdates, rfl⟩ | ⟨hphase, hupdates⟩ | ⟨hphase, hupdates⟩⟩ := h
      · exact .waiting hupdates (by simpa using hfound.reads) hopen
      · exact .succeeded e log job hrecord rfl hfound hphase hupdates hopen
      · -- The job has failed: its record goes, and the pass ends.
        refine .idle (.inr hupdates) ?_ ?_ ?_
        · rw [hupdates]; rfl
        · rw [hupdates]; rfl
        · intro hrequeue hfailure
          simp [hrequeue, hfailure] at hopen

theorem track_found (poll : Nat) {job : Job} (hrecord : status.initJob.isIdle = false)
    (hphase : job.phase = .succeeded)
    (hjob : ∀ s', others s s' →
      s'.objects.get? .job (recordedKey app status.initJob) = some job) :
    (track poll app status).Meets others s fun log outcome _ =>
      (∀ e ∈ log, e.request.changes? = none) ∨
      (∃ found ∈ log, found.Finds (recordedKey app status.initJob) job) ∧
        outcome.updates = [.initJobSucceeded] := by
  refine track_recorded hrecord (fun e _ _ hreads => .inl (by simpa using hreads))
    (fun e hbefore _ hgone => ?_) fun e live hbefore hfound => ?_
  · rw [hjob _ hbefore] at hgone
    cases hgone
  · obtain rfl : job = live := Option.some.inj ((hjob _ hbefore).symm.trans hfound.stored)
    refine (advance_meets poll _ status.initJob job).mono fun log outcome t h => .inr ⟨?_, ?_⟩
    · exact ⟨e, List.mem_cons_self, hfound⟩
    · rw [hphase] at h
      simpa using h.2

end Moves

end InitJob

end OdooKeeper
