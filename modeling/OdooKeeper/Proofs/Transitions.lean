import OdooKeeper.Proofs.Effects
import OdooKeeper.Proofs.Idling
import OdooKeeper.Proofs.Leaking

/-! # Transitions of the init job

What one run of the tracker does to jobs and what it tells of them, by the store that it finds. -/

namespace OdooKeeper

/-! ## Creations -/

def creations (log : List Event) : List Request :=
  (log.map Event.request).filter fun r => r.call.verb = .create

section Creations

variable {log : List Event} {e : Event}

theorem creations_cons (h : e.request.call.verb ≠ .create) :
    creations (e :: log) = creations log :=
  List.filter_cons_of_neg (by simpa using h)

theorem creations_cons_create (h : e.request.call.verb = .create) :
    creations (e :: log) = e.request :: creations log :=
  List.filter_cons_of_pos (by simpa using h)

theorem creations_eq_nil (h : ∀ e ∈ log, e.request.call.verb ≠ .create) : creations log = [] := by
  refine List.filter_eq_nil_iff.mpr fun r hr => ?_
  obtain ⟨e, he, rfl⟩ := List.mem_map.mp hr
  simpa using h e he

end Creations

namespace InitJob

variable {app : App} {status : App.Status} {s t : Store} {log : List Event} {outcome : Outcome}
  {poll : Nat} {installed : List String} {updates : List StatusUpdate}

/-- The job at a key is not deleted and stays as it is. -/
structure Keeps (key : ObjectKey) (job : Job) (log : List Event) (t : Store) : Prop where
  requests : ∀ e ∈ log, e.request ≠ .delete .job key.ns key.name
  stored : t.objects.get? .job key = some job

/-- The job of an app is kept if it is in flight and installs exactly the modules. -/
def KeepsOwn (app : App) (s : Store) (log : List Event) (t : Store) : Prop :=
  ∀ job : Job, s.objects.get? .job app.initJobKey = some job → job.isInFlight = true →
    job.modules? = some app.content.spec.modules → Keeps app.initJobKey job log t

/-- The job of an app is there: it has been created from the template, or it installs exactly the
modules. -/
def IsStarted (app : App) (log : List Event) (t : Store) : Prop :=
  ∃ job : Job, t.objects.get? .job app.initJobKey = some job ∧
    ((∃ e ∈ log, e.request = app.initJobRequest ∧ (e.store.serve app.initJobRequest).1 = .ok job ∧
        job.content = app.initJob.content) ∨
      job.modules? = some app.content.spec.modules)

theorem KeepsOwn.of_same (hlog : ∀ e ∈ log, e.request.call.verb ≠ .delete)
    (hsame : t.objects = s.objects) : KeepsOwn app s log t := by
  intro job hjob _ _
  refine ⟨fun e he hdelete => hlog e he ?_, by rw [hsame]; exact hjob⟩
  rw [hdelete]
  rfl

theorem KeepsOwn.cons {e : Event} (h : KeepsOwn app s log t) (he : e.request.call.verb ≠ .delete) :
    KeepsOwn app s (e :: log) t := by
  intro job hjob hflight hmodules
  obtain ⟨hrequests, hstored⟩ := h job hjob hflight hmodules
  refine ⟨List.forall_mem_cons.mpr ⟨fun hdelete => he ?_, hrequests⟩, hstored⟩
  rw [hdelete]
  rfl

theorem IsStarted.cons (e : Event) (h : IsStarted app log t) : IsStarted app (e :: log) t := by
  obtain ⟨job, hstored, ⟨e', he', hcreated⟩ | hmodules⟩ := h
  · exact ⟨job, hstored, .inl ⟨e', List.mem_cons_of_mem e he', hcreated⟩⟩
  · exact ⟨job, hstored, .inr hmodules⟩

/-! ## Removing a job -/

theorem verb_of_removes {key : ObjectKey} {r : Request} (h : r.Removes key) :
    r.call.verb ≠ .create := by
  cases h <;> simp [Request.call]

theorem target_of_removes {job key : ObjectKey} {r : Request} (h : r.Removes job)
    (htarget : r.target? = some (.job, key)) : key = job := by
  cases h <;> cases htarget
  rfl

theorem remove_keeps {ns name : String} {key : ObjectKey} {job : Job}
    (hjob : s.objects.get? .job key = some job) (hkey : key ≠ ⟨ns, name⟩) :
    (remove ns name).run.Meets Eq s fun log _ t => Keeps key job log t := by
  intro log result t h
  have hlog := (h.asked (remove_removes ns name)).1
  refine ⟨fun e he hdelete => hkey (target_of_removes (hlog e he) (by rw [hdelete]; rfl)), ?_⟩
  have hwithin : ∀ e ∈ log, e.Within fun k key' => ¬(k = .job ∧ key' = key) := by
    refine fun e he => .inr fun k key' htarget => ?_
    rintro ⟨rfl, rfl⟩
    exact hkey (target_of_removes (hlog e he) htarget)
  exact (h.elsewhere hwithin (by simp)).trans hjob

/-! ## Starting a job -/

/-- What starting a job comes to, if one is needed. `updates` are those of the run so far. -/
structure Launches (app : App) (installed : List String) (updates : List StatusUpdate) (s : Store)
    (log : List Event) (outcome : Outcome) (t : Store) : Prop where
  creates : creations log = [] ∨
    creations log = [app.initJobRequest] ∧ needsInit installed app.content.spec.modules = true
  keeps : KeepsOwn app s log t
  tells : outcome.updates = updates ∨
    outcome.updates = updates ++ [.initJobStarted app.initJobRecord] ∧ IsStarted app log t
  settled : outcome.requeue = none → outcome.failure = none →
    outcome.updates = updates ∧ needsInit installed app.content.spec.modules = false

theorem reusable_launches :
    (reusable app.space app.initJobName app.content.spec.modules).run.Meets Eq s
      fun log result t => creations log = [] ∧ KeepsOwn app s log t ∧
        (result = .ok true → IsStarted app log t) := by
  have hread : ∀ u : Store, s = u → KeepsOwn app s [⟨u, .get .job app.space app.initJobName⟩]
      (u.recording (.get .job app.space app.initJobName)) :=
    fun u hu => .of_same (by simp [Request.call]) (by rw [hu, Store.recording_objects])
  refine reusable_cases (fun u _ hu => ⟨rfl, hread u hu, fun h => by cases h⟩)
    (fun u hu _ => ⟨rfl, hread u hu, fun h => by cases h⟩) (fun u job hu hstored _ hmodules => ?_)
    fun u job hu hstored hstale => ?_
  · exact ⟨rfl, hread u hu, fun _ => ⟨job, hstored, .inr hmodules⟩⟩
  · subst hu
    have hremoves := remove_removes app.space app.initJobName
    intro log result t h
    refine ⟨?_, fun job' hjob' hflight hmodules => ?_, fun hresult => ?_⟩
    · rw [creations_cons (by simp [Request.call])]
      exact creations_eq_nil fun e he => verb_of_removes ((h.asked hremoves).1 e he)
    · obtain rfl : job = job' := Option.some.inj (hstored.symm.trans hjob')
      exact absurd ⟨hflight, hmodules⟩ hstale
    · cases result <;> cases hresult

theorem startIfNeeded_launches :
    (startIfNeeded poll app installed updates).Meets Eq s fun log outcome t =>
      Launches app installed updates s log outcome t := by
  have hname : (app.initJob.ensureOwner app).name = app.initJobName := Object.ensureOwner_name ..
  have hasked : app.initJobRequest.call.verb ≠ .delete := by simp [App.initJobRequest, Request.call]
  refine startIfNeeded_cases (fun hneedless => ?_) (fun hneeded u failure hu => ?_)
    (fun hneeded u job hu hanswer hcontent hstored => ?_) fun hneeded u hu htaken => ?_
  · exact ⟨.inl rfl, .of_same (by simp) rfl, .inl rfl, fun _ _ => ⟨rfl, hneedless⟩⟩
  · subst hu
    exact ⟨.inr ⟨rfl, hneeded⟩, .of_same (by simpa using hasked) rfl, .inl rfl,
      fun _ hfailure => by cases hfailure⟩
  · subst hu
    have hstarted : IsStarted app [⟨s, app.initJobRequest⟩] (s.serve app.initJobRequest).2 :=
      ⟨job, by rw [hstored, if_pos rfl],
        .inl ⟨_, List.mem_singleton_self _, rfl, hanswer, hcontent⟩⟩
    refine ⟨.inr ⟨rfl, hneeded⟩, fun old hold hflight hmodules => ?_, .inr ⟨rfl, hstarted⟩,
      fun hrequeue => by cases hrequeue⟩
    -- With a job of that name nothing would have changed.
    have htaken : s.objects.get? .job ⟨app.space, (app.initJob.ensureOwner app).name⟩ = some old := by
      rw [hname]
      exact hold
    have hkeeps : KeepsOwn app s [⟨s, app.initJobRequest⟩] (s.serve app.initJobRequest).2 :=
      .of_same (by simpa using hasked) (Store.serve_create_taken htaken)
    exact hkeeps old hold hflight hmodules
  · subst hu
    refine (reusable_launches (s := s.recording app.initJobRequest)).mono fun log result t h => ?_
    obtain ⟨hnone, hkeeps, hstarted⟩ := h
    have hcreates : creations (⟨s, app.initJobRequest⟩ :: log) = [app.initJobRequest] :=
      (creations_cons_create rfl).trans (congrArg _ hnone)
    have hkeeps' : KeepsOwn app s (⟨s, app.initJobRequest⟩ :: log) t := KeepsOwn.cons hkeeps hasked
    split
    · have hstarted' := (hstarted rfl).cons ⟨s, app.initJobRequest⟩
      exact ⟨.inr ⟨hcreates, hneeded⟩, hkeeps', .inr ⟨rfl, hstarted'⟩,
        fun hrequeue => by cases hrequeue⟩
    · exact fun report => ⟨.inr ⟨hcreates, hneeded⟩, hkeeps', .inl rfl,
        fun hrequeue => by cases hrequeue⟩
    · exact ⟨.inr ⟨hcreates, hneeded⟩, hkeeps', .inl rfl, fun _ hfailure => by cases hfailure⟩

/-! ## One run -/

/-- What one run of the tracker does to jobs and what it tells of them. -/
structure Transits (app : App) (status : App.Status) (s : Store) (log : List Event)
    (outcome : Outcome) (t : Store) : Prop where
  /-- A job is created at most once, and only if none is in flight and one is needed. -/
  creates : creations log = [] ∨ creations log = [app.initJobRequest] ∧
    (status.initJob.isIdle = true ∨
      s.objects.get? .job (recordedKey app status.initJob) = none) ∧
    needsInit status.installed app.content.spec.modules = true
  waits : status.initJob.isIdle = false →
    ∀ job : Job, s.objects.get? .job (recordedKey app status.initJob) = some job →
      job.phase = .pending ∨ job.phase = .running →
      (∀ e ∈ log, e.request.changes? = none) ∧ outcome.updates = []
  keeps : KeepsOwn app s log t
  succeeded : .initJobSucceeded ∈ outcome.updates → status.initJob.isIdle = false ∧
    ∃ job : Job, s.objects.get? .job (recordedKey app status.initJob) = some job ∧
      job.phase = .succeeded
  started : ∀ record, .initJobStarted record ∈ outcome.updates →
    record = app.initJobRecord ∧ IsStarted app log t
  settled : outcome.requeue = none → outcome.failure = none →
    (StatusUpdate.applyAll status outcome.updates).initJob.isIdle = true ∧
      needsInit status.installed app.content.spec.modules = false

theorem Launches.transits
    (hfree : status.initJob.isIdle = true ∧ updates = [] ∨
      s.objects.get? .job (recordedKey app status.initJob) = none ∧ updates = [.initJobCleared])
    (h : Launches app status.installed updates s log outcome t) :
    Transits app status s log outcome t := by
  -- Of a job that has succeeded nothing is told, and a job that has been started is the app's own.
  have htold : ∀ update ∈ outcome.updates, update = .initJobCleared ∨
      update = .initJobStarted app.initJobRecord ∧ IsStarted app log t := by
    have hcleared : ∀ update ∈ updates, update = .initJobCleared := by
      rcases hfree with ⟨-, rfl⟩ | ⟨-, rfl⟩ <;> simp
    rcases h.tells with hupdates | ⟨hupdates, hstarted⟩ <;> rw [hupdates]
    · exact fun update hmem => .inl (hcleared update hmem)
    · intro update hmem
      rcases List.mem_append.mp hmem with hmem | hmem
      · exact .inl (hcleared update hmem)
      · exact .inr ⟨List.mem_singleton.mp hmem, hstarted⟩
  refine ⟨?_, fun hrecord job hjob _ => ?_, h.keeps, fun hmem => ?_, fun record hmem => ?_,
    fun hrequeue hfailure => ?_⟩
  · refine h.creates.imp_right fun ⟨honce, hneeded⟩ => ⟨honce, ?_, hneeded⟩
    exact hfree.imp And.left And.left
  · rcases hfree with ⟨hidle, -⟩ | ⟨hgone, -⟩
    · rw [hidle] at hrecord
      cases hrecord
    · rw [hjob] at hgone
      cases hgone
  · rcases htold _ hmem with hupdate | ⟨hupdate, -⟩ <;> cases hupdate
  · rcases htold _ hmem with hupdate | ⟨hupdate, hstarted⟩ <;> cases hupdate
    exact ⟨rfl, hstarted⟩
  · obtain ⟨hupdates, hneedless⟩ := h.settled hrequeue hfailure
    refine ⟨?_, hneedless⟩
    rw [hupdates]
    rcases hfree with ⟨hidle, rfl⟩ | ⟨-, rfl⟩
    · exact hidle
    · rfl

theorem Transits.wait (hupdates : outcome.updates = [])
    (hopen : outcome.requeue.isSome ∨ outcome.failure.isSome) :
    Transits app status s [] outcome s := by
  refine ⟨.inl rfl, fun _ _ _ _ => ⟨by simp, hupdates⟩, .of_same (by simp) rfl, ?_, ?_,
    fun hrequeue hfailure => ?_⟩
  · simp [hupdates]
  · simp [hupdates]
  · simp [hrequeue, hfailure] at hopen

theorem advance_transits {job : Job} (hrecord : status.initJob.isIdle = false)
    (hjob : s.objects.get? .job (recordedKey app status.initJob) = some job) :
    (advance poll (recordedSpace app status.initJob) status.initJob job).Meets Eq s
      fun log outcome t => Transits app status s log outcome t := by
  refine advance_cases (fun _ report => .wait rfl (.inl rfl))
    fun report updates hended log removed t h => ?_
  obtain ⟨hupdates, hopen⟩ := after_open { updates, report } poll removed
  have hremoves := (h.asked (remove_removes _ _)).1
  have hflight : job.isInFlight = false := by
    rcases hended with ⟨hphase, -⟩ | ⟨hphase, -⟩ <;> simp [Job.isInFlight, hphase]
  refine ⟨.inl (creations_eq_nil fun e he => verb_of_removes (hremoves e he)), ?_, ?_, ?_, ?_, ?_⟩
  · intro _ job' hjob' hphase
    obtain rfl : job = job' := Option.some.inj (hjob.symm.trans hjob')
    rcases hphase with hphase | hphase <;> simp [Job.isInFlight, hphase] at hflight
  · intro job' hjob' hflight' hmodules
    refine remove_keeps hjob' (fun hkey => ?_) log removed t h
    rw [hkey] at hjob'
    obtain rfl : job = job' := Option.some.inj (hjob.symm.trans hjob')
    rw [hflight] at hflight'
    cases hflight'
  · intro hmem
    rw [hupdates] at hmem
    rcases hended with ⟨hphase, rfl⟩ | ⟨-, rfl⟩
    · exact ⟨hrecord, job, hjob, hphase⟩
    · simp at hmem
  · intro record hmem
    rw [hupdates] at hmem
    rcases hended with ⟨-, rfl⟩ | ⟨-, rfl⟩ <;> simp at hmem
  · intro hrequeue hfailure
    simp [hrequeue, hfailure] at hopen

theorem Transits.after_read {e : Event} (h : Transits app status e.after log outcome t)
    (he : e.request.changes? = none) : Transits app status e.store (e :: log) outcome t := by
  have hwrite : e.request.call.verb.isWrite = false := Request.isWrite_of_reads he
  have hcreate : e.request.call.verb ≠ .create := fun hverb => by rw [hverb] at hwrite; cases hwrite
  have hdelete : e.request.call.verb ≠ .delete := fun hverb => by rw [hverb] at hwrite; cases hwrite
  obtain ⟨hcreates, hwaits, hkeeps, hsucceeded, hstarted, hsettled⟩ := h
  unfold KeepsOwn at hkeeps
  rw [e.after_of_reads he] at hcreates hwaits hkeeps hsucceeded
  rw [← creations_cons hcreate] at hcreates
  refine ⟨hcreates, fun hrecord job hjob hphase => ?_, KeepsOwn.cons hkeeps hdelete, hsucceeded,
    fun record hmem => (hstarted record hmem).imp_right (·.cons e), hsettled⟩
  obtain ⟨hreads, hupdates⟩ := hwaits hrecord job hjob hphase
  exact ⟨List.forall_mem_cons.mpr ⟨he, hreads⟩, hupdates⟩

theorem track_transits : (track poll app status).Meets Eq s fun log outcome t =>
    Transits app status s log outcome t := by
  cases hrecord : status.initJob.isIdle with
  | true =>
    rw [track_unrecorded hrecord]
    exact startIfNeeded_launches.mono fun log outcome t h => h.transits (.inl ⟨hrecord, rfl⟩)
  | false =>
    refine track_recorded hrecord (fun e failure hbefore hreads => ?_)
      (fun e hbefore hreads hgone => ?_) fun e job hbefore hfound => ?_
    · subst hbefore
      have hwait : Transits app status e.after [] { failure := some failure } e.after :=
        .wait rfl (.inr rfl)
      exact hwait.after_read hreads
    · subst hbefore
      have hgone' := e.after_of_reads hreads ▸ hgone
      exact startIfNeeded_launches.mono fun log outcome t h =>
        (h.transits (.inr ⟨hgone', rfl⟩)).after_read hreads
    · subst hbefore
      have hfound' := e.after_of_reads hfound.reads ▸ hfound.stored
      exact (advance_transits hrecord hfound').mono fun log outcome t h => h.after_read hfound.reads

/-- Every run of the tracker makes no other transition, whatever the store holds and refuses. -/
theorem run_transits (h : (track poll app status).Executes Eq s log outcome t) :
    Transits app status s log outcome t :=
  track_transits log outcome t h

theorem run_transits_sample :
    let app := App.sample Sample.key.name Sample.key.ns
    ∃ log outcome t, (track 30 app {}).Executes Eq {} log outcome t ∧
      .initJobStarted app.initJobRecord ∈ outcome.updates ∧ Transits app {} {} log outcome t := by
  intro app
  obtain ⟨log, hrun⟩ := (track 30 app {}).exists_executes_run {}
  have hstarted : .initJobStarted app.initJobRecord ∈ ((track 30 app {}).run {}).1.updates := by
    decide +kernel
  exact ⟨log, _, _, hrun, hstarted, run_transits hrun⟩

end InitJob

end OdooKeeper
