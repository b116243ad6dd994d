import OdooKeeper.Proofs.Runs

/-! # What is recorded as installed

A list of installed modules is only ever stored after a job for exactly these modules has been seen to
succeed. The passes keep this true because the recorded modules are those of the job that bears the
recorded name, however the job came to be there. -/

namespace OdooKeeper

/-! ## Evidence -/

/-- In the log, a job is found that has succeeded and installs what the modules name, and after that
the modules are stored as installed. -/
def RecordedIn (log : List Event) (modules : List String) : Prop :=
  ∃ found written key, ∃ job : Job, ∃ app : App, [found, written].Sublist log ∧
    found.Finds key job ∧ job.phase = .succeeded ∧ job.modules? = some (namedModules modules) ∧
    written.Stores app ∧ app.progress.installed = modules

/-- No modules, or modules that one of the logs accounts for. -/
def Justified (logs : List (List Event)) (modules : List String) : Prop :=
  modules = [] ∨ ∃ log ∈ logs, RecordedIn log modules

theorem RecordedIn.mono {log log' : List Event} {modules : List String}
    (h : RecordedIn log modules) (hlog : log.Sublist log') : RecordedIn log' modules := by
  obtain ⟨found, written, key, job, app, hsub, h⟩ := h
  exact ⟨found, written, key, job, app, hsub.trans hlog, h⟩

theorem Justified.snoc {logs : List (List Event)} {modules : List String}
    (h : Justified logs modules) (log : List Event) : Justified (logs ++ [log]) modules := by
  rcases h with h | ⟨seen, hseen, h⟩
  · exact .inl h
  · exact .inr ⟨seen, List.mem_append_left _ hseen, h⟩

theorem Justified.extend {logs : List (List Event)} {log log' : List Event}
    {modules : List String} (h : Justified (logs ++ [log]) modules) (hlog : log <+: log') :
    Justified (logs ++ [log']) modules := by
  rcases h with h | ⟨seen, hseen, h⟩
  · exact .inl h
  rcases List.mem_append.mp hseen with hseen | hseen
  · exact .inr ⟨seen, List.mem_append_left _ hseen, h⟩
  · rw [List.mem_singleton] at hseen
    subst hseen
    exact .inr ⟨log', by simp, h.mono hlog.sublist⟩

/-! ## Invariant -/

def ObjectKey.initJob (key : ObjectKey) : ObjectKey := ⟨key.ns, key.name ++ "-init"⟩

theorem App.initJobKey_eq (app : App) : app.initJobKey = app.key.initJob := rfl

/-- The record is of the job of the app with a key, and a job that bears this name installs what the
recorded modules name. -/
def JobRecord.Matches (record : JobRecord) (key : ObjectKey) (s : Store) : Prop :=
  record.name = key.initJob.name ∧ record.ns = key.ns ∧
    ∀ job : Job, s.objects.get? .job key.initJob = some job →
      job.modules? = some (namedModules record.modules)

theorem JobRecord.Matches.of_table {record : JobRecord} {key : ObjectKey} {s t : Store}
    (h : record.Matches key s) (ht : t.objects.table .job = s.objects.table .job) :
    record.Matches key t := by
  obtain ⟨hname, hns, hjob⟩ := h
  refine ⟨hname, hns, fun job hget => hjob job ?_⟩
  rw [Objects.get?, ht] at hget
  exact hget

theorem JobRecord.Matches.recordedKey {record : JobRecord} {app : App} {s : Store}
    (h : record.Matches app.key s) : InitJob.recordedKey app record = app.key.initJob := by
  obtain ⟨hname, hns, -⟩ := h
  have hrecord : record = { app.initJobRecord with modules := record.modules } := by
    cases record
    cases hname
    cases hns
    rfl
  rw [hrecord]
  exact InitJob.recordedKey_initJobRecord app

/-- What holds after every round: the installed modules are accounted for, and the recorded job is
the one that bears its name. -/
def InstallSound (key : ObjectKey) (logs : List (List Event)) (s : Store) : Prop :=
  ∃ spec p, s.Holds key spec p ∧ Justified logs p.installed ∧
    (p.initJob.isIdle = true ∨ p.initJob.Matches key s)

theorem InstallSound.start {key : ObjectKey} {s : Store} (h : s.Untouched key) :
    InstallSound key [] s := by
  obtain ⟨spec, hs⟩ := h.holds
  exact ⟨spec, {}, hs, .inl rfl, .inl rfl⟩

theorem InstallSound.others {key : ObjectKey} {logs : List (List Event)} {s s' : Store}
    (h : InstallSound key logs s) (hstatus : s.KeepsStatus key s') (hjobs : s.KeepsTemplates s') :
    InstallSound key logs s' := by
  obtain ⟨spec, p, hs, hinstalled, hrecord⟩ := h
  obtain ⟨spec', hs'⟩ := hstatus.holds hs
  refine ⟨spec', p, hs', hinstalled, hrecord.imp_right ?_⟩
  rintro ⟨hname, hns, hjob⟩
  refine ⟨hname, hns, fun job' hget => ?_⟩
  obtain ⟨job, hbefore, htemplate⟩ := hjobs _ _ hget
  rw [Job.modules?_congr htemplate]
  exact hjob job hbefore

/-! ## One pass -/

section Pass

variable {key : ObjectKey} {logs : List (List Event)} {s u : Store} {app sent stored : App}
  {status : App.Status} {tlog : List Event} {outcome : Outcome}

/-- What the pass stores as installed after a move is accounted for by the requests up to then. -/
theorem justified_move (plog : List Event) (hkey : app.key = key)
    (hinstalled : Justified logs status.installed)
    (hrecord : status.initJob.isIdle = true ∨ status.initJob.Matches key s)
    (move : InitJob.Move app status tlog outcome u)
    (hbegins : ∀ e rest, tlog = e :: rest → e.store.objects.table .job = s.objects.table .job)
    (hwrite : (u.serve (.replaceStatus sent)).1 = .ok stored)
    (hprogress : stored.progress = (StatusUpdate.applyAll status outcome.updates).progress) :
    Justified (logs ++ [plog ++ (tlog ++ [⟨u, .replaceStatus sent⟩])])
      stored.progress.installed := by
  rw [hprogress]
  cases move with
  | idle updates installed record settled =>
    rw [App.Status.progress, installed]
    exact hinstalled.snoc _
  | started updated installs requeue =>
    rw [updated]
    exact hinstalled.snoc _
  | waiting updates reads unfinished =>
    rw [updates]
    exact hinstalled.snoc _
  | succeeded e rest job record first found phase updates unfinished =>
    -- The job that was found bears the recorded name, so it installs what the record says.
    have hmatches : status.initJob.Matches key s := by
      rcases hrecord with hidle | hmatches
      · rw [record] at hidle
        cases hidle
      · exact hmatches
    have hinstalls : job.modules? = some (namedModules status.initJob.modules) := by
      subst hkey
      have hget := found.stored
      rw [hmatches.recordedKey, Objects.get?, hbegins _ _ first] at hget
      exact hmatches.2.2 job hget
    rw [updates]
    refine .inr ⟨_, List.mem_append_right _ (List.mem_singleton.mpr rfl), ?_⟩
    refine ⟨e, _, _, job, stored, ?_, found, phase, hinstalls, ⟨u, sent, rfl, hwrite⟩, ?_⟩
    · subst first
      have hlast := List.sublist_append_right rest [(⟨u, .replaceStatus sent⟩ : Event)]
      exact (hlast.cons_cons e).trans (List.sublist_append_right plog _)
    · rw [hprogress, updates]

theorem matches_move (hkey : app.key = key)
    (hrecord : status.initJob.isIdle = true ∨ status.initJob.Matches key s)
    (move : InitJob.Move app status tlog outcome u)
    (hreads : (∀ e ∈ tlog, e.request.changes? = none) →
      u.objects.table .job = s.objects.table .job)
    (hprogress : stored.progress = (StatusUpdate.applyAll status outcome.updates).progress) :
    stored.progress.initJob.isIdle = true ∨ stored.progress.initJob.Matches key u := by
  rw [hprogress]
  cases move with
  | idle updates installed record settled => exact .inl record
  | started updated installs requeue =>
    rw [updated]
    obtain ⟨job, hjob, hmodules⟩ := installs
    subst hkey
    refine .inr ⟨rfl, rfl, fun job' hget => ?_⟩
    rw [← App.initJobKey_eq, hjob] at hget
    cases hget
    exact hmodules
  | waiting updates reads unfinished =>
    rw [updates]
    exact hrecord.imp_right fun hmatches => hmatches.of_table (hreads reads)
  | succeeded e rest job record first found phase updates unfinished =>
    rw [updates]
    exact .inl rfl

end Pass

theorem prefix_cut {α : Type} {seen a b : List α} {e w : α} (h : seen ++ [e] <+: a ++ w :: b) :
    e ∈ a ∨ e ∈ w :: b ∧ a ++ [w] <+: seen ++ [e] := by
  rcases List.prefix_or_prefix_of_prefix h (List.prefix_append a (w :: b)) with hin | ⟨c, hc⟩
  · exact .inl (hin.subset (by simp))
  cases c with
  | nil =>
    rw [List.append_nil] at hc
    exact .inl (by simp [hc])
  | cons x c =>
    rw [← hc, List.prefix_append_right_inj] at h
    obtain ⟨rfl, hrest⟩ := List.cons_prefix_cons.mp h
    -- What reaches beyond the first half ends in the second one.
    have hlast : e ∈ x :: c := by
      have hmem : (a ++ x :: c).getLast? = some e := by rw [hc]; simp
      rw [List.getLast?_append, List.getLast?_eq_some_getLast (List.cons_ne_nil x c),
        Option.some_or, Option.some.injEq] at hmem
      exact hmem ▸ List.getLast_mem _
    refine .inr ⟨?_, ?_⟩
    · rcases List.mem_cons.mp hlast with rfl | he
      · exact List.mem_cons_self
      · exact List.mem_cons_of_mem _ (hrest.subset he)
    · rw [← hc]
      exact ⟨c, by simp⟩

section Execution

variable {key : ObjectKey} {logs : List (List Event)} {settings : PassSettings} {now : Timestamp}
  {fresh : String} {s t : Store} {log : List Event} {result : Except Failure (Option Nat)}

theorem InstallSound.pass (h : InstallSound key logs s)
    (hpass : (reconcile settings now fresh key.ns key.name).run.Executes Eq s log result t) :
    InstallSound key (logs ++ [log]) t := by
  obtain ⟨spec, p, hs, hinstalled, hrecord⟩ := h
  cases Pass.undisturbed hpass hs with
  | unmoved kinds holds stop jobs =>
    refine ⟨spec, p, stop, hinstalled.snoc _, hrecord.imp_right ?_⟩
    exact fun hmatches => hmatches.of_table jobs
  | @moved plog tlog wlog app sent stored status outcome u _ about move kinds onJobs before begins
      reads write progress written after goesOn workload holds stop jobs =>
    obtain ⟨hkey, hspec, rfl⟩ := about
    have hjustified := justified_move plog hkey hinstalled hrecord move begins write
      progress
    have hmatches := matches_move hkey hrecord move reads progress
    refine ⟨spec, stored.progress, stop, hjustified.extend ?_, hmatches.imp_right ?_⟩
    · exact ⟨wlog, by simp⟩
    · exact fun hmatches => hmatches.of_table jobs

theorem InstallSound.stored (h : InstallSound key logs s)
    (hpass : (reconcile settings now fresh key.ns key.name).run.Executes Eq s log result t)
    {seen : List Event} {e : Event} (hlog : seen ++ [e] <+: log) {app : App}
    (happ : e.after.objects.get? .app key = some app) :
    Justified (logs ++ [seen ++ [e]]) app.progress.installed := by
  obtain ⟨spec, p, hs, hinstalled, hrecord⟩ := h
  have hprogress : ∀ p', e.after.Holds key spec p' → app.progress = p' := by
    rintro p' ⟨app', happ', -, -, hp'⟩
    rw [happ'] at happ
    cases happ
    exact hp'
  have hmem : e ∈ log := hlog.subset (by simp)
  cases Pass.undisturbed hpass hs with
  | unmoved kinds holds stop jobs =>
    rw [hprogress p (holds e hmem)]
    exact hinstalled.snoc _
  | @moved plog tlog wlog app sent stored status outcome u _ about move kinds onJobs before begins
      reads write progress written after goesOn workload holds stop jobs =>
    obtain ⟨hkey, hspec, rfl⟩ := about
    have hjustified := justified_move plog hkey hinstalled hrecord move begins write
      progress
    have hcut : seen ++ [e] <+: plog ++ tlog ++ ⟨u, .replaceStatus sent⟩ :: wlog := by
      rw [List.append_assoc]
      exact hlog
    rw [← List.append_assoc] at hjustified
    rcases prefix_cut hcut with hbefore | ⟨hlate, hreached⟩
    · rw [hprogress _ (before e hbefore).2]
      exact hinstalled.snoc _
    · have hafter : e.after.Holds key spec stored.progress := by
        rcases List.mem_cons.mp hlate with rfl | he
        · exact after
        · exact (holds e he).2
      rw [hprogress _ hafter]
      exact hjustified.extend hreached

end Execution

/-! ## Runs -/

/-- Every list of installed modules that is ever stored is accounted for: some pass up to then has
found a succeeded job that installs just these modules, and then stored them. -/
theorem installed_recorded {key : ObjectKey} {first s : Store} {rounds earlier later : List Round}
    {round : Round} {seen : List Event} {e : Event} {app : App} {status : App.Status}
    (hfirst : first.Untouched key)
    (hrun : Run (fun s s' => s.KeepsStatus key s' ∧ s.KeepsTemplates s') key first rounds s)
    (hrounds : rounds = earlier ++ round :: later) (hlog : seen ++ [e] <+: round.log)
    (happ : e.after.objects.get? .app key = some app) (hstatus : app.content.status = some status) :
    status.installed = [] ∨
      ∃ log ∈ earlier.map Round.log ++ [seen ++ [e]], RecordedIn log status.installed := by
  obtain ⟨hsound, result, hpass⟩ := hrun.invariant_cut (InstallSound.start hfirst)
    (fun _ _ _ h hothers => h.others hothers.1 hothers.2) (fun _ _ h ⟨_, hpass⟩ => h.pass hpass)
    hrounds
  have hjustified := hsound.stored hpass hlog happ
  rw [App.progress, hstatus] at hjustified
  exact hjustified

theorem installed_recorded_sample :
    ∃ log ∈ [Sample.starting.log, Sample.recording.log], RecordedIn log ["base"] := by
  have hsample : Sample.recording.log.getLast?.bind (fun e =>
      (e.after.objects.get? .app Sample.key).bind fun app : App =>
        app.content.status.map App.Status.installed) = some ["base"] := by decide +kernel
  obtain ⟨e, he, hsample⟩ := Option.bind_eq_some_iff.mp hsample
  obtain ⟨app, happ, hsample⟩ := Option.bind_eq_some_iff.mp hsample
  obtain ⟨status, hstatus, hinstalled⟩ := Option.map_eq_some_iff.mp hsample
  obtain ⟨seen, hlog⟩ := List.getLast?_eq_some_iff.mp he
  have hrounds : [Sample.starting, Sample.recording, Sample.serving] =
      [Sample.starting] ++ Sample.recording :: [Sample.serving] := rfl
  have hseen : seen ++ [e] <+: Sample.recording.log := ⟨[], by rw [List.append_nil, hlog]⟩
  have hrecorded := installed_recorded Sample.untouched Sample.run hrounds hseen happ hstatus
  rw [hinstalled, ← hlog] at hrecorded
  exact hrecorded.resolve_left (by simp)

end OdooKeeper
