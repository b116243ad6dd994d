import OdooKeeper.Proofs.Failing
import OdooKeeper.Proofs.Leaking

/-! # The statuses that are stored

Only passes write the status of an app. What each of their reports keeps therefore holds of every
status that is ever stored, whatever others do to the rest of the store and whenever they do it. -/

namespace OdooKeeper

/-! ## Among others -/

namespace Store

def HasStatus (s : Store) (key : ObjectKey) (status : App.Status) : Prop :=
  ∃ app : App, s.objects.get? .app key = some app ∧ app.content.status = some status

/-- A status that the app at a key has now, it had before. Anything else may change: the app may be
edited, go or come anew, other objects may change, and the store may refuse requests or not. -/
def SparesStatus (key : ObjectKey) (s s' : Store) : Prop :=
  ∀ status, s'.HasStatus key status → s.HasStatus key status

variable {s : Store} {r : Request} {key : ObjectKey} {status : App.Status}

theorem SparesStatus.refl (key : ObjectKey) (s : Store) : SparesStatus key s s := fun _ => id

theorem hasStatus_congr {s' : Store} (h : s'.objects.table .app = s.objects.table .app) :
    s'.HasStatus key status ↔ s.HasStatus key status := by
  unfold HasStatus Objects.get?
  rw [h]

end Store

/-- The store is one of those that the round goes through. -/
def Round.Visits (round : Round) (t : Store) : Prop :=
  t = round.start ∨ (∃ e ∈ round.log, t = e.store ∨ t = e.after) ∨ t = round.stop

/-! ## Requests -/

/-- If the request changes an app, it writes a status, and that has a property when the app is the one
with a key. -/
def Request.Reports (key : ObjectKey) (p : App.Status → Prop) (r : Request) : Prop :=
  r.changes? = some .app → ∃ (sent : App) (status : App.Status), r = .replaceStatus sent ∧
    sent.content.status = some status ∧ (sent.key = key → p status)

theorem Request.Reports.hasStatus {key : ObjectKey} {p : App.Status → Prop} {r : Request} {s : Store}
    {status : App.Status} (hr : r.Reports key p) (hs : ∀ old, s.HasStatus key old → p old)
    (h : (s.serve r).2.HasStatus key status) : p status := by
  by_cases hkind : r.changes? = some .app
  · obtain ⟨sent, told, rfl, htold, hp⟩ := hr hkind
    cases hanswer : (s.serve (.replaceStatus sent)).1 with
    | error cause =>
      rw [Store.serve_error hanswer] at h
      exact hs status h
    | ok stored =>
      obtain ⟨old, -, -, -, hcontent, hget⟩ := Store.serve_status_ok hanswer
      obtain ⟨app, happ, hstatus⟩ := h
      rw [hget] at happ
      split at happ
      · rename_i hkey
        cases happ
        rw [hcontent, htold] at hstatus
        cases hstatus
        exact hp hkey.symm
      · exact hs status ⟨app, happ, hstatus⟩
  · exact hs status ((Store.hasStatus_congr (s.serve_table hkind)).mp h)

/-! ## Passes -/

namespace Pass

variable {others : Store → Store → Prop} {settings : PassSettings} {now : Timestamp}
  {roles : List Role} {r : Report} {s t : Store} {stage : Stage} {stages : List Stage}
  {log last : List Event} {result : Except Failure (Option Nat)} {key : ObjectKey}
  {p : App.Status → Prop}

/-- A property of statuses that the reports of every pass over the app with a key keep. -/
structure Keeps (key : ObjectKey) (p : App.Status → Prop) : Prop where
  unset : p {}
  works : ∀ {others settings now role outcome r s u} {work : List Event}, r.app.key = key →
    p r.status → Works others settings r s role work outcome u → p (r.ended now role outcome).status
  finish : ∀ {r now}, p r.status → p (Report.succeed r now).status

theorem Made.reports (hmade : Made others settings now r s stage) (h : Keeps key p)
    (hr : r.app.key = key → p r.status) :
    (∀ e ∈ stage.log, e.request.Reports key p) ∧
      (stage.report.app.key = key → p stage.report.status) := by
  obtain ⟨u, hworks, -⟩ := hmade.works
  have hreport : stage.report.app.key = key → p stage.report.status := by
    rw [hmade.report, Report.ended_app]
    exact fun hkey => h.works hkey (hr hkey) hworks
  refine ⟨fun e he => ?_, hreport⟩
  rcases List.mem_append.mp he with he | he
  · exact fun hkind => absurd hkind (Role.owned_changes? (hworks.owns (.self r) e he))
  · rw [List.mem_singleton.mp he]
    exact fun _ => ⟨_, stage.report.status, rfl, rfl, hreport⟩

theorem Proceeds.reports (hproceeds : Proceeds others settings now roles r s stages last result t)
    (h : Keeps key p) (hr : r.app.key = key → p r.status) :
    ∀ e ∈ stages.flatMap Stage.log ++ last, e.request.Reports key p := by
  induction hproceeds with
  | stop made stops => simpa using (made.reports h hr).1
  | next made succeeded accepted rest ih =>
    obtain ⟨hlog, hreport⟩ := made.reports h hr
    rw [List.flatMap_cons, List.append_assoc]
    exact List.forall_mem_append.mpr ⟨hlog, ih hreport⟩
  | wait seconds gate => simp
  | finish before refused told =>
    refine List.forall_mem_singleton.mpr fun _ => ⟨_, _, rfl, rfl, fun hkey => h.finish (hr hkey)⟩

theorem reconcile_reports {fresh : String} (h : Keeps key p)
    (hpass : (reconcile settings now fresh key.ns key.name).run.Executes (Store.SparesStatus key) s log
      result t)
    (hs : ∀ status, s.HasStatus key status → p status) : ∀ e ∈ log, e.request.Reports key p := by
  obtain ⟨u, rest, hspares, rfl, ⟨rfl, -⟩ | ⟨app, happ, stages, last, rfl, hproceeds⟩⟩ :=
    reconcile_onwards hpass
  · exact List.forall_mem_singleton.mpr fun hkind => by cases hkind
  · refine List.forall_mem_cons.mpr ⟨fun hkind => (by cases hkind), hproceeds.reports h fun _ => ?_⟩
    change p (app.content.status.getD {})
    cases hstatus : app.content.status with
    | none => exact h.unset
    | some status => exact hs status (hspares status ⟨app, happ, hstatus⟩)

end Pass

/-! ## Runs -/

section Runs

variable {key : ObjectKey} {p : App.Status → Prop} {first s : Store} {rounds : List Round}

theorem Round.Ends.statuses {round : Round} {result : Except Failure (Option Nat)}
    (hpass : round.Ends (Store.SparesStatus key) key result) (h : Pass.Keeps key p)
    (hstart : ∀ status, round.start.HasStatus key status → p status) :
    ∀ t, round.Visits t → ∀ status, t.HasStatus key status → p status := by
  obtain ⟨hlog, hstop⟩ := Program.Executes.keeps (Request.Reports key p)
    (fun t => ∀ status, t.HasStatus key status → p status) hpass
    (Pass.reconcile_reports h hpass hstart) (fun _ _ hspares hs _ hstatus => hs _ (hspares _ hstatus))
    (fun _ _ hreports hs _ hstatus => hreports.hasStatus hs hstatus) hstart
  rintro t (rfl | ⟨e, he, rfl | rfl⟩ | rfl)
  · exact hstart
  · exact (hlog e he).1
  · exact (hlog e he).2
  · exact hstop

/-- What passes keep holds of every status that is ever stored, if the app has none at first. -/
theorem SharedRun.statuses (hrun : SharedRun (Store.SparesStatus key) key first rounds s)
    (h : Pass.Keeps key p) (hfirst : ∀ status, ¬ first.HasStatus key status) :
    (∀ round ∈ rounds, ∀ t, round.Visits t → ∀ status, t.HasStatus key status → p status) ∧
      ∀ status, s.HasStatus key status → p status := by
  induction hrun with
  | nil => exact ⟨by simp, fun status hstatus => absurd hstatus (hfirst status)⟩
  | snoc before between pass ih =>
    obtain ⟨hrounds, hlast⟩ := ih
    have hround := pass.statuses h fun status hstatus => hlast status (between status hstatus)
    refine ⟨List.forall_mem_append.mpr ⟨hrounds, List.forall_mem_singleton.mpr hround⟩, ?_⟩
    exact hround _ (.inr (.inr rfl))

end Runs

/-! ## A sample run -/

theorem Store.Untouched.no_status {s : Store} {key : ObjectKey} (h : s.Untouched key)
    (status : App.Status) : ¬ s.HasStatus key status := by
  obtain ⟨app, happ, -, hnone⟩ := h
  rintro ⟨app', happ', hstatus⟩
  rw [happ] at happ'
  cases happ'
  rw [hnone] at hstatus
  cases hstatus

theorem Sample.run_shared : SharedRun (Store.SparesStatus key) key store
    [starting, recording, serving] serving.stop := by
  have hstarting : SharedRun (Store.SparesStatus key) key store [starting] starting.stop := by
    refine .snoc .nil ?_ (Round.ends_play (Store.SparesStatus.refl key) ..)
    rw [starting, Round.play_start]
    exact .refl key store
  have hrecording : SharedRun (Store.SparesStatus key) key store [starting, recording]
      recording.stop := by
    refine .snoc hstarting ?_ (Round.ends_play (Store.SparesStatus.refl key) ..)
    rw [recording, Round.play_start]
    exact fun _ => (Store.hasStatus_congr (Store.modify_table (by simp) ..)).mp
  refine .snoc hrecording ?_ (Round.ends_play (Store.SparesStatus.refl key) ..)
  rw [serving, Round.play_start]
  exact .refl key recording.stop

end OdooKeeper
