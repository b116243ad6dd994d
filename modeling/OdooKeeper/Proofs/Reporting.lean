import OdooKeeper.Proofs.Serving
import OdooKeeper.Report

/-! # Writing the status

What a write of the status asks of the store, and what the store knows afterwards. -/

namespace OdooKeeper

/-! ## Progress -/

/-- What a status says about the modules of the database. -/
structure Progress where
  installed : List String := []
  initJob : JobRecord := {}
deriving DecidableEq

def App.Status.progress (status : App.Status) : Progress := ⟨status.installed, status.initJob⟩

/-- The progress of an app, none without a status. -/
def App.progress (app : App) : Progress := (app.content.status.getD {}).progress

/-- The event writes a status, and the app is stored with it. -/
def Event.Stores (e : Event) (app : App) : Prop :=
  ∃ s sent, e = ⟨s, .replaceStatus sent⟩ ∧ (s.serve (.replaceStatus sent)).1 = .ok app

namespace Report

variable {r : Report} {now : Timestamp}

@[simp] theorem fail_progress {role : Role} {failure : Failure} :
    (r.fail now role failure).status.progress = r.status.progress := rfl

@[simp] theorem succeed_progress : (r.succeed now).status.progress = r.status.progress := rfl

@[simp] theorem fail_app {role : Role} {failure : Failure} :
    (r.fail now role failure).app = r.app := rfl

/-! ## Requests -/

def written (r : Report) : App :=
  { r.app with content := { r.app.content with status := some r.status } }

def accepted (r : Report) (stored : App) : Report :=
  { r with
    app :=
      { r.written with
        metadata :=
          { r.app.metadata with resourceVersion := stored.metadata.resourceVersion } } }

@[simp] theorem written_key : r.written.key = r.app.key := rfl
@[simp] theorem written_progress : r.written.progress = r.status.progress := rfl
@[simp] theorem accepted_key {stored : App} : (r.accepted stored).app.key = r.app.key := rfl
@[simp] theorem accepted_status {stored : App} : (r.accepted stored).status = r.status := rfl

def refusal (r : Report) (cause : StoreError) : Failure :=
  .store .app .updateStatus r.written.metadata.anyName cause

theorem persist_eq (r : Report) :
    r.persist = Program.ask (.replaceStatus r.written) >>= fun answer => pure (match answer with
      | .ok stored => (.ok (), r.accepted stored)
      | .error cause => (.error (r.refusal cause), { r with app := r.written })) := by
  unfold persist
  refine bind_congr fun answer => ?_
  cases answer <;> rfl

theorem save_eq (r : Report) :
    r.save.run = Program.ask (.replaceStatus r.written) >>= fun answer => pure (match answer with
      | .ok stored => .ok (r.accepted stored)
      | .error cause => .error (r.refusal cause)) := by
  unfold save
  rw [persist_eq, ExceptT.run_mk, bind_assoc]
  refine bind_congr fun answer => ?_
  cases answer <;> rfl

theorem abort_eq {α : Type} (r : Report) (now : Timestamp) (role : Role) (failure : Failure) :
    (r.abort now role failure : Attempt α).run =
      Program.ask (.replaceStatus (r.fail now role failure).written) >>= fun answer =>
        pure (.error (match answer with
          | .ok _ => failure
          | .error cause => .several [failure, (r.fail now role failure).refusal cause])) := by
  unfold abort persistWith
  rw [persist_eq, ExceptT.run_mk, bind_assoc, bind_assoc]
  refine bind_congr fun answer => ?_
  cases answer <;> rfl

section Meets

variable {others : Store → Store → Prop} {s : Store}

theorem save_meets {post : List Event → Except Failure Report → Store → Prop}
    (hok : ∀ s' stored, others s s' → (s'.serve (.replaceStatus r.written)).1 = .ok stored →
      post [⟨s', .replaceStatus r.written⟩] (.ok (r.accepted stored))
        (s'.serve (.replaceStatus r.written)).2)
    (herror : ∀ s' cause, others s s' → (s'.serve (.replaceStatus r.written)).1 = .error cause →
      post [⟨s', .replaceStatus r.written⟩] (.error (r.refusal cause))
        (s'.serve (.replaceStatus r.written)).2) :
    r.save.run.Meets others s post := by
  rw [save_eq]
  refine Program.meets_bind (Program.meets_ask fun s' hs' => Program.meets_pure ?_)
  cases hanswer : (s'.serve (.replaceStatus r.written)).1 with
  | ok stored => exact hok s' stored hs' hanswer
  | error cause => exact herror s' cause hs' hanswer

theorem abort_meets {α : Type} {role : Role} {failure : Failure}
    {post : List Event → Except Failure α → Store → Prop}
    (h : ∀ s' failure', others s s' →
      post [⟨s', .replaceStatus (r.fail now role failure).written⟩] (.error failure')
        (s'.serve (.replaceStatus (r.fail now role failure).written)).2) :
    (r.abort now role failure : Attempt α).run.Meets others s post := by
  rw [abort_eq]
  exact Program.meets_bind (Program.meets_ask fun s' hs' => Program.meets_pure (h s' _ hs'))

end Meets

section Asks

variable {allowed : Request → Prop}

theorem save_asks {post : Report → Prop} (hr : allowed (.replaceStatus r.written))
    (h : ∀ stored, post (r.accepted stored)) : r.save.Asks allowed post := by
  unfold Attempt.Asks
  rw [save_eq]
  refine Program.asks_bind (Program.asks_ask hr fun answer => Program.asks_pure ?_)
  cases answer with
  | ok stored =>
    intro r' hr'
    cases hr'
    exact h stored
  | error cause =>
    intro r' hr'
    cases hr'

theorem abort_asks {α : Type} {role : Role} {failure : Failure} {post : α → Prop}
    (hr : allowed (.replaceStatus (r.fail now role failure).written)) :
    (r.abort now role failure).Asks allowed post := by
  unfold Attempt.Asks
  rw [abort_eq]
  refine Program.asks_bind (Program.asks_ask hr fun answer => Program.asks_pure ?_)
  intro a ha
  cases ha

end Asks

theorem abort_bind {α β : Type} (r : Report) (now : Timestamp) (role : Role) (failure : Failure)
    (f : α → Attempt β) : r.abort now role failure >>= f = r.abort now role failure := by
  refine ExceptT.ext ?_
  rw [ExceptT.run_bind, abort_eq, abort_eq, bind_assoc]
  rfl

/-! ## In step -/

variable {s : Store}

/-- The report has the app exactly as it is stored. -/
def InStep (r : Report) (s : Store) : Prop := s.objects.get? .app r.app.key = some r.app

theorem inStep_start {app : App} (h : s.objects.get? .app app.key = some app) :
    (start app).InStep s := h

theorem InStep.accepted {stored : App} (h : r.InStep s)
    (hserve : (s.serve (.replaceStatus r.written)).1 = .ok stored) :
    (r.accepted stored).InStep (s.serve (.replaceStatus r.written)).2 := by
  obtain ⟨old, hold, -, hmetadata, hcontent, hget⟩ := Store.serve_status_ok hserve
  have hsame : old = r.app := Option.some.inj (hold.symm.trans h)
  subst hsame
  unfold InStep
  rw [hget, accepted_key, written_key, if_pos rfl, Report.accepted, Option.some.injEq]
  cases stored
  simp only at hmetadata hcontent
  rw [hcontent, Object.mk.injEq]
  exact ⟨hmetadata, rfl⟩

theorem InStep.granted (h : r.InStep s) (hgranted : ¬ s.Refuses (.replaceStatus r.written)) :
    ∃ stored, (s.serve (.replaceStatus r.written)).1 = .ok stored :=
  Store.serve_status_granted h rfl hgranted

end Report

end OdooKeeper
