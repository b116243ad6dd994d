import OdooKeeper.Proofs.Reporting

/-! # Attempts that nobody disturbs

What an attempt gives when it succeeds on a store that nobody else changes meanwhile, and what of
the store it leaves as it was. -/

namespace OdooKeeper

variable {α β : Type} {s t u : Store}

/-! ## What stays -/

namespace Program.Executes

variable {p : Program α} {log : List Event} {a : α} {k : Kind}

theorem refusals (h : p.Executes Eq s log a t) :
    (∀ e ∈ log, e.store.refusals = s.refusals) ∧ t.refusals = s.refusals := by
  obtain ⟨hlog, ht⟩ := h.keeps (fun _ => True) (fun u => u.refusals = s.refusals)
    (fun _ _ => trivial) (fun _ _ he h => he ▸ h) (fun u r _ h => by rw [Store.serve_refusals, h]) rfl
  exact ⟨fun e he => (hlog e he).1, ht⟩

theorem table (h : p.Executes Eq s log a t) (hlog : ∀ e ∈ log, e.request.changes? ≠ some k) :
    (∀ e ∈ log, e.store.objects.table k = s.objects.table k ∧
      e.after.objects.table k = s.objects.table k) ∧ t.objects.table k = s.objects.table k :=
  h.keeps (fun r => r.changes? ≠ some k) (fun u => u.objects.table k = s.objects.table k) hlog
    (fun _ _ he h => he ▸ h) (fun u r hr h => by rw [Store.serve_table u hr, h]) rfl

end Program.Executes

/-- The request is about an object of one of some kinds. -/
def Request.Among (kinds : List Kind) (r : Request) : Prop := r.call.kind ∈ kinds

theorem Request.kind_of_changes? {r : Request} {k : Kind} (h : r.changes? = some k) :
    r.call.kind = k := by
  cases r with
  | get => cases h
  | list => cases h
  | create => cases h; rfl
  | replace => cases h; rfl
  | delete => cases h; rfl
  | replaceStatus => cases h; rfl

/-! ## Success -/

namespace Attempt

/-- The attempt succeeds alone with a result and leaves a store. -/
def Gives (x : Attempt α) (s : Store) (a : α) (t : Store) : Prop := x.run.run s = (.ok a, t)

theorem gives_of_toOption {x : Attempt α} {a : α} (h : (x.run.run s).1.toOption = some a) :
    x.Gives s a (x.run.run s).2 := by
  cases hresult : (x.run.run s).1 with
  | ok b =>
    rw [hresult] at h
    cases h
    exact Prod.ext hresult rfl
  | error failure =>
    rw [hresult] at h
    cases h

theorem gives_pure {a b : α} : (pure a : Attempt α).Gives s b t ↔ a = b ∧ s = t := by
  unfold Gives
  simp [ExceptT.run_pure]

theorem gives_bind {x : Attempt α} {f : α → Attempt β} {b : β} :
    (x >>= f).Gives s b u ↔ ∃ a t, x.Gives s a t ∧ (f a).Gives t b u := by
  unfold Gives
  rw [ExceptT.run_bind, Program.run_bind]
  constructor
  · intro h
    cases hx : x.run.run s with
    | mk result t =>
      rw [hx] at h
      cases result with
      | ok a => exact ⟨a, t, rfl, h⟩
      | error failure => cases h
  · rintro ⟨a, t, hx, hf⟩
    rw [hx]
    exact hf

theorem gives_request {role : Role} {operation : Operation} {name : String} {r : Request}
    {value : r.Value} (h : (request role operation name (Program.ask r)).Gives s value t) :
    (s.serve r).1 = .ok value ∧ t = (s.serve r).2 := by
  change ((s.serve r).1.mapError (Failure.store role operation name), (s.serve r).2) = _ at h
  obtain ⟨hvalue, ht⟩ := Prod.mk.inj h
  exact ⟨Except.mapError_eq_ok_iff.mp hvalue, ht.symm⟩

theorem Gives.executes {x : Attempt α} {a : α} (h : x.Gives s a t) :
    ∃ log, x.run.Executes Eq s log (.ok a) t := by
  obtain ⟨log, hexecutes⟩ := Program.exists_executes_run x.run s
  rw [h] at hexecutes
  exact ⟨log, hexecutes⟩

theorem Gives.table {x : Attempt α} {a : α} {k : Kind} {kinds : List Kind} {post : α → Prop}
    (h : x.Gives s a t) (hx : x.Asks (Request.Among kinds) post) (hk : k ∉ kinds) :
    t.objects.table k = s.objects.table k := by
  obtain ⟨log, hexecutes⟩ := h.executes
  refine (hexecutes.table fun e he hchanges => hk ?_).2
  rw [← Request.kind_of_changes? hchanges]
  exact (hexecutes.asked hx).1 e he

end Attempt

namespace Report

variable {r r' : Report}

theorem save_gives (h : r.save.Gives s r' t) :
    ∃ stored, (s.serve (.replaceStatus r.written)).1 = .ok stored ∧ r' = r.accepted stored ∧
      t = (s.serve (.replaceStatus r.written)).2 := by
  unfold Attempt.Gives at h
  rw [save_eq, Program.run_bind, Program.run_ask] at h
  obtain ⟨hresult, ht⟩ := Prod.mk.inj h
  cases hanswer : (s.serve (.replaceStatus r.written)).1 with
  | ok stored =>
    rw [hanswer] at hresult
    exact ⟨stored, rfl, (Except.ok.inj hresult).symm, ht.symm⟩
  | error cause =>
    rw [hanswer] at hresult
    cases hresult

theorem not_gives_abort {now : Timestamp} {role : Role} {failure : Failure} {a : α} :
    ¬ (r.abort now role failure).Gives s a t := by
  intro h
  unfold Attempt.Gives at h
  rw [abort_eq, Program.run_bind, Program.run_ask] at h
  cases (Prod.mk.inj h).1

end Report

end OdooKeeper
