import OdooKeeper.Proofs.Dependents

/-! # Effects of requests

What becomes of the objects of a store when requests of some sort are made. Each request has at most
one object to change; whatever is not an object of the requests made is as it was. -/

namespace OdooKeeper

variable {s t : Store} {r : Request} {k : Kind} {key : ObjectKey}

/-! ## Elsewhere -/

def Request.Targets (places : Kind → ObjectKey → Prop) (r : Request) : Prop :=
  ∀ k key, r.target? = some (k, key) → places k key

def Event.Within (places : Kind → ObjectKey → Prop) (e : Event) : Prop :=
  (∃ cause, (e.store.serve e.request).1 = .error cause) ∨ e.request.Targets places

theorem Event.after_of_reads (e : Event) (h : e.request.changes? = none) :
    e.after.objects = e.store.objects := by
  rw [after, Store.serve_reading _ h, Store.recording_objects]

theorem Event.within_of_reads {places : Kind → ObjectKey → Prop} {e : Event}
    (h : e.request.changes? = none) : e.Within places := by
  rw [Request.changes?_eq, Option.map_eq_none_iff] at h
  refine .inr fun k key htarget => ?_
  rw [h] at htarget
  cases htarget

theorem Event.Within.mono {places places' : Kind → ObjectKey → Prop} {e : Event}
    (h : e.Within places) (himp : ∀ k key, places k key → places' k key) : e.Within places' :=
  h.imp id fun hplaces k key htarget => himp k key (hplaces k key htarget)

theorem Event.Within.elsewhere {places : Kind → ObjectKey → Prop} {e : Event} (h : e.Within places)
    (hkey : ¬ places k key) : e.after.objects.get? k key = e.store.objects.get? k key := by
  rcases h with ⟨cause, hcause⟩ | hplaces
  · unfold Event.after
    rw [Store.serve_error hcause, Store.recording_objects]
  · exact Store.serve_elsewhere _ fun htarget => hkey (hplaces k key htarget)

theorem Program.Executes.elsewhere {α : Type} {p : Program α} {places : Kind → ObjectKey → Prop}
    {log : List Event} {a : α} (h : p.Executes Eq s log a t) (hlog : ∀ e ∈ log, e.Within places)
    (hkey : ¬ places k key) : t.objects.get? k key = s.objects.get? k key := by
  induction h with
  | done a s => rfl
  | call before rest ih =>
    subst before
    obtain ⟨hfirst, hrest⟩ := List.forall_mem_cons.mp hlog
    exact (ih hrest).trans (hfirst.elsewhere hkey)

/-! ## What stays -/

namespace Store

theorem serve_stays (h : ∀ ns name, r ≠ .delete k ns name) (hkey : (s.objects.get? k key).isSome) :
    ((s.serve r).2.objects.get? k key).isSome := by
  by_cases htarget : r.target? = some (k, key)
  · cases hanswer : (s.serve r).1 with
    | error cause => rwa [serve_error hanswer, recording_objects]
    | ok value =>
      cases r with
      | get => cases htarget
      | list => cases htarget
      | delete k ns name =>
        cases htarget
        exact absurd rfl (h ns name)
      | create k ns object =>
        cases htarget
        rw [(serve_create_ok hanswer).2, if_pos rfl]
        rfl
      | replace k ns object =>
        cases htarget
        obtain ⟨old, -, -, -, -, hget⟩ := serve_replace_ok hanswer
        rw [hget, if_pos rfl]
        rfl
      | replaceStatus app =>
        cases htarget
        obtain ⟨old, -, -, -, -, hget⟩ := serve_status_ok hanswer
        rw [hget, if_pos rfl]
        rfl
  · rwa [serve_elsewhere s htarget]

theorem serve_create_taken {ns : String} {object old : Object k}
    (h : s.objects.get? k ⟨ns, object.name⟩ = some old) :
    (s.serve (.create k ns object)).2.objects = s.objects := by
  cases hanswer : (s.serve (.create k ns object)).1 with
  | error cause => rw [serve_error hanswer, recording_objects]
  | ok stored =>
    rcases serve_cases s (.create k ns object) with ⟨e, hs⟩ | ⟨-, hs⟩ <;> rw [hs] at hanswer
    · cases hanswer
    rw [perform] at hanswer
    rcases create_cases (s.recording (.create k ns object)) ns object with
      ⟨taken, message, -, hp⟩ | ⟨cleared, hnone, -⟩
    · rw [hp] at hanswer
      cases hanswer
    · rw [recording_objects, h] at hnone
      cases hnone

theorem serve_created_only {object : Object k} (hk : k ≠ .app)
    (hdelete : ∀ ns name, r ≠ .delete k ns name) (hreplace : ∀ ns object, r ≠ .replace k ns object)
    (hkey : s.objects.get? k key = some object) :
    (s.serve r).2.objects.get? k key = some object := by
  by_cases htarget : r.target? = some (k, key)
  · cases r with
    | get => cases htarget
    | list => cases htarget
    | delete k ns name =>
      cases htarget
      exact absurd rfl (hdelete ns name)
    | replace k ns object =>
      cases htarget
      exact absurd rfl (hreplace ns object)
    | replaceStatus app =>
      cases htarget
      exact absurd rfl hk
    | create k ns object =>
      cases htarget
      rw [serve_create_taken hkey]
      exact hkey
  · rw [serve_elsewhere s htarget]
    exact hkey

/-- An app is there, whatever its version and its status. -/
def Bears (s : Store) (key : ObjectKey) (app : App) : Prop :=
  ∃ version status, s.objects.get? .app key = some (app.under version status)

theorem bears_of_get? {app : App} (h : s.objects.get? .app key = some app) : s.Bears key app :=
  ⟨_, _, h⟩

theorem Bears.serve {app : App} (h : s.Bears key app)
    (hr : r.changes? ≠ some .app ∨ ∃ sent, r = .replaceStatus sent) :
    (s.serve r).2.Bears key app := by
  obtain ⟨version, status, hkey⟩ := h
  rcases hr with hr | ⟨sent, rfl⟩
  · refine ⟨version, status, ?_⟩
    rw [Objects.get?, s.serve_table hr]
    exact hkey
  · by_cases htarget : (Request.replaceStatus sent).target? = some (.app, key)
    · cases htarget
      cases hanswer : (s.serve (.replaceStatus sent)).1 with
      | error cause =>
        rw [serve_error hanswer]
        exact ⟨version, status, hkey⟩
      | ok stored =>
        obtain ⟨old, hold, -, hmetadata, hcontent, hget⟩ := serve_status_ok hanswer
        obtain rfl : old = app.under version status := Option.some.inj (hold.symm.trans hkey)
        refine ⟨stored.metadata.resourceVersion, sent.content.status, ?_⟩
        rw [hget, if_pos rfl, Option.some.injEq]
        cases stored
        simp only at hmetadata hcontent
        rw [hmetadata, hcontent]
        rfl
    · refine ⟨version, status, ?_⟩
      rw [serve_elsewhere s htarget]
      exact hkey

end Store

end OdooKeeper
