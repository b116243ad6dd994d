import OdooKeeper.Proofs.Dependents

/-! # Attempts that change nothing

An attempt is idle on a store when it gives its result and only adds to the recorded requests, none of
which creates, replaces or deletes an object. -/

namespace OdooKeeper

/-! ## Stores that stay -/

theorem Request.isWrite_of_reads {r : Request} (h : r.changes? = none) :
    r.call.verb.isWrite = false := by
  cases r <;> first | rfl | cases h

/-- The store after requests that have changed nothing. -/
def Store.Stays (s t : Store) : Prop :=
  ∃ calls, (∀ call ∈ calls, call.verb.isWrite = false) ∧ t = { s with calls := s.calls ++ calls }

namespace Store

variable {s t u : Store} {r : Request}

theorem Stays.refl (s : Store) : s.Stays s := ⟨[], by simp, by simp⟩

theorem Stays.trans (h : s.Stays t) (h' : t.Stays u) : s.Stays u := by
  obtain ⟨calls, hcalls, rfl⟩ := h
  obtain ⟨more, hmore, rfl⟩ := h'
  refine ⟨calls ++ more, fun call hcall => ?_, by simp⟩
  rcases List.mem_append.mp hcall with hcall | hcall
  · exact hcalls call hcall
  · exact hmore call hcall

theorem Stays.objects (h : s.Stays t) : t.objects = s.objects := by
  obtain ⟨calls, -, rfl⟩ := h
  rfl

theorem Stays.refusals (h : s.Stays t) : t.refusals = s.refusals := by
  obtain ⟨calls, -, rfl⟩ := h
  rfl

theorem stays_recording (h : r.call.verb.isWrite = false) : s.Stays (s.recording r) := by
  refine ⟨[r.call], fun call hcall => ?_, rfl⟩
  rw [List.mem_singleton.mp hcall]
  exact h

theorem stays_reading (h : r.changes? = none) : s.Stays (s.serve r).2 := by
  rw [serve_reading s h]
  exact stays_recording (Request.isWrite_of_reads h)

end Store

theorem Program.Executes.stays {α : Type} {p : Program α} {s t : Store} {log : List Event} {a : α}
    (h : p.Executes Eq s log a t) (hlog : ∀ e ∈ log, e.request.changes? = none) : s.Stays t :=
  (h.keeps (fun r => r.changes? = none) s.Stays hlog (fun _ _ he hs => he ▸ hs)
    (fun _ _ hr hs => hs.trans (Store.stays_reading hr)) (.refl s)).2

/-! ## Idle attempts -/

/-- Whatever is recorded by then, the attempt gives a result and changes nothing. -/
def Attempt.Idles {α : Type} (x : Attempt α) (s : Store) (a : α) : Prop :=
  ∀ t, s.Stays t → ∃ u, x.Gives t a u ∧ s.Stays u

namespace Attempt

variable {α β : Type} {x : Attempt α} {s t u : Store} {a : α}

theorem idles_pure (a : α) (s : Store) : (pure a : Attempt α).Idles s a :=
  fun t ht => ⟨t, gives_pure.mpr ⟨rfl, rfl⟩, ht⟩

theorem Idles.bind {f : α → Attempt β} {b : β} (hx : x.Idles s a) (hf : (f a).Idles s b) :
    (x >>= f).Idles s b := by
  intro t ht
  obtain ⟨u, hxu, hu⟩ := hx t ht
  obtain ⟨v, hfv, hv⟩ := hf u hu
  exact ⟨v, gives_bind.mpr ⟨a, u, hxu, hfv⟩, hv⟩

theorem request_gives {role : Role} {operation : Operation} {name : String} {r : Request}
    {value : r.Value} (h : (s.serve r).1 = .ok value) :
    (request role operation name (Program.ask r)).Gives s value (s.serve r).2 := by
  change ((s.serve r).1.mapError (Failure.store role operation name), (s.serve r).2) = _
  rw [h]
  rfl

theorem get_granted {k : Kind} {ns name : String} (h : ¬ s.Refuses (.get k ns name)) (role : Role) :
    (request role .get name (Program.get k ns name)).Gives s (s.objects.get? k ⟨ns, name⟩)
      (s.recording (.get k ns name)) := by
  have hserve := Store.serve_get_granted h
  have hgives : (request role .get name (Program.get k ns name)).Gives s
      (s.objects.get? k ⟨ns, name⟩) (s.serve (.get k ns name)).2 := request_gives (by rw [hserve])
  rwa [hserve] at hgives

theorem get_gives (hs : s.refusals = []) (role : Role) (k : Kind) (ns name : String) :
    (request role .get name (Program.get k ns name)).Gives s (s.objects.get? k ⟨ns, name⟩)
      (s.recording (.get k ns name)) :=
  get_granted (Store.not_refuses hs _) role

theorem run_bind_ok {f : α → Attempt β} (h : x.Gives s a u) :
    (x >>= f).run.run s = (f a).run.run u := by
  unfold Gives at h
  rw [ExceptT.run_bind, Program.run_bind, h]

theorem run_bind_error {f : α → Attempt β} {failure : Failure}
    (h : (x.run.run s).1 = .error failure) : ((x >>= f).run.run s).1 = .error failure := by
  rw [ExceptT.run_bind, Program.run_bind, h]
  rfl

theorem idles_get (role : Role) (k : Kind) (ns name : String) (h : s.refusals = []) :
    (request role .get name (Program.get k ns name)).Idles s (s.objects.get? k ⟨ns, name⟩) := by
  intro t ht
  have hgranted : ¬ t.Refuses (.get k ns name) :=
    Store.not_refuses (ht.refusals.trans h) _
  have hserve := Store.serve_get_granted hgranted
  refine ⟨_, request_gives ?_, ht.trans (Store.stays_reading rfl)⟩
  rw [hserve, ht.objects]

/-! ## Reading attempts -/

theorem Gives.stays {post : α → Prop} (h : x.Gives s a t)
    (hx : x.Asks (fun r => r.changes? = none) post) : s.Stays t := by
  obtain ⟨log, hexecutes⟩ := h.executes
  exact hexecutes.stays (hexecutes.asked hx).1

/-- Two stores have the same secrets where the database settings of an app refer to them. -/
def AlikeFor (app : App) (s t : Store) : Prop :=
  t.refusals = s.refusals ∧ ∀ ref ∈ app.secretRefs,
    t.objects.get? .secret ⟨app.space, ref.name⟩ = s.objects.get? .secret ⟨app.space, ref.name⟩

theorem AlikeFor.serve {app : App} {r : Request} (h : AlikeFor app s t) (hr : r.Refers app) :
    (s.serve r).1 = (t.serve r).1 ∧ AlikeFor app (s.serve r).2 (t.serve r).2 := by
  obtain ⟨href, hsecrets⟩ := h
  obtain ⟨ref, hmem, rfl⟩ := hr
  refine ⟨?_, ?_, fun ref' hmem' => ?_⟩
  · by_cases hrefused : s.Refuses (.get .secret app.space ref.name)
    · have hrefused' : t.Refuses (.get .secret app.space ref.name) := by
        rw [Store.Refuses, href]
        exact hrefused
      rw [Store.serve_refused hrefused, Store.serve_refused hrefused']
    · have hgranted : ¬ t.Refuses (.get .secret app.space ref.name) := by
        rw [Store.Refuses, href]
        exact hrefused
      rw [Store.serve_get_granted hrefused, Store.serve_get_granted hgranted, hsecrets ref hmem]
  · rw [Store.serve_refusals, Store.serve_refusals, href]
  · rw [Store.serve_reading s rfl, Store.serve_reading t rfl]
    exact hsecrets ref' hmem'

theorem Gives.idles {app : App} {post : α → Prop} (h : x.Gives s a u)
    (hx : x.Asks (Request.Refers app) post) (halike : AlikeFor app s t) : x.Idles t a := by
  intro t' ht'
  have halike' : AlikeFor app s t' := by
    refine ⟨ht'.refusals.trans halike.1, fun ref hmem => ?_⟩
    rw [ht'.objects]
    exact halike.2 ref hmem
  obtain ⟨hresult, -⟩ := Program.Asks.run_alike hx halike' fun _ _ r hr h => h.serve hr
  have hgives : x.Gives t' a (x.run.run t').2 := by
    rw [h] at hresult
    exact Prod.ext hresult.symm rfl
  exact ⟨_, hgives, ht'.trans (hgives.stays (hx.allow fun _ hr => hr.changes?))⟩

end Attempt

/-! ## Changes in some places only -/

/-- Apart from some places, the dependents are the same, and so is what is refused. -/
def Store.SameOutside (places : List (Kind × ObjectKey)) (s t : Store) : Prop :=
  t.refusals = s.refusals ∧ ∀ k key, k ∈ [Kind.secret, .claim, .deployment, .service] →
    (k, key) ∉ places → t.objects.get? k key = s.objects.get? k key

namespace Store.SameOutside

variable {places places' : List (Kind × ObjectKey)} {s t u : Store} {app : App}

theorem trans (h : s.SameOutside places t) (h' : t.SameOutside places' u) :
    s.SameOutside (places ++ places') u := by
  refine ⟨h'.1.trans h.1, fun k key hk hkey => ?_⟩
  rw [List.mem_append, not_or] at hkey
  exact (h'.2 k key hk hkey.2).trans (h.2 k key hk hkey.1)

theorem of_stays (h : s.Stays t) (places : List (Kind × ObjectKey)) : s.SameOutside places t := by
  refine ⟨h.refusals, fun k key _ _ => ?_⟩
  rw [h.objects]

theorem serve_status (s : Store) (app : App) :
    s.SameOutside [] (s.serve (.replaceStatus app)).2 := by
  refine ⟨s.serve_refusals _, fun k key hk _ => ?_⟩
  have happ : (Request.replaceStatus app).changes? ≠ some k := by
    rintro ⟨⟩
    simp at hk
  rw [Objects.get?, s.serve_table happ]
  rfl

theorem serve {r : Request} {k : Kind} {key : ObjectKey} (hr : r.changes? = some k)
    (hothers : ∀ key', key' ≠ key → (s.serve r).2.objects.get? k key' = s.objects.get? k key') :
    s.SameOutside [(k, key)] (s.serve r).2 := by
  refine ⟨s.serve_refusals _, fun k' key' _ hplace => ?_⟩
  by_cases hk : k' = k
  · subst hk
    apply hothers
    rintro rfl
    exact hplace (List.mem_singleton.mpr rfl)
  · have hother : r.changes? ≠ some k' := by
      rw [hr]
      intro hsame
      exact hk (Option.some.inj hsame).symm
    rw [Objects.get?, s.serve_table hother]
    rfl

theorem alikeFor (h : s.SameOutside places t)
    (hrefs : ∀ ref ∈ app.secretRefs, (Kind.secret, ⟨app.space, ref.name⟩) ∉ places) :
    Attempt.AlikeFor app s t :=
  ⟨h.1, fun ref hmem => h.2 _ _ (by simp) (hrefs ref hmem)⟩

end Store.SameOutside

end OdooKeeper
