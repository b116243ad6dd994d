import OdooKeeper.Proofs.Failing
import OdooKeeper.Proofs.Histories
import OdooKeeper.Proofs.Interruption

/-! # Overtaken passes

Other clients may change the app that a pass is about. The pass writes its status under the version
that it knows, so it never overwrites what they have made of the app: its next write is refused, and
with that it ends. -/

namespace OdooKeeper

/-! ## Unchanged in between -/

/-- Nobody but the sender of the requests changes the app at a key from a store on until the last of
the requests. -/
def Store.Steady (key : ObjectKey) : Store → List Event → Prop
  | _, [] => True
  | s, e :: rest => e.store.objects.get? .app key = s.objects.get? .app key ∧ Steady key e.after rest

theorem Store.steady_append {key : ObjectKey} {s : Store} {earlier later : List Event} {e : Event} :
    s.Steady key (earlier ++ e :: later) ↔
      s.Steady key (earlier ++ [e]) ∧ e.after.Steady key later := by
  induction earlier generalizing s with
  | nil => simp [Steady]
  | cons first earlier ih => simp only [List.cons_append, Steady, ih, and_assoc]

section Between

variable {k : Kind} {key : ObjectKey} {s mid t : Store} {live : Object k}

theorem Store.WellFormed.kept_between (hs : s.WellFormed)
    (h : s.objects.get? k key = some live) (hmid : s.Leads mid) (ht : mid.Leads t)
    (hkept : t.objects.get? k key = some live) : mid.objects.get? k key = some live := by
  by_contra hgone
  exact hs.version_gone h hmid ht hgone hkept rfl

theorem Program.Executes.leads_stop {α : Type} {p : Program α} {log : List Event} {a : α}
    (h : p.Executes Store.Leads s log a t) : s.Leads t :=
  (h.keeps (fun _ => True) s.Leads (fun _ _ => trivial) (fun _ _ hleads h => h.trans hleads)
    (fun u r _ h => h.trans (u.leads_serve r)) (.refl s)).2

/-- A program that does not write the app finds it changed at its end if somebody else has changed
it. -/
theorem Program.Executes.steady_iff {α : Type} {p : Program α} {log : List Event} {a : α}
    {app : App} {e : Event} (h : p.Executes Store.Leads s log a t) (hs : s.WellFormed)
    (happ : s.objects.get? .app key = some app)
    (hlog : ∀ e ∈ log, e.request.changes? ≠ some .app) (ht : t.Leads e.store) :
    s.Steady key (log ++ [e]) ↔ e.store.objects.get? .app key = some app := by
  induction h with
  | done a s => simp [Store.Steady, happ]
  | @call r next s s' t log a before rest ih =>
    obtain ⟨hfirst, hlog⟩ := List.forall_mem_cons.mp hlog
    have hserve : s'.Leads e.store :=
      ((s'.leads_serve r).trans rest.leads_stop).trans ht
    simp only [List.cons_append, Store.Steady]
    constructor
    · rintro ⟨hkept, hsteady⟩
      refine (ih ((before.wellFormed hs).serve r) ?_ hlog ht).mp hsteady
      rw [Objects.get?, Store.serve_table s' hfirst]
      exact hkept.trans happ
    · intro hkept
      have hmid : s'.objects.get? .app key = some app := hs.kept_between happ before hserve hkept
      refine ⟨hmid.trans happ.symm, (ih ((before.wellFormed hs).serve r) ?_ hlog ht).mpr hkept⟩
      rw [Objects.get?, Store.serve_table s' hfirst]
      exact hmid

end Between

/-! ## One write -/

/-- A report is written exactly when the app is still the one that the report has. Otherwise the app
has been modified, unless it is gone. -/
theorem Report.InStep.overtaken_iff {r : Report} {s u : Store} (h : r.InStep s) (hs : s.WellFormed)
    (hu : s.Leads u) (hgranted : (.replaceStatus, .app) ∉ u.refusals) :
    (u.objects.get? .app r.app.key = some r.app ∧
      ∃ stored, (u.serve (.replaceStatus r.written)).1 = .ok stored) ∨
    (u.objects.get? .app r.app.key ≠ some r.app ∧
      ∃ cause, (u.serve (.replaceStatus r.written)).1 = .error cause ∧
        ((u.objects.get? .app r.app.key).isSome → cause = Store.staleError .app r.app.key.name)) := by
  have hserve : ¬ u.Refuses (.replaceStatus r.written) := hgranted
  by_cases hkept : u.objects.get? .app r.app.key = some r.app
  · have hstep : r.InStep u := hkept
    exact .inl ⟨hkept, hstep.granted hserve⟩
  refine .inr ⟨hkept, ?_⟩
  have hstale : ∀ live : App, u.objects.get? .app r.app.key = some live →
      Store.isStale r.written.metadata live.metadata = true := by
    intro live hlive
    obtain ⟨n, hversion, -⟩ := hs.bearers h
    have hother := hs.version_gone h hu (.refl u) hkept hlive
    have hwritten : r.written.metadata.resourceVersion = some (Store.versionText n) := hversion
    rw [Store.isStale, hwritten, Option.isSome_some, Bool.true_and, bne_iff_ne, ← hversion]
    exact hother.symm
  rw [Store.serve_granted hserve, Store.perform]
  rcases Store.replaceStatus_cases (u.recording (.replaceStatus r.written)) r.written with
    ⟨hnone, hp⟩ | ⟨live, hlive, ⟨-, hp⟩ | ⟨hcurrent, -, -⟩ | ⟨-, hcurrent, -, -⟩⟩
  · rw [hp]
    refine ⟨_, rfl, fun hsome => ?_⟩
    rw [Store.recording_objects, Report.written_key] at hnone
    rw [hnone] at hsome
    cases hsome
  · rw [hp]
    exact ⟨_, rfl, fun _ => rfl⟩
  · rw [hstale live hlive] at hcurrent
    cases hcurrent
  · rw [hstale live hlive] at hcurrent
    cases hcurrent

theorem Event.after_refused {e : Event} {cause : StoreError}
    (h : (e.store.serve e.request).1 = .error cause) : e.after.objects = e.store.objects := by
  rw [after, Store.serve_error h, Store.recording_objects]

/-- The failure of a refused status beside that of the step before it, if that has failed. -/
def Failure.beside : Option Failure → Failure → Failure
  | none, refused => refused
  | some failure, refused => .several [failure, refused]

theorem Stage.stopped?_refused {stage : Stage} {cause : StoreError}
    (h : stage.answer = .error cause) :
    stage.stopped? = some (.beside stage.outcome.failure (stage.report.refusal cause)) := by
  unfold stopped?
  rw [h]
  cases stage.outcome.failure <;> rfl

namespace Pass

/-- A write of the status is stored if nobody else has changed the app. If somebody has, nothing is
written, and it is the last request of the pass, which fails. -/
structure WritesOver (key : ObjectKey) (s : Store) (stages : List Stage)
    (result : Except Failure (Option Nat)) (earlier : List Event) (e : Event) (later : List Event) :
    Prop where
  sent : ∃ sent : App, e.request = .replaceStatus sent ∧ sent.key = key
  kept : s.Steady key (earlier ++ [e]) → ∃ stored, e.Stores stored
  overtaken : ¬ s.Steady key (earlier ++ [e]) →
    later = [] ∧ e.after.objects = e.store.objects ∧
      ∃ cause, (e.store.serve e.request).1 = .error cause ∧
        ((e.store.objects.get? .app key).isSome → cause = Store.staleError .app key.name) ∧
        result = .error (.beside (stages.findSome? fun stage => stage.outcome.failure)
          (.store .app .updateStatus key.name cause))

variable {settings : PassSettings} {now : Timestamp} {roles : List Role} {r : Report} {s t : Store}
  {stage : Stage} {stages : List Stage} {earlier later last : List Event} {e : Event}
  {result : Except Failure (Option Nat)}

/-! ## One stage -/

theorem Made.leads (h : Made Store.Leads settings now r s stage) : s.Leads stage.store := by
  obtain ⟨u, hworks, hstore⟩ := h.works
  obtain ⟨α, p, a, run⟩ := hworks.executes
  exact run.leads_stop.trans hstore

theorem Made.spares {others : Store → Store → Prop} (h : Made others settings now r s stage) :
    ∀ e ∈ stage.work, e.request.changes? ≠ some .app := by
  obtain ⟨u, hworks, -⟩ := h.works
  exact fun e he => Role.owned_changes? (hworks.owns (.self r) e he)

/-- The status of a stage is stored exactly when nobody else has changed the app during the stage. -/
theorem Made.steady_or (h : Made Store.Leads settings now r s stage) (hs : s.WellFormed)
    (hr : r.InStep s) (hgranted : (.replaceStatus, .app) ∉ stage.store.refusals) :
    (s.Steady r.app.key stage.log ∧ ∃ stored, stage.answer = .ok stored ∧
      (stage.report.accepted stored).InStep stage.write.after) ∨
    (¬ s.Steady r.app.key stage.log ∧ ∃ cause, stage.answer = .error cause ∧
      ((stage.store.objects.get? .app r.app.key).isSome →
        cause = Store.staleError .app r.app.key.name)) := by
  obtain ⟨u, hworks, hstore⟩ := h.works
  obtain ⟨α, p, a, run⟩ := hworks.executes
  have hsteady : s.Steady r.app.key stage.log ↔
      stage.store.objects.get? .app r.app.key = some r.app :=
    run.steady_iff hs hr h.spares hstore
  have hstep : stage.report.InStep s := by
    unfold Report.InStep
    rw [h.app]
    exact hr
  have hanswer := hstep.overtaken_iff hs h.leads hgranted
  rw [h.app] at hanswer
  rcases hanswer with ⟨hkept, stored, hstored⟩ | ⟨hlost, hrefused⟩
  · refine .inl ⟨hsteady.mpr hkept, stored, hstored, Report.InStep.accepted ?_ hstored⟩
    unfold Report.InStep
    rw [h.app]
    exact hkept
  · exact .inr ⟨fun hkept => hlost (hsteady.mp hkept), hrefused⟩

theorem Made.cut {others : Store → Store → Prop} {rest : List Event}
    (h : Made others settings now r s stage) (hcut : stage.log ++ rest = earlier ++ e :: later)
    (he : e.request.changes? = some .app) :
    (earlier = stage.work ∧ e = stage.write ∧ later = rest) ∨
      ∃ between, earlier = stage.log ++ between ∧ rest = between ++ e :: later := by
  rw [Stage.log, List.append_assoc, List.singleton_append] at hcut
  rcases List.append_eq_append_iff.mp hcut with ⟨between, rfl, hrest⟩ | ⟨inside, hwork, hrest⟩
  · cases between with
    | nil =>
      cases hrest
      exact .inl ⟨List.append_nil _, rfl, rfl⟩
    | cons first between =>
      cases hrest
      exact .inr ⟨between, by simp [Stage.log], rfl⟩
  · cases inside with
    | nil =>
      cases hrest
      exact .inl ⟨by simpa using hwork.symm, rfl, rfl⟩
    | cons first inside =>
      cases hrest
      exact absurd he (h.spares e (by simp [hwork]))

/-! ## All stages -/

namespace WritesOver

variable {key : ObjectKey} {sent stored : App} {cause : StoreError}

theorem of_stored (hsent : e.request = .replaceStatus sent ∧ sent.key = key)
    (hsteady : s.Steady key (earlier ++ [e])) (hstored : e.Stores stored) :
    WritesOver key s stages result earlier e later :=
  ⟨⟨sent, hsent⟩, fun _ => ⟨stored, hstored⟩, fun hlost => absurd hsteady hlost⟩

theorem of_refused (hsent : e.request = .replaceStatus sent ∧ sent.key = key)
    (hlost : ¬ s.Steady key (earlier ++ [e])) (hcause : (e.store.serve e.request).1 = .error cause)
    (hstale : (e.store.objects.get? .app key).isSome → cause = Store.staleError .app key.name)
    (hresult : result = .error (.beside (stages.findSome? fun stage => stage.outcome.failure)
      (.store .app .updateStatus key.name cause))) :
    WritesOver key s stages result earlier e [] :=
  ⟨⟨sent, hsent⟩, fun hsteady => absurd hsteady hlost,
    fun _ => ⟨rfl, Event.after_refused hcause, cause, hcause, hstale, hresult⟩⟩

theorem after_stage (h : WritesOver key stage.write.after stages result earlier e later)
    (hsteady : s.Steady key stage.log) (hsucceeded : stage.outcome.failure = none) :
    WritesOver key s (stage :: stages) result (stage.log ++ earlier) e later := by
  have hlater : s.Steady key (stage.log ++ earlier ++ [e]) ↔
      stage.write.after.Steady key (earlier ++ [e]) := by
    rw [Stage.log, List.append_assoc, List.append_assoc, List.singleton_append,
      Store.steady_append]
    exact and_iff_right hsteady
  refine ⟨h.sent, fun hs => h.kept (hlater.mp hs), fun hlost => ?_⟩
  rw [List.findSome?_cons, hsucceeded]
  exact h.overtaken fun hs => hlost (hlater.mpr hs)

end WritesOver

theorem Made.writes_stop {failure : Failure} (h : Made Store.Leads settings now r s stage)
    (hs : s.WellFormed) (hr : r.InStep s) (hgranted : (.replaceStatus, .app) ∉ stage.store.refusals)
    (hstops : stage.stopped? = some failure) :
    WritesOver r.app.key s [stage] (.error failure) stage.work stage.write [] := by
  have hkey : stage.report.written.key = r.app.key := by rw [Report.written_key, h.app]
  obtain ⟨hsteady, stored, hstored, -⟩ | ⟨hlost, cause, hcause, hstale⟩ :=
    h.steady_or hs hr hgranted
  · exact .of_stored ⟨rfl, hkey⟩ hsteady ⟨_, _, rfl, hstored⟩
  refine .of_refused ⟨rfl, hkey⟩ hlost hcause hstale ?_
  have hrefusal : stage.report.refusal cause = .store .app .updateStatus r.app.key.name cause := by
    rw [← hkey]
    rfl
  rw [Stage.stopped?_refused hcause, hrefusal] at hstops
  cases hstops
  simp

theorem writes_finish {u : Store} (hs : s.WellFormed) (hr : r.InStep s) (hu : s.Leads u)
    (hgranted : (.replaceStatus, .app) ∉ u.refusals)
    (htold : ∀ cause, (u.serve (.replaceStatus (r.succeed now).written)).1 = .error cause →
      result = .error ((r.succeed now).refusal cause)) :
    WritesOver r.app.key s [] result [] ⟨u, .replaceStatus (r.succeed now).written⟩ [] := by
  have hstep : (r.succeed now).InStep s := hr
  have hsteady : s.Steady r.app.key [⟨u, .replaceStatus (r.succeed now).written⟩] ↔
      u.objects.get? .app r.app.key = some r.app := by
    simp only [Store.Steady, and_true]
    rw [show s.objects.get? .app r.app.key = some r.app from hr]
  obtain ⟨hkept, stored, hstored⟩ | ⟨hlost, cause, hcause, hstale⟩ :=
    hstep.overtaken_iff hs hu hgranted
  · exact .of_stored ⟨rfl, rfl⟩ (hsteady.mpr hkept) ⟨_, _, rfl, hstored⟩
  · exact .of_refused ⟨rfl, rfl⟩ (fun hkept => hlost (hsteady.mp hkept)) hcause hstale
      (htold cause hcause)

/-- Every write of the status of a pass that knows the app is stored, or is refused because the app
has been changed, and ends the pass. -/
theorem Proceeds.writes (h : Proceeds Store.Leads settings now roles r s stages last result t)
    (hs : s.WellFormed) (hr : r.InStep s)
    (hgranted : ∀ e ∈ stages.flatMap Stage.log ++ last, (.replaceStatus, .app) ∉ e.store.refusals)
    (hcut : stages.flatMap Stage.log ++ last = earlier ++ e :: later)
    (he : e.request.changes? = some .app) :
    WritesOver r.app.key s stages result earlier e later := by
  induction h generalizing earlier with
  | @stop r s stage roles failure made stops =>
    rw [List.flatMap_singleton] at hcut
    obtain ⟨rfl, rfl, rfl⟩ | ⟨between, -, hlast⟩ := made.cut hcut he
    · exact made.writes_stop hs hr (hgranted stage.write (by simp [Stage.log])) stops
    · simp at hlast
  | @next r s t stage roles stored stages last result made succeeded accepted rest ih =>
    rw [List.flatMap_cons, List.append_assoc] at hcut hgranted
    obtain ⟨hstage, hrest⟩ := List.forall_mem_append.mp hgranted
    obtain ⟨hsteady, stored', hstored, hstep⟩ | ⟨-, cause, hcause, -⟩ :=
      made.steady_or hs hr (hstage stage.write (by simp [Stage.log]))
    · obtain rfl : stored = stored' := Except.ok.inj (accepted.symm.trans hstored)
      obtain ⟨rfl, rfl, rfl⟩ | ⟨between, rfl, hlater⟩ := made.cut hcut he
      · have hkey : stage.report.written.key = r.app.key := by rw [Report.written_key, made.app]
        exact .of_stored ⟨rfl, hkey⟩ hsteady ⟨_, _, rfl, accepted⟩
      · have hkey : (stage.report.accepted stored).app.key = r.app.key := by
          rw [Report.accepted_key, made.app]
        have hwrites := ih ((made.leads.wellFormed hs).serve _) hstep hrest hlater
        rw [hkey] at hwrites
        exact hwrites.after_stage hsteady succeeded
    · rw [accepted] at hcause
      cases hcause
  | wait seconds gate => simp at hcut
  | @finish r s u result before refused told =>
    obtain ⟨rfl, hrest⟩ | ⟨-, hrest⟩ := List.append_eq_singleton_iff.mp hcut.symm
    · cases hrest
      exact writes_finish hs hr before (hgranted _ List.mem_cons_self) told
    · cases hrest

end Pass

/-! ## Passes among clients -/

/-- A pass among clients that may do anything with the store never overwrites what they have made of
its app: once they have changed it, the next status is refused and the pass ends. -/
theorem change_never_overwritten {settings : PassSettings} {now : Timestamp} {fresh : String}
    {key : ObjectKey} {s t : Store} {log : List Event} {result : Except Failure (Option Nat)}
    (hs : s.WellFormed)
    (h : (reconcile settings now fresh key.ns key.name).run.Executes Store.Leads s log result t)
    (hnamed : ∀ e rest, log = e :: rest → ∀ app : App,
      e.store.objects.get? .app key = some app → app.key = key)
    (hgranted : ∀ e ∈ log, (.replaceStatus, .app) ∉ e.store.refusals) :
    ∃ u stages last, log = ⟨u, .get .app key.ns key.name⟩ :: (stages.flatMap Stage.log ++ last) ∧
      Pass.Ordered Store.Leads settings now (u.objects.get? .app key) stages last ∧
      ∀ earlier e later, log = earlier ++ e :: later → e.request.call.verb = .replaceStatus →
        Pass.WritesOver key u stages result earlier e later := by
  obtain ⟨u, rest, hu, rfl, ⟨rfl, -, -⟩ | ⟨(app : App), happ, stages, last, rfl, hproceeds⟩⟩ :=
    Pass.reconcile_onwards h
  · refine ⟨u, [], [], rfl, .nil _, fun earlier e later hcut hverb => ?_⟩
    obtain ⟨rfl, hread⟩ | ⟨-, hread⟩ := List.append_eq_singleton_iff.mp hcut.symm
    · cases hread
      cases hverb
    · cases hread
  obtain rfl := hnamed _ _ rfl app happ
  have hread : (Report.start app).InStep (u.recording (.get .app app.key.ns app.key.name)) := happ
  refine ⟨u, stages, last, rfl, ?_, fun earlier e later hcut hverb => ?_⟩
  · change Pass.Ordered _ _ _ (u.objects.get? .app ⟨app.key.ns, app.key.name⟩) _ _
    rw [happ]
    exact .of_proceeds hproceeds
  cases earlier with
  | nil =>
    cases hcut
    cases hverb
  | cons read earlier =>
    rw [List.cons_append, List.cons.injEq] at hcut
    obtain ⟨rfl, hcut⟩ := hcut
    have he : e.request.changes? = some .app := by
      by_contra hother
      exact Request.verb_ne_of_changes? hother hverb
    have hwrites := hproceeds.writes ((hu.wellFormed hs).recording _) hread
      (fun e he => hgranted e (List.mem_cons_of_mem _ he)) hcut he
    have hsteady : u.Steady app.key
        (⟨u, .get .app app.key.ns app.key.name⟩ :: earlier ++ [e]) ↔
        (u.recording (.get .app app.key.ns app.key.name)).Steady app.key (earlier ++ [e]) := by
      rw [List.cons_append, Store.Steady, Event.after, Store.serve_reading u rfl]
      exact and_iff_right rfl
    refine ⟨hwrites.sent, fun hs => hwrites.kept (hsteady.mp hs), fun hlost => ?_⟩
    exact hwrites.overtaken fun hs => hlost (hsteady.mpr hs)

/-- The first pass over the sample app, when another client labels the app while the configuration
file is put together. -/
def Sample.labelled : List Event × Except Failure (Option Nat) × Store :=
  (reconcile {} (.ofUnix 0) "fresh" key.ns key.name).run.play
    (List.replicate 5 id ++ [fun s => s.operate (.modify key.ns key.name label)]) store

theorem change_never_overwritten_sample : ∃ earlier e failure,
    Sample.labelled.1 = earlier ++ [e] ∧ e.request.call.verb = .replaceStatus ∧
      e.after.objects = e.store.objects ∧
      Sample.labelled.2.1 = .error (.beside failure
        (.store .app .updateStatus Sample.key.name (Store.staleError .app Sample.key.name))) := by
  have hlast : Sample.labelled.1.getLast?.any fun e => e.request.call.verb = .replaceStatus ∧
      (e.store.serve e.request).1.isOk = false ∧
      (e.store.objects.get? .app Sample.key).isSome := by decide +kernel
  obtain ⟨e, he, hlast⟩ := (Option.any_eq_true ..).mp hlast
  obtain ⟨hverb, hrefused, hthere⟩ := of_decide_eq_true hlast
  obtain ⟨earlier, hlog⟩ := List.getLast?_eq_some_iff.mp he
  have hclients : ∀ f ∈ List.replicate 5 id ++
      [fun s => s.operate (.modify Sample.key.ns Sample.key.name Sample.label)],
      ∀ s, Store.Leads s (f s) := by
    intro f hf s
    rcases List.mem_append.mp hf with hid | hlabel
    · rw [List.eq_of_mem_replicate hid]
      exact .refl s
    · rw [List.mem_singleton.mp hlabel]
      exact ⟨[.modify Sample.key.ns Sample.key.name Sample.label], rfl⟩
  have hpass := Program.executes_play Store.Leads.refl _ hclients
    (reconcile {} (.ofUnix 0) "fresh" Sample.key.ns Sample.key.name).run Sample.store
  have hstore : Sample.store.WellFormed := (Store.wellFormed_empty.insert _).insert _
  have hnamed : Sample.labelled.1.head?.all fun first =>
      (first.store.objects.get? .app Sample.key).all fun app : App => app.key = Sample.key := by
    decide +kernel
  have hgranted : Sample.labelled.1.all fun e => e.store.refusals.isEmpty := by decide +kernel
  obtain ⟨u, stages, last, -, -, hwrites⟩ := change_never_overwritten hstore hpass
    (fun first rest hfirst app happ => by
      change Sample.labelled.1 = _ at hfirst
      rw [hfirst, List.head?_cons, Option.all_some, happ, Option.all_some] at hnamed
      exact of_decide_eq_true hnamed)
    (fun e he => by simp [List.isEmpty_iff.mp (List.all_eq_true.mp hgranted e he)])
  have hwrite := hwrites earlier e [] hlog hverb
  obtain ⟨-, hkept, cause, hcause, hstale, hresult⟩ := hwrite.overtaken fun hsteady => by
    obtain ⟨stored, s, sent, rfl, hstored⟩ := hwrite.kept hsteady
    rw [hstored] at hrefused
    cases hrefused
  exact ⟨earlier, e, _, hlog, hverb, hkept, by rw [← hstale hthere]; exact hresult⟩

end OdooKeeper
