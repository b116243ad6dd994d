import OdooKeeper.Proofs.Converging
import OdooKeeper.Proofs.Secrets

/-! # What converging attains

A dependent that fails leaves all objects as they were. One that succeeds has its object in its place
as it should be, after at most one write, and has touched nothing else. -/

namespace OdooKeeper

/-! ## Writes -/

def writes (log : List Event) : List Request :=
  (log.map Event.request).filter fun r => r.changes?.isSome

section Writes

variable {log log' : List Event} {e : Event}

theorem writes_append : writes (log ++ log') = writes log ++ writes log' := by
  rw [writes, List.map_append, List.filter_append]
  rfl

theorem writes_cons_read (h : e.request.changes? = none) : writes (e :: log) = writes log := by
  rw [writes, List.map_cons, List.filter_cons_of_neg (by simp [h])]
  rfl

theorem writes_of_reads (h : ∀ e ∈ log, e.request.changes? = none) : writes log = [] := by
  refine List.filter_eq_nil_iff.mpr fun r hr => ?_
  obtain ⟨e, he, rfl⟩ := List.mem_map.mp hr
  simp [h e he]

theorem writes_last {k : Kind} (h : ∀ e ∈ log, e.request.changes? = none)
    (hlast : e.request.changes? = some k) : writes (log ++ [e]) = [e.request] := by
  rw [writes_append, writes_of_reads h, List.nil_append]
  exact List.filter_cons_of_pos (by simp [hlast])

end Writes

/-! ## Updates -/

def Service.addresses (service : Service) :
    Option String × Option (List String) × Option (List String) × Option String :=
  let spec := service.content.spec.getD {}
  (spec.clusterIP, spec.clusterIPs, spec.ipFamilies, spec.ipFamilyPolicy)

namespace Step

variable {step : Step} {app : App} {s t u : Store} {log : List Event} {c : Converged step.kind}
  {live desired object : Object step.kind}

/-- What an update leaves of the content of an object. -/
def Spares : (step : Step) → Object step.kind → Object step.kind → Prop
  | .adminSecret _, live, object | .configSecret _, live, object =>
    object.content =
      { live.content with data := object.content.data, stringData := object.content.stringData }
  | .filestore, live, object => object.content = live.content
  | .deployment, live, object =>
    object.content = { live.content with spec := object.content.spec }
  | .service _, live, object =>
    object.content = { live.content with spec := object.content.spec } ∧
      Service.addresses object = Service.addresses live

/-- The object is the live one but for its owners, its version and what its step is about. -/
structure Revises (step : Step) (live object : Object step.kind) : Prop where
  metadata : object.metadata =
    { live.metadata with
      ownerReferences := object.metadata.ownerReferences
      resourceVersion := object.metadata.resourceVersion }
  content : step.Spares live object

theorem next_metadata (reads : (step.dependent.desired app (some live)).Gives s desired t) :
    (step.dependent.next (some live) desired).metadata = live.metadata := by
  cases step with
  | adminSecret fresh =>
    obtain ⟨rfl, -⟩ := Attempt.gives_pure.mp reads
    rfl
  | _ => rfl

theorem desiredService_addresses (part : Dependent.ServicePart) (app : App) (live : Service) :
    Service.addresses (Dependent.desiredService part app (some live)) = Service.addresses live := by
  simp only [Service.addresses, Dependent.desiredService, Option.bind_some]
  cases live.content.spec <;> cases part <;> rfl

theorem next_spares (reads : (step.dependent.desired app (some live)).Gives s desired t)
    (content : object.content = (step.dependent.next (some live) desired).content) :
    step.Spares live object := by
  cases step with
  | adminSecret fresh =>
    obtain ⟨rfl, -⟩ := Attempt.gives_pure.mp reads
    simp only [Spares, content]
    rfl
  | configSecret password =>
    simp only [Spares, content]
    rfl
  | filestore => exact content
  | deployment =>
    simp only [Spares, content]
    rfl
  | service part =>
    obtain ⟨rfl, -⟩ := Attempt.gives_pure.mp reads
    refine ⟨?_, ?_⟩
    · rw [content]
      rfl
    · rw [← desiredService_addresses part app live, Service.addresses, content]
      rfl

theorem written_undrifted {found : Option (Object step.kind)}
    (reads : (step.dependent.desired app found).Gives s desired t)
    (content : object.content = (step.dependent.next found desired).content) :
    step.dependent.drifted object desired = false := by
  cases step with
  | adminSecret fresh =>
    simp [dependent, Dependent.adminSecret, adminSecret_password reads content]
  | configSecret password =>
    have hdata : object.content.data = desired.content.data := by
      rw [content]
      cases found <;> rfl
    simp [dependent, Dependent.configSecret, hdata]
  | filestore => rfl
  | deployment =>
    refine deployment_undrifted ?_
    rw [content]
    cases found <;> rfl
  | service part =>
    refine service_undrifted ?_
    rw [content]
    cases found <;> rfl

/-! ## What is attained -/

/-- What was written to bring the object of a step to its desired state. -/
inductive Wrote (step : Step) (app : App) (s : Store) (log : List Event) :
    Converged step.kind → Prop where
  | nothing {live : Object step.kind}
      (found : s.objects.get? step.kind (step.dependent.place app) = some live)
      (none : writes log = []) : Wrote step app s log ⟨live, .unchanged⟩
  | created {sent object : Object step.kind}
      (missing : s.objects.get? step.kind (step.dependent.place app) = none)
      (once : writes log = [.create step.kind app.space sent]) :
      Wrote step app s log ⟨object, .created⟩
  | updated {live sent object : Object step.kind}
      (found : s.objects.get? step.kind (step.dependent.place app) = some live)
      (once : writes log = [.replace step.kind app.space sent])
      (revises : step.Revises live object) : Wrote step app s log ⟨object, .updated⟩

/-- The object has not drifted from the one that the step wanted, and if it belongs to the app, the app
controls it. -/
structure Suits (step : Step) (app : App) (s : Store) (object : Object step.kind) : Prop where
  undrifted : ∃ desired t,
    (step.dependent.desired app (s.objects.get? step.kind (step.dependent.place app))).Gives
      (s.recording (step.dependent.reading app)) desired t ∧
    step.dependent.drifted object desired = false
  controlled : step.dependent.owned app = true →
    ∃ reference ∈ object.metadata.owners, reference.controller = some true ∧
      some reference.uid = app.metadata.uid

/-- What a step that succeeds has attained. An object that is created only is left as it was found. -/
structure Attains (step : Step) (app : App) (s : Store) (log : List Event)
    (c : Converged step.kind) (u : Store) : Prop where
  stored : u.objects.get? step.kind (step.dependent.place app) = some c.object
  elsewhere : ∀ k key, (k, key) ≠ step.place app → u.objects.get? k key = s.objects.get? k key
  wrote : step.Wrote app s log c
  suits : (step.dependent.createOnly = true ∧
    (s.objects.get? step.kind (step.dependent.place app)).isSome) ∨ step.Suits app s c.object

theorem controlled_of_isControlledBy {k : Kind} {object : Object k}
    (h : object.isControlledBy app = true) : ∃ reference ∈ object.metadata.owners,
      reference.controller = some true ∧ some reference.uid = app.metadata.uid := by
  obtain ⟨reference, hmem, hcontrols⟩ := List.any_eq_true.mp h
  rw [Bool.and_eq_true, decide_eq_true_eq] at hcontrols
  exact ⟨reference, hmem, of_decide_eq_true hcontrols.1, hcontrols.2⟩

theorem withOwner_controlled (hname : app.metadata.name.isSome) (huid : app.metadata.uid.isSome)
    {sent : Object step.kind}
    (owners : object.metadata.owners = (step.dependent.withOwner app sent).metadata.owners)
    (howned : step.dependent.owned app = true) : object.isControlledBy app = true := by
  rw [Object.isControlledBy_congr owners, Dependent.withOwner, if_pos howned]
  exact Object.isControlledBy_ensureOwner sent hname huid

theorem write_elsewhere {r : Request} (hsame : t.objects = s.objects)
    (htarget : r.target? = some (step.place app)) (k : Kind) (key : ObjectKey)
    (h : (k, key) ≠ step.place app) : (t.serve r).2.objects.get? k key = s.objects.get? k key := by
  rw [t.serve_elsewhere fun hkey => h (Option.some.inj (hkey.symm.trans htarget)), hsame]

section Converge

variable {v : Store} {reads : List Event}

theorem left_attains (read : s.objects.get? step.kind (step.dependent.place app) = some live)
    (desires : (step.dependent.desired app (some live)).run.Executes Eq
      (s.recording (step.dependent.reading app)) reads (.ok desired) u)
    (rests : (step.dependent.createOnly || !step.dependent.needsWrite app live desired) = true) :
    step.Attains app s (⟨s, step.dependent.reading app⟩ :: reads) ⟨live, .unchanged⟩ u := by
  have hreads := desired_reads desires
  have hsame : u.objects = s.objects := (desires.stays hreads).objects
  have hwrites : writes (⟨s, step.dependent.reading app⟩ :: reads) = [] :=
    (writes_cons_read rfl).trans (writes_of_reads hreads)
  refine ⟨by rw [hsame]; exact read, fun _ _ _ => by rw [hsame], .nothing read hwrites, ?_⟩
  rw [Bool.or_eq_true] at rests
  rcases rests with honly | hrests
  · exact .inl ⟨honly, Option.isSome_of_eq_some read⟩
  · rw [Bool.not_eq_true', Dependent.needsWrite, Bool.or_eq_false_iff] at hrests
    obtain ⟨hcontrolled, hundrifted⟩ := hrests
    refine .inr ⟨⟨desired, u, ?_, hundrifted⟩, fun howned => controlled_of_isControlledBy ?_⟩
    · rw [read]
      exact desires.run_eq
    · simpa [howned] using hcontrolled

theorem written_suits (hname : app.metadata.name.isSome) (huid : app.metadata.uid.isSome)
    {found : Option (Object step.kind)}
    (read : s.objects.get? step.kind (step.dependent.place app) = found)
    (desires : (step.dependent.desired app found).run.Executes Eq
      (s.recording (step.dependent.reading app)) reads (.ok desired) v)
    (content : object.content = (step.dependent.next found desired).content)
    (owners : object.metadata.owners =
      (step.dependent.withOwner app (step.dependent.next found desired)).metadata.owners) :
    step.Suits app s object := by
  subst read
  refine ⟨⟨desired, v, desires.run_eq, written_undrifted desires.run_eq content⟩, fun howned => ?_⟩
  exact controlled_of_isControlledBy (withOwner_controlled hname huid owners howned)

theorem created_attains (hname : app.metadata.name.isSome) (huid : app.metadata.uid.isSome)
    (read : s.objects.get? step.kind (step.dependent.place app) = none)
    (desires : (step.dependent.desired app none).run.Executes Eq
      (s.recording (step.dependent.reading app)) reads (.ok desired) v)
    (serves : (v.serve (step.dependent.creating app desired)).1 = .ok object) :
    step.Attains app s
      (⟨s, step.dependent.reading app⟩ :: (reads ++ [⟨v, step.dependent.creating app desired⟩]))
      ⟨object, .created⟩ (v.serve (step.dependent.creating app desired)).2 := by
  have hreads := desired_reads desires
  have hplace : (⟨app.space, (step.dependent.withOwner app desired).name⟩ : ObjectKey) =
      step.dependent.place app := by
    rw [Dependent.withOwner_name, desired_name desires.run_eq]
    rfl
  obtain ⟨hobject, hstored⟩ := Store.serve_create_ok serves
  rw [hplace] at hobject hstored
  refine ⟨?_, ?_, .created read ((writes_cons_read rfl).trans (writes_last hreads rfl)), .inr ?_⟩
  · exact (hstored _).trans (if_pos rfl)
  · exact write_elsewhere (desires.stays hreads).objects (congrArg (fun key => some (step.kind, key)) hplace)
  · refine written_suits hname huid read desires ?_ ?_
    · rw [hobject]
      exact Dependent.withOwner_content desired
    · rw [hobject]
      rfl

theorem replaced_attains (hs : s.WellFormed) (hname : app.metadata.name.isSome)
    (huid : app.metadata.uid.isSome)
    (read : s.objects.get? step.kind (step.dependent.place app) = some live)
    (desires : (step.dependent.desired app (some live)).run.Executes Eq
      (s.recording (step.dependent.reading app)) reads (.ok desired) v)
    (serves : (v.serve (step.dependent.replacing app live desired)).1 = .ok object) :
    step.Attains app s
      (⟨s, step.dependent.reading app⟩ :: (reads ++ [⟨v, step.dependent.replacing app live desired⟩]))
      ⟨object, .updated⟩ (v.serve (step.dependent.replacing app live desired)).2 := by
  have hreads := desired_reads desires
  have hsame : v.objects = s.objects := (desires.stays hreads).objects
  have hread : v.objects.get? step.kind (step.dependent.place app) = some live := hsame ▸ read
  obtain ⟨old, hold, hstale, hcontent, hmetadata, hstored⟩ := Store.serve_replace_ok serves
  have hplace : (⟨app.space, (step.dependent.withOwner app
      (step.dependent.merge live desired)).name⟩ : ObjectKey) = step.dependent.place app :=
    (desires.wellFormed_alone (hs.recording _)).accepted_key hread hold
      ((Dependent.withOwner_version _).trans (next_version desires.run_eq)) hstale
  rw [hplace] at hold hstored
  obtain rfl : live = old := Option.some.inj (hread.symm.trans hold)
  replace hcontent := hcontent.trans (Dependent.withOwner_content _)
  refine ⟨?_, ?_, .updated read ((writes_cons_read rfl).trans (writes_last hreads rfl)) ⟨?_, ?_⟩,
    .inr ?_⟩
  · exact (hstored _).trans (if_pos rfl)
  · exact write_elsewhere hsame (congrArg (fun key => some (step.kind, key)) hplace)
  · have hns : live.metadata.ns = some app.space := (hs.fits _ _ _ read).ns
    have hnext : (step.dependent.merge live desired).metadata = live.metadata :=
      next_metadata desires.run_eq
    rw [hmetadata, Dependent.withOwner_metadata, hnext, ← hns]
  · exact next_spares desires.run_eq hcontent
  · refine written_suits hname huid read desires hcontent ?_
    rw [hmetadata]
    rfl

theorem converge_attains (hs : s.WellFormed) (hname : app.metadata.name.isSome)
    (huid : app.metadata.uid.isSome)
    (h : (step.dependent.converge app).run.Executes Eq s log (.ok c) u) :
    step.Attains app s log c u := by
  generalize hresult : Except.ok c = result at h
  cases Dependent.converge_converges h with
  | unread before => cases hresult
  | unknown before read desires => cases hresult
  | left before read desires rests =>
    subst before
    cases hresult
    exact left_attains read desires rests
  | @created _ v _ desired reads before read desires meanwhile =>
    subst before meanwhile
    cases hserve : (v.serve (step.dependent.creating app desired)).1 with
    | error cause => rw [hserve] at hresult; cases hresult
    | ok object =>
      rw [hserve] at hresult
      cases hresult
      exact created_attains hname huid read desires hserve
  | @replaced _ v _ live desired reads before read desires writes meanwhile =>
    subst before meanwhile
    cases hserve : (v.serve (step.dependent.replacing app live desired)).1 with
    | error cause => rw [hserve] at hresult; cases hresult
    | ok object =>
      rw [hserve] at hresult
      cases hresult
      exact replaced_attains hs hname huid read desires hserve

end Converge

/-- A step that fails has changed no object. One that succeeds has attained what it is for. -/
theorem attained_or_unchanged {result : Except Failure (Converged step.kind)} (hs : s.WellFormed)
    (hname : app.metadata.name.isSome) (huid : app.metadata.uid.isSome)
    (h : (step.dependent.converge app).run.Executes Eq s log result u) :
    (∀ failure, result = .error failure → u.objects = s.objects) ∧
      ∀ c, result = .ok c → step.Attains app s log c u := by
  refine ⟨fun failure hfails => ?_, fun c hsucceeds => ?_⟩
  · subst hfails
    exact converge_fails h
  · subst hsucceeds
    exact converge_attains hs hname huid h

end Step

/-- A store with the service of the sample app, which has an address and has lost its owner. -/
def Sample.orphaned : Store :=
  let service := (App.sample key.name key.ns).httpService
  ({} : Store).insert
    ({ service with
        content :=
          { spec := service.content.spec.map fun spec => { spec with clusterIP := some "10.0.0.7" } } } :
      Service)

theorem Step.attained_or_unchanged_orphaned :
    let app := App.sample Sample.key.name Sample.key.ns
    let step := Step.service .http
    Sample.orphaned.WellFormed ∧ app.metadata.name.isSome ∧ app.metadata.uid.isSome ∧
      ∃ log c u, (step.dependent.converge app).run.Executes Eq Sample.orphaned log (.ok c) u ∧
        c.action = .updated ∧ step.Attains app Sample.orphaned log c u := by
  intro app step
  have hstore : Sample.orphaned.WellFormed := Store.wellFormed_empty.insert _
  obtain ⟨log, hrun⟩ := (step.dependent.converge app).run.exists_executes_run Sample.orphaned
  have hupdated : ((step.dependent.converge app).run.run Sample.orphaned).1.toOption.any
      (fun c => c.action = .updated) := by decide +kernel
  generalize (step.dependent.converge app).run.run Sample.orphaned = out at hrun hupdated
  obtain ⟨result, u⟩ := out
  cases result with
  | error failure => cases hupdated
  | ok c =>
    refine ⟨hstore, rfl, rfl, log, c, u, hrun, of_decide_eq_true hupdated, ?_⟩
    exact (attained_or_unchanged hstore rfl rfl hrun).2 c rfl

end OdooKeeper
