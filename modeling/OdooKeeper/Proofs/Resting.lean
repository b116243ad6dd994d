import OdooKeeper.Proofs.Covering
import OdooKeeper.Proofs.Idling
import OdooKeeper.Proofs.Modules
import OdooKeeper.Proofs.WellFormed

/-! # Dependents at rest

A dependent is at rest when the next pass will find nothing to do about it. Bringing it to its desired
state leaves it at rest, whatever it was before, and changes of other objects do not disturb it. -/

namespace OdooKeeper

namespace Dependent

variable {k : Kind} {d : Dependent k} {app : App} {s u : Store} {c : Converged k}

theorem withOwner_name (object : Object k) : (d.withOwner app object).name = object.name := by
  unfold withOwner
  split
  · exact Object.ensureOwner_name ..
  · rfl

theorem withOwner_content (object : Object k) :
    (d.withOwner app object).content = object.content := by
  unfold withOwner
  split
  · exact Object.ensureOwner_content ..
  · rfl

theorem withOwner_metadata (object : Object k) : (d.withOwner app object).metadata =
    { object.metadata with
      ownerReferences := (d.withOwner app object).metadata.ownerReferences } := by
  unfold withOwner
  split
  · exact Object.ensureOwner_metadata object app
  · rfl

theorem withOwner_version (object : Object k) :
    (d.withOwner app object).metadata.resourceVersion = object.metadata.resourceVersion := by
  rw [withOwner_metadata]

/-! ## What converging comes to -/

/-- The object as it is to be written, apart from its owner. -/
def next (d : Dependent k) (live : Option (Object k)) (desired : Object k) : Object k :=
  match live with
  | none => desired
  | some live => d.merge live desired

def place (d : Dependent k) (app : App) : ObjectKey := ⟨app.space, d.name app⟩

/-- What bringing a dependent to its desired state comes to when it succeeds. -/
inductive Comes (d : Dependent k) (app : App) (s : Store) (c : Converged k) (u : Store) : Prop where
  | left (desired : Object k) (found : s.objects.get? k (d.place app) = some c.object)
      (reads : (d.desired app (some c.object)).Gives (s.recording (.get k app.space (d.name app)))
        desired u)
      (rests : (d.createOnly || !d.needsWrite app c.object desired) = true)
  | written (live : Option (Object k)) (desired : Object k) (s' : Store) (r : Request)
      (found : s.objects.get? k (d.place app) = live)
      (reads : (d.desired app live).Gives (s.recording (.get k app.space (d.name app))) desired s')
      (changes : r.changes? = some k) (after : u = (s'.serve r).2)
      (accepted : ∀ object ∈ live, ∃ old,
        s'.objects.get? k ⟨app.space, (d.next live desired).name⟩ = some old ∧
          Store.isStale (d.withOwner app (d.next live desired)).metadata old.metadata = false)
      (content : c.object.content = (d.next live desired).content)
      (owners : c.object.metadata.owners =
        (d.withOwner app (d.next live desired)).metadata.owners)
      (stored : ∀ key, u.objects.get? k key =
        if key = ⟨app.space, (d.next live desired).name⟩ then some c.object
        else s'.objects.get? k key)

theorem converge_comes (h : (d.converge app).Gives s c u) : d.Comes app s c u := by
  unfold converge at h
  obtain ⟨live, s₀, hget, hrest⟩ := Attempt.gives_bind.mp h
  obtain ⟨desired, s', hdesired, hwrite⟩ := Attempt.gives_bind.mp hrest
  obtain ⟨hfound, rfl⟩ := Attempt.gives_request hget
  rw [Store.serve_reading s rfl] at hdesired
  have hlive := Store.serve_get_ok hfound
  cases live with
  | none =>
    obtain ⟨object, v, hcreate, hdone⟩ := Attempt.gives_bind.mp hwrite
    obtain ⟨rfl, rfl⟩ := Attempt.gives_pure.mp hdone
    obtain ⟨hserve, rfl⟩ := Attempt.gives_request hcreate
    obtain ⟨hobject, hstored⟩ := Store.serve_create_ok hserve
    refine .written none desired s' _ hlive hdesired rfl rfl (by simp) ?_ ?_ ?_
    · rw [hobject]
      exact d.withOwner_content desired
    · rw [hobject]
      rfl
    · rw [withOwner_name] at hstored
      exact hstored
  | some live =>
    simp only at hwrite
    split at hwrite
    · rename_i hrests
      obtain ⟨rfl, rfl⟩ := Attempt.gives_pure.mp hwrite
      exact .left desired hlive hdesired hrests
    · obtain ⟨object, v, hreplace, hdone⟩ := Attempt.gives_bind.mp hwrite
      obtain ⟨rfl, rfl⟩ := Attempt.gives_pure.mp hdone
      obtain ⟨hserve, rfl⟩ := Attempt.gives_request hreplace
      obtain ⟨old, hold, hstale, hcontent, hmetadata, hstored⟩ := Store.serve_replace_ok hserve
      refine .written (some live) desired s' _ hlive hdesired rfl rfl ?_ ?_ ?_ ?_
      · rintro _ ⟨⟩
        rw [withOwner_name] at hold
        exact ⟨old, hold, hstale⟩
      · exact hcontent.trans (d.withOwner_content _)
      · change object.metadata.owners = _
        rw [hmetadata]
        rfl
      · rw [withOwner_name] at hstored
        exact hstored

end Dependent

/-! ## What is written does not drift -/

section Settles

open Dependent

variable {app : App} {s s' u : Store}

/-- An object with the content that a dependent wrote has not drifted from what it should be. -/
def Dependent.Settles {k : Kind} (d : Dependent k) (app : App) (u : Store) (object : Object k) :
    Prop :=
  ∃ desired, (d.desired app (some object)).Idles u desired ∧
    (d.createOnly || !d.drifted object desired) = true

theorem adminSecret_password {fresh : String} {live : Option Secret} {desired object : Secret}
    (reads : ((adminSecret fresh).desired app live).Gives s desired s')
    (content : object.content = ((adminSecret fresh).next live desired).content) :
    hasAdminPassword object = true := by
  unfold hasAdminPassword
  rw [content]
  cases live with
  | none =>
    obtain ⟨rfl, -⟩ := Attempt.gives_pure.mp reads
    simp [next, App.adminSecret, OrdMap.contains]
  | some live =>
    obtain ⟨rfl, -⟩ := Attempt.gives_pure.mp reads
    simp only [next, adminSecret, Option.getD_some]
    split
    · assumption
    · simp [OrdMap.contains]

theorem adminSecret_settles {fresh : String} {live : Option Secret} {desired object : Secret}
    (reads : ((adminSecret fresh).desired app live).Gives s desired s')
    (content : object.content = ((adminSecret fresh).next live desired).content) :
    (adminSecret fresh).Settles app u object := by
  refine ⟨_, Attempt.idles_pure _ u, ?_⟩
  simp [adminSecret, adminSecret_password reads content]

theorem configSecret_settles {password : String} {live : Option Secret} {desired object : Secret}
    (reads : ((configSecret password).desired app live).Gives s desired s')
    (content : object.content = ((configSecret password).next live desired).content)
    (halike : Attempt.AlikeFor app s u) : (configSecret password).Settles app u object := by
  have hdata : object.content.data = desired.content.data := by
    rw [content]
    cases live <;> rfl
  obtain ⟨db, v, hresolve, hpure⟩ := Attempt.gives_bind.mp reads
  obtain ⟨rfl, rfl⟩ := Attempt.gives_pure.mp hpure
  refine ⟨_, (hresolve.idles (Connection.resolve_asks app) halike).bind (Attempt.idles_pure _ u), ?_⟩
  simp [configSecret, hdata]

theorem filestore_settles (object : Claim) : filestore.Settles app u object := by
  refine ⟨app.filestoreClaim, ?_, rfl⟩
  have hdesired : filestore.desired app (some object) = pure app.filestoreClaim := by
    simp [filestore]
  rw [hdesired]
  exact Attempt.idles_pure _ u

theorem specJson_covers_self {α : Type} {write : α → Json} (h : ∀ a, (write a).Tidy) (spec : Option α) :
    (specJson write spec).covers (specJson write spec) = true := by
  cases spec with
  | none => rfl
  | some spec => exact (h spec).covers_self

theorem deployment_undrifted {object desired : Deployment}
    (h : object.content.spec = desired.content.spec) : deployment.drifted object desired = false := by
  simp only [deployment, h, specJson_covers_self Deployment.Spec.tidy, Bool.not_true]

theorem deployment_settles {live : Option Deployment} {desired object : Deployment}
    (reads : (deployment.desired app live).Gives s desired s')
    (content : object.content = (deployment.next live desired).content) :
    deployment.Settles app u object := by
  obtain ⟨rfl, -⟩ := Attempt.gives_pure.mp reads
  have hspec : object.content.spec = app.deployment.content.spec := by
    rw [content]
    cases live <;> rfl
  refine ⟨_, Attempt.idles_pure _ u, ?_⟩
  rw [deployment_undrifted hspec, Bool.not_false, Bool.or_true]

theorem desiredService_spec (part : ServicePart) (app : App) :
    ∃ fresh, ∀ live, (desiredService part app live).content.spec =
      some (((live.bind fun l => l.content.spec).map (keepAddresses fresh)).getD fresh) := by
  cases part with
  | http =>
    refine ⟨app.httpService.content.spec.getD {}, fun live => ?_⟩
    cases hspec : live.bind fun l => l.content.spec <;> simp [desiredService, hspec] <;> rfl
  | poll =>
    refine ⟨app.pollService.content.spec.getD {}, fun live => ?_⟩
    cases hspec : live.bind fun l => l.content.spec <;> simp [desiredService, hspec] <;> rfl

theorem service_undrifted {part : ServicePart} {object desired : Service}
    (h : object.content.spec = desired.content.spec) :
    (service part).drifted object desired = false := by
  simp only [service, h, specJson_covers_self Service.Spec.tidy, Bool.not_true]

theorem service_settles {part : ServicePart} {live : Option Service} {desired object : Service}
    (reads : ((service part).desired app live).Gives s desired s')
    (content : object.content = ((service part).next live desired).content) :
    (service part).Settles app u object := by
  obtain ⟨rfl, -⟩ := Attempt.gives_pure.mp reads
  obtain ⟨fresh, hfresh⟩ := desiredService_spec part app
  have hspec : object.content.spec = (desiredService part app live).content.spec := by
    rw [content]
    cases live <;> rfl
  have hagain : object.content.spec = (desiredService part app (some object)).content.spec := by
    rw [hfresh, Option.bind_some, hspec, hfresh]
    cases live.bind fun l => l.content.spec <;> rfl
  refine ⟨_, Attempt.idles_pure _ u, ?_⟩
  rw [service_undrifted hagain, Bool.not_false, Bool.or_true]

end Settles

/-! ## Rest -/

theorem Store.Stays.wellFormed {s t : Store} (h : s.Stays t) (hs : s.WellFormed) : t.WellFormed := by
  obtain ⟨calls, -, rfl⟩ := h
  exact ⟨hs.fits, hs.distinct⟩

theorem Attempt.Gives.wellFormed {α : Type} {x : Attempt α} {s t : Store} {a : α}
    (h : x.Gives s a t) (hs : s.WellFormed) : t.WellFormed := by
  obtain ⟨log, hexecutes⟩ := h.executes
  exact hexecutes.wellFormed_alone hs

namespace Step

variable {step : Step} {app : App} {s t u : Store} {c : Converged step.kind}
  {live : Object step.kind}

def place (step : Step) (app : App) : Kind × ObjectKey := (step.kind, step.dependent.place app)

/-- The object of a step is there, and there is nothing to do about it. -/
structure Rests (step : Step) (s : Store) (app : App) (live : Object step.kind) : Prop where
  stored : s.objects.get? step.kind (step.dependent.place app) = some live
  settled : ∃ desired, (step.dependent.desired app (some live)).Idles s desired ∧
    (step.dependent.createOnly || !step.dependent.needsWrite app live desired) = true

theorem kind_mem (step : Step) : step.kind ∈ [Kind.secret, .claim, .deployment, .service] := by
  cases step <;> simp

theorem desired_named (step : Step) (app : App) :
    (step.dependent.desired app none).Asks (fun _ => True)
      fun desired => desired.name = step.dependent.name app := by
  cases step with
  | adminSecret fresh => exact Attempt.asks_pure rfl
  | configSecret password =>
    exact Attempt.asks_bind (((Connection.resolve_asks app).allow fun _ _ => trivial).mono
      fun db _ => Attempt.asks_pure rfl)
  | filestore =>
    change (ite _ _ _ : Attempt _).Asks _ _
    split
    · exact Attempt.asks_throw _
    · exact Attempt.asks_pure rfl
  | deployment => exact Attempt.asks_pure rfl
  | service part => cases part <;> exact Attempt.asks_pure rfl

theorem next_keeps (step : Step) (app : App) (live : Object step.kind) :
    (step.dependent.desired app (some live)).Asks (fun _ => True) fun desired =>
      (step.dependent.next (some live) desired).name = live.name ∧
        (step.dependent.next (some live) desired).metadata.resourceVersion =
          live.metadata.resourceVersion := by
  have hdesired := (step.desired_asks app (some live)).allow fun _ _ => trivial
  cases step with
  | adminSecret fresh => exact Attempt.asks_pure ⟨rfl, rfl⟩
  | configSecret password => exact hdesired.mono fun _ _ => ⟨rfl, rfl⟩
  | filestore => exact hdesired.mono fun _ _ => ⟨rfl, rfl⟩
  | deployment => exact hdesired.mono fun _ _ => ⟨rfl, rfl⟩
  | service part => exact hdesired.mono fun _ _ => ⟨rfl, rfl⟩

theorem desired_name {desired : Object step.kind}
    (reads : (step.dependent.desired app none).Gives s desired t) :
    desired.name = step.dependent.name app := by
  obtain ⟨log, hexecutes⟩ := reads.executes
  exact (hexecutes.asked (step.desired_named app)).2 desired rfl

theorem next_version {desired : Object step.kind}
    (reads : (step.dependent.desired app (some live)).Gives s desired t) :
    (step.dependent.next (some live) desired).metadata.resourceVersion =
      live.metadata.resourceVersion := by
  obtain ⟨log, hexecutes⟩ := reads.executes
  exact ((hexecutes.asked (step.next_keeps app live)).2 desired rfl).2

/-- What is written is written where the object was looked for, whatever name the object has that was
found there. -/
theorem next_name {found : Option (Object step.kind)} {desired : Object step.kind}
    (reads : (step.dependent.desired app found).Gives s desired t) (ht : t.WellFormed)
    (hfound : t.objects.get? step.kind (step.dependent.place app) = found)
    (accepted : ∀ object ∈ found, ∃ old,
      t.objects.get? step.kind ⟨app.space, (step.dependent.next found desired).name⟩ = some old ∧
        Store.isStale (step.dependent.withOwner app (step.dependent.next found desired)).metadata
          old.metadata = false) :
    (step.dependent.next found desired).name = step.dependent.name app := by
  cases found with
  | none => exact desired_name reads
  | some live =>
    obtain ⟨old, hold, hstale⟩ := accepted live rfl
    have hplace := ht.accepted_key hfound hold
      ((Dependent.withOwner_version _).trans (next_version reads)) hstale
    exact congrArg ObjectKey.name hplace

theorem desired_stays {found : Option (Object step.kind)} {desired : Object step.kind}
    (reads : (step.dependent.desired app found).Gives
      (s.recording (.get step.kind app.space (step.dependent.name app))) desired t) : s.Stays t := by
  exact (Store.stays_recording rfl).trans
    (reads.stays ((step.desired_asks app found).allow fun _ hr => hr.changes?))

theorem settles {found : Option (Object step.kind)} {desired object : Object step.kind}
    (reads : (step.dependent.desired app found).Gives s desired t)
    (content : object.content = (step.dependent.next found desired).content)
    (outside : s.SameOutside [step.place app] u)
    (hrefs : ∀ ref ∈ app.secretRefs, ref.name ≠ app.configSecretName) :
    step.dependent.Settles app u object := by
  cases step with
  | adminSecret fresh => exact adminSecret_settles reads content
  | configSecret password =>
    refine configSecret_settles reads content (outside.alikeFor fun ref href hplace => ?_)
    have hkey := congrArg (fun place => place.2.name) (List.mem_singleton.mp hplace)
    exact hrefs ref href hkey
  | filestore => exact filestore_settles object
  | deployment => exact deployment_settles reads content
  | service part => exact service_settles reads content

section Converge

variable (h : (step.dependent.converge app).Gives s c u) (hs : s.WellFormed)
include h hs

theorem converge_writes : u.objects = s.objects ∨ ∃ desired s',
    (step.dependent.desired app (s.objects.get? step.kind (step.dependent.place app))).Gives
      (s.recording (.get step.kind app.space (step.dependent.name app))) desired s' ∧
    c.object.content = (step.dependent.next
      (s.objects.get? step.kind (step.dependent.place app)) desired).content ∧
    ∀ key, u.objects.get? step.kind key =
      if key = step.dependent.place app then some c.object else s.objects.get? step.kind key := by
  cases Dependent.converge_comes h with
  | left desired found reads rests => exact .inl (desired_stays reads).objects
  | written live desired s' r found reads changes after accepted content owners stored =>
    subst found
    have hreads := desired_stays reads
    have hplace := next_name reads (hreads.wellFormed hs) (by rw [hreads.objects]) accepted
    refine .inr ⟨desired, s', reads, content, fun key => ?_⟩
    rw [stored, hplace, hreads.objects]
    rfl

theorem converge_stored :
    u.objects.get? step.kind (step.dependent.place app) = some c.object := by
  cases Dependent.converge_comes h with
  | left desired found reads rests =>
    rw [(desired_stays reads).objects]
    exact found
  | written live desired s' r found reads changes after accepted content owners stored =>
    have hreads := desired_stays reads
    have hplace := next_name reads (hreads.wellFormed hs) (hreads.objects ▸ found) accepted
    rw [stored, hplace]
    exact if_pos rfl

theorem converge_outside : s.SameOutside [step.place app] u := by
  cases Dependent.converge_comes h with
  | left desired found reads rests =>
    exact .of_stays (desired_stays reads) _
  | written live desired s' r found reads changes after accepted content owners stored =>
    have hreads := desired_stays reads
    have hplace := next_name reads (hreads.wellFormed hs) (hreads.objects ▸ found) accepted
    have hserve : s'.SameOutside [step.place app] u := by
      subst after
      refine .serve changes fun key hkey => ?_
      rw [stored, hplace]
      exact if_neg hkey
    exact (Store.SameOutside.of_stays hreads []).trans hserve

/-- Whatever it was before, the object is at rest afterwards. -/
theorem converge_rests (hname : app.metadata.name.isSome) (huid : app.metadata.uid.isSome)
    (hrefs : ∀ ref ∈ app.secretRefs, ref.name ≠ app.configSecretName) :
    step.Rests u app c.object := by
  have houtside := converge_outside h hs
  cases Dependent.converge_comes h with
  | left desired found reads rests =>
    -- Nothing has changed, so all is read again as it was.
    have hreads := desired_stays reads
    refine ⟨?_, desired, reads.idles (step.desired_asks app _) ⟨hreads.refusals, ?_⟩, rests⟩
    · rw [hreads.objects]
      exact found
    · intro ref _
      rw [hreads.objects, Store.recording_objects]
  | written live desired s' r found reads changes after accepted content owners stored =>
    have hreads := desired_stays reads
    have hplace := next_name reads (hreads.wellFormed hs) (hreads.objects ▸ found) accepted
    obtain ⟨desired', hidles, hdrifted⟩ := settles reads content houtside hrefs
    refine ⟨?_, desired', hidles, ?_⟩
    · rw [stored, hplace]
      exact if_pos rfl
    · have hcontrolled : (step.dependent.owned app && !c.object.isControlledBy app) = false := by
        rw [Object.isControlledBy_congr owners, Dependent.withOwner]
        split
        · rw [Object.isControlledBy_ensureOwner _ hname huid, Bool.not_true, Bool.and_false]
        · rename_i howned
          rw [Bool.not_eq_true] at howned
          rw [howned, Bool.false_and]
      rw [Dependent.needsWrite, hcontrolled, Bool.false_or]
      exact hdrifted

end Converge

namespace Rests

theorem elsewhere {places : List (Kind × ObjectKey)} (h : step.Rests s app live)
    (hsame : s.SameOutside places t) (hplace : step.place app ∉ places)
    (hrefs : ∀ ref ∈ app.secretRefs, (Kind.secret, ⟨app.space, ref.name⟩) ∉ places) :
    step.Rests t app live := by
  obtain ⟨hstored, desired, hidles, hrests⟩ := h
  obtain ⟨u, hgives, -⟩ := hidles s (.refl s)
  refine ⟨?_, desired, ?_, hrests⟩
  · rw [hsame.2 _ _ step.kind_mem hplace]
    exact hstored
  · exact hgives.idles (step.desired_asks app _) (hsame.alikeFor hrefs)

theorem converge_idles (h : step.Rests s app live) (hgranted : s.refusals = []) :
    (step.dependent.converge app).Idles s ⟨live, .unchanged⟩ := by
  obtain ⟨hstored, desired, hidles, hrests⟩ := h
  have hget := Attempt.idles_get step.dependent.role step.kind app.space (step.dependent.name app)
    hgranted
  unfold Dependent.place at hstored
  rw [hstored] at hget
  unfold Dependent.converge
  refine hget.bind (hidles.bind ?_)
  simp only [hrests, if_true]
  exact Attempt.idles_pure _ s

theorem under {version : Option String} {status : Option App.Status} (h : step.Rests s app live) :
    step.Rests s (app.under version status) live := by
  cases step with
  | service part => cases part <;> exact ⟨h.stored, h.settled⟩
  | _ => exact ⟨h.stored, h.settled⟩

theorem refresh {fresh fresh' : String} {live : Secret} (h : (adminSecret fresh).Rests s app live) :
    (adminSecret fresh').Rests s app live := by
  obtain ⟨hstored, desired, -, hrests⟩ := h
  exact ⟨hstored, _, Attempt.idles_pure _ s, hrests⟩

end Rests

end Step

end OdooKeeper
