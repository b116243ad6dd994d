import OdooKeeper.Proofs.Lockstep
import OdooKeeper.Proofs.Resting
import OdooKeeper.Proofs.Stages
import OdooKeeper.Proofs.Undisturbed

/-! # Passes side by side

One pass over an app on each of two stores that look alike. What the pass looks at is the app, its
dependents, its job with the pods of that, and the secrets that it refers to. -/

namespace OdooKeeper

variable {s t : Store} {v : View} {app : App}

/-! ## Dependents -/

namespace Dependent

variable {k : Kind} {d : Dependent k} {key : ObjectKey}

theorem withOwner_resembles (d : Dependent k) (app : App) {object object' : Object k}
    (h : v.Resembles key object object') :
    v.Resembles key (d.withOwner app object) (d.withOwner app object') := by
  refine ⟨?_, ?_⟩
  · have howners := h.metadata.owners_eq
    unfold withOwner Object.ensureOwner
    split
    · split
      · exact h.metadata
      · refine ⟨?_, h.metadata.uid⟩
        simp only [howners]
        rw [h.metadata.rest]
    · exact h.metadata
  · rw [withOwner_content, withOwner_content]
    exact h.content

/-- What follows when it is known how the object should be. -/
def settle (d : Dependent k) (app : App) (desired : Object k) :
    Option (Object k) → Attempt (Converged k)
  | none => do
    let object ← Attempt.request d.role .create (d.name app)
      (Program.create app.space (d.withOwner app desired))
    pure ⟨object, .created⟩
  | some live =>
    if d.createOnly || !d.needsWrite app live desired then pure ⟨live, .unchanged⟩
    else do
      let object ← Attempt.request d.role .update (d.name app)
        (Program.replace app.space (d.withOwner app (d.merge live desired)))
      pure ⟨object, .updated⟩

theorem converge_eq_settle (d : Dependent k) (app : App) : d.converge app = (do
    let live ← Attempt.request d.role .get (d.name app) (Program.get k app.space (d.name app))
    let desired ← d.desired app live
    d.settle app desired live) := by
  unfold converge
  refine bind_congr fun live => bind_congr fun desired => ?_
  cases live <;> rfl

section Settle

variable {live desired object : Object k} {u w : Store} {c : Converged k}

theorem settle_left (h : (d.createOnly || !d.needsWrite app live desired) = true) :
    d.settle app desired (some live) = pure ⟨live, .unchanged⟩ := if_pos h

theorem settle_replaced (h : ¬ (d.createOnly || !d.needsWrite app live desired) = true)
    (hserve : (s.serve (.replace k app.space (d.withOwner app (d.merge live desired)))).1 =
      .ok object) :
    (d.settle app desired (some live)).Gives s ⟨object, .updated⟩
      (s.serve (.replace k app.space (d.withOwner app (d.merge live desired)))).2 := by
  have hsettle : d.settle app desired (some live) = _ := if_neg h
  rw [hsettle]
  exact Attempt.gives_bind.mpr
    ⟨_, _, Attempt.request_gives hserve, Attempt.gives_pure.mpr ⟨rfl, rfl⟩⟩

theorem converge_gives (hread : ¬ s.Refuses (.get k app.space (d.name app)))
    (hdesired : (d.desired app (s.objects.get? k (d.place app))).Gives
      (s.recording (.get k app.space (d.name app))) desired u)
    (hsettle : (d.settle app desired (s.objects.get? k (d.place app))).Gives u c w) :
    (d.converge app).Gives s c w := by
  rw [converge_eq_settle]
  exact Attempt.gives_bind.mpr
    ⟨_, _, Attempt.get_granted hread d.role, Attempt.gives_bind.mpr ⟨_, _, hdesired, hsettle⟩⟩

end Settle

/-- The desired states of two objects that look alike look alike: what is created is the same, and
what takes the place of an object does so for both. -/
structure Matches (d : Dependent k) (v : View) (app : App) (live live' : Option (Object k))
    (desired desired' : Object k) : Prop where
  created : live = none → desired' = desired
  needs : ∀ object ∈ live, ∀ object' ∈ live',
    (d.createOnly || !d.needsWrite app object' desired') =
      (d.createOnly || !d.needsWrite app object desired)
  merged : ∀ object ∈ live, ∀ object' ∈ live',
    v.Resembles (d.place app) (d.merge object desired) (d.merge object' desired')

/-- The dependent is worked out alike from objects that look alike. -/
def Even (d : Dependent k) (v : View) (app : App) : Prop :=
  ∀ s t live live', v.Alike s t → Option.Rel (v.Resembles (d.place app)) live live' →
    (d.desired app live).Pairs v.Alike (d.desired app live') s t fun desired desired' s' t' =>
      d.Matches v app live live' desired desired' ∧ v.Alike s' t'

end Dependent

structure View.Takes (v : View) (k : Kind) (key : ObjectKey) : Prop where
  covers : v.covers k key
  writes : v.writes k key

namespace Step

/-- What is worked out for an object bears its name and its version. -/
def Continues (d : Step) (app : App) (live : Option (Object d.kind)) (desired : Object d.kind) :
    Prop :=
  (live = none → desired.name = d.dependent.name app) ∧
    ∀ object ∈ live, (d.dependent.next (some object) desired).name = object.name ∧
      (d.dependent.next (some object) desired).metadata.resourceVersion =
        object.metadata.resourceVersion

theorem desired_gives (d : Step) {live : Option (Object d.kind)} {desired : Object d.kind}
    (h : (d.dependent.desired app live).Gives s desired t) :
    t.objects = s.objects ∧ d.Continues app live desired := by
  have hreads := (d.desired_asks app live).allow fun _ hr => Request.Refers.changes? hr
  refine ⟨(h.stays hreads).objects, ?_, ?_⟩
  · rintro rfl
    exact desired_name h
  · rintro object rfl
    obtain ⟨log, hexecutes⟩ := h.executes
    exact (hexecutes.asked (d.next_keeps app object)).2 desired rfl

theorem settle_pairs (d : Step) (hplace : v.Takes d.kind (d.dependent.place app)) (h : v.Alike s t)
    {desired desired' : Object d.kind}
    (hmatches : d.dependent.Matches v app (s.objects.get? d.kind (d.dependent.place app))
      (t.objects.get? d.kind (d.dependent.place app)) desired desired')
    (hnext : d.Continues app (s.objects.get? d.kind (d.dependent.place app)) desired)
    (hnext' : d.Continues app (t.objects.get? d.kind (d.dependent.place app)) desired') :
    (d.dependent.settle app desired (s.objects.get? d.kind (d.dependent.place app))).Pairs v.Alike
      (d.dependent.settle app desired' (t.objects.get? d.kind (d.dependent.place app))) s t
      fun c c' s' t' => v.Resembles (d.dependent.place app) c.object c'.object ∧ v.Alike s' t' := by
  have hpod : d.kind ≠ .pod := by cases d <;> simp
  have hat := h.objects d.kind _ hpod hplace.covers
  generalize hlive : s.objects.get? d.kind (d.dependent.place app) = live at *
  generalize hlive' : t.objects.get? d.kind (d.dependent.place app) = live' at *
  cases hat with
  | none =>
    rw [hmatches.created rfl]
    have hkey : d.dependent.place app = ⟨app.space, (d.dependent.withOwner app desired).name⟩ := by
      rw [Dependent.withOwner_name, hnext.1 rfl]
      rfl
    have hcover := hplace.covers
    rw [hkey] at hcover hlive ⊢
    exact (h.pairs_create hpod hcover hlive).bind fun _ _ _ _ hstored => Attempt.pairs_pure hstored
  | @some object object' hsame =>
    have hneeds := hmatches.needs object rfl object' rfl
    have hsent := d.dependent.withOwner_resembles app (hmatches.merged object rfl object' rfl)
    obtain ⟨hname, hversion⟩ := hnext.2 object rfl
    obtain ⟨-, hversion'⟩ := hnext'.2 object' rfl
    unfold Dependent.settle
    simp only [hneeds]
    split
    · exact Attempt.pairs_pure ⟨hsame, h⟩
    · refine (h.pairs_replace hpod hplace.writes rfl hlive hlive' hsame.metadata
        ((Dependent.withOwner_name _).trans hname) ((Dependent.withOwner_version _).trans hversion)
        ((Dependent.withOwner_version _).trans hversion') hsent).bind ?_
      exact fun _ _ _ _ hstored => Attempt.pairs_pure hstored

theorem converge_pairs (d : Step) (heven : d.dependent.Even v app)
    (hplace : v.Takes d.kind (d.dependent.place app)) (h : v.Alike s t) :
    (d.dependent.converge app).Pairs v.Alike (d.dependent.converge app) s t fun c c' s' t' =>
      v.Resembles (d.dependent.place app) c.object c'.object ∧ v.Alike s' t' := by
  have hat := h.objects d.kind _ (by cases d <;> simp) hplace.covers
  have hloads := Attempt.get_gives h.granted d.dependent.role d.kind app.space (d.dependent.name app)
  have hloads' := Attempt.get_gives h.granted' d.dependent.role d.kind app.space (d.dependent.name app)
  rw [Dependent.converge_eq_settle]
  refine Attempt.pairs_bind (Attempt.pairs_of_gives hloads hloads' ?_)
  refine ((heven _ _ _ _ (h.recording _ _) hat).with
    (fun _ _ => d.desired_gives) fun _ _ => d.desired_gives).bind ?_
  rintro desired desired' s' t' ⟨⟨hmatches, h⟩, ⟨hobjects, hnext⟩, hobjects', hnext'⟩
  -- Working out what is desired has left the objects as they are.
  rw [Store.recording_objects] at hobjects hobjects'
  rw [← hobjects] at hmatches hnext ⊢
  rw [← hobjects'] at hmatches hnext' ⊢
  exact d.settle_pairs hplace h hmatches hnext hnext'

/-! ### What is worked out -/

theorem even_filestore : Step.filestore.dependent.Even v app := by
  intro s t live live' h hsame
  have hsome : live'.isNone = live.isNone := by cases hsame <;> rfl
  change Attempt.Pairs _ (ite _ _ _) (ite _ _ _) _ _ _
  simp only [hsome]
  split
  · exact Attempt.pairs_throw h
  · refine Attempt.pairs_pure ⟨⟨fun _ => rfl, fun _ _ _ _ => rfl, ?_⟩, h⟩
    rintro object rfl object' rfl
    exact Option.rel_some_some.mp hsame

theorem needsWrite_congr {d : Step} {object object' desired desired' : Object d.kind}
    (howners : object'.metadata.owners = object.metadata.owners)
    (hdrifted : d.dependent.drifted object' desired' = d.dependent.drifted object desired) :
    (d.dependent.createOnly || !d.dependent.needsWrite app object' desired') =
      (d.dependent.createOnly || !d.dependent.needsWrite app object desired) := by
  unfold Dependent.needsWrite
  rw [Object.isControlledBy_congr howners, hdrifted]

theorem even_deployment : Step.deployment.dependent.Even v app := by
  intro s t live live' h hsame
  refine Attempt.pairs_pure ⟨⟨fun _ => rfl, ?_, ?_⟩, h⟩
  · rintro object rfl object' rfl
    have hobject := Option.rel_some_some.mp hsame
    refine needsWrite_congr hobject.metadata.owners_eq ?_
    change (!Json.covers _ _) = !Json.covers _ _
    rw [hobject.content.eq (by simp)]
  · rintro object rfl object' rfl
    have hobject := Option.rel_some_some.mp hsame
    refine ⟨hobject.metadata, .of_eq ?_⟩
    exact congrArg (fun c : Deployment.Content => { c with spec := app.deployment.content.spec })
      (hobject.content.eq (by simp))

theorem even_service (part : Dependent.ServicePart) : (Step.service part).dependent.Even v app := by
  intro s t live live' h hsame
  have hdesired : Dependent.desiredService part app live' = Dependent.desiredService part app live := by
    cases hsame with
    | none => rfl
    | some hobject =>
      unfold Dependent.desiredService
      simp only [Option.bind_some, hobject.content.eq (by simp)]
  refine Attempt.pairs_pure ⟨⟨fun _ => hdesired, ?_, ?_⟩, h⟩
  · rintro object rfl object' rfl
    have hobject := Option.rel_some_some.mp hsame
    refine needsWrite_congr hobject.metadata.owners_eq ?_
    change (!Json.covers _ _) = !Json.covers _ _
    rw [hobject.content.eq (by simp), hdesired]
  · rintro object rfl object' rfl
    have hobject := Option.rel_some_some.mp hsame
    refine ⟨hobject.metadata, .of_eq ?_⟩
    rw [hdesired]
    exact congrArg (fun c : Service.Content =>
        { c with spec := (Dependent.desiredService part app (some object)).content.spec })
      (hobject.content.eq (by simp))

end Step

/-! ### Secrets -/

def Secret.Content.hasAdminPassword (content : Secret.Content) : Bool :=
  (content.data.getD ∅).contains adminPasswordKey

def Secret.Content.filled (content : Secret.Content) (fresh : String) : Secret.Content :=
  { content with
    data := some
      (if content.hasAdminPassword then content.data.getD ∅
        else (content.data.getD ∅).insert adminPasswordKey (Bytes.ofText fresh)) }

/-- Of the secret at a key, it is looked at whether it has an admin password. -/
structure View.Fills (v : View) (fresh : String) (key : ObjectKey) : Prop where
  has : ∀ content content', v.secrets key content content' →
    content'.hasAdminPassword = content.hasAdminPassword
  filled : ∀ content content', v.secrets key content content' →
    v.secrets key (content.filled fresh) (content'.filled fresh)

theorem View.Reads.fills {key : ObjectKey} (h : v.Reads key) (fresh : String) : v.Fills fresh key := by
  refine ⟨fun content content' hsame => ?_, fun content content' hsame => ?_⟩
  · rw [h.content _ _ hsame]
  · rw [h.content _ _ hsame]
    exact v.secrets_refl _ _

namespace Step

theorem even_adminSecret {fresh : String} (hfills : v.Fills fresh ⟨app.space, app.adminSecretName⟩) :
    (Step.adminSecret fresh).dependent.Even v app := by
  intro s t live live' h hsame
  cases hsame with
  | none => exact Attempt.pairs_pure ⟨⟨fun _ => rfl, by simp, by simp⟩, h⟩
  | @some object object' hobject =>
    refine Attempt.pairs_pure ⟨⟨by simp, ?_, ?_⟩, h⟩
    · rintro _ ⟨⟩ _ ⟨⟩
      refine needsWrite_congr hobject.metadata.owners_eq ?_
      exact congrArg not (hfills.has _ _ hobject.content)
    · rintro _ ⟨⟩ _ ⟨⟩
      exact ⟨hobject.metadata, hfills.filled _ _ hobject.content⟩

theorem even_configSecret {password : String} (hreads : v.Reads ⟨app.space, app.configSecretName⟩)
    (hrefs : ∀ ref ∈ app.secretRefs, v.Reads ⟨app.space, ref.name⟩) :
    (Step.configSecret password).dependent.Even v app := by
  intro s t live live' h hsame
  refine Attempt.Pairs.bind (h.resolve hrefs) ?_
  rintro _ db s' t' ⟨rfl, h⟩
  refine Attempt.pairs_pure ⟨⟨fun _ => rfl, ?_, ?_⟩, h⟩
  · rintro object rfl object' rfl
    have hobject := Option.rel_some_some.mp hsame
    refine needsWrite_congr hobject.metadata.owners_eq ?_
    change decide (object'.content.data ≠ _) = decide (object.content.data ≠ _)
    rw [hreads.content _ _ hobject.content]
  · rintro object rfl object' rfl
    have hobject := Option.rel_some_some.mp hsame
    refine ⟨hobject.metadata, ?_⟩
    change v.secrets _ { object.content with data := _, stringData := none }
      { object'.content with data := _, stringData := none }
    rw [hreads.content _ _ hobject.content]
    exact v.secrets_refl _ _

end Step

/-! ## Reports -/

namespace Report

/-- Two reports about an app that say the same. Both are out of date or neither is. -/
structure Twins (app : App) (r r' : Report) (s t : Store) : Prop where
  about : r.About app
  about' : r'.About app
  status : r'.status = r.status
  stale : ∀ old old', s.objects.get? .app app.key = some old →
    t.objects.get? .app app.key = some old' →
    Store.isStale r'.app.metadata old'.metadata = Store.isStale r.app.metadata old.metadata

variable {r r' : Report} {now : Timestamp}

namespace Twins

theorem start (hsame : t.objects.get? .app app.key = s.objects.get? .app app.key) :
    Twins app (Report.start app) (Report.start app) s t := by
  refine ⟨.start, .start, rfl, fun old old' hold hold' => ?_⟩
  rw [hsame, hold] at hold'
  cases hold'
  rfl

theorem of_table {s' t' : Store} (h : Twins app r r' s t)
    (hs : s'.objects.table .app = s.objects.table .app)
    (ht : t'.objects.table .app = t.objects.table .app) : Twins app r r' s' t' := by
  refine ⟨h.about, h.about', h.status, ?_⟩
  unfold Objects.get?
  rw [hs, ht]
  exact h.stale

theorem apply (h : Twins app r r' s t) (updates : List StatusUpdate) :
    Twins app (r.apply updates) (r'.apply updates) s t := by
  refine ⟨h.about, h.about', ?_, h.stale⟩
  change StatusUpdate.applyAll r'.status updates = StatusUpdate.applyAll r.status updates
  rw [h.status]

theorem setCondition (h : Twins app r r' s t) (type : ConditionType) (status : ConditionStatus)
    (reason message : String) : Twins app (r.setCondition now type status reason message)
      (r'.setCondition now type status reason message) s t := by
  refine ⟨h.about, h.about', ?_, h.stale⟩
  have hgeneration : r'.app.metadata.generation = r.app.metadata.generation := by
    obtain ⟨version, old, happ⟩ := h.about
    obtain ⟨version', old', happ'⟩ := h.about'
    rw [happ, happ']
    rfl
  unfold Report.setCondition
  simp only [h.status, hgeneration]

theorem setOutcome (h : Twins app r r' s t) (degraded : Bool) (reason message : String) :
    Twins app (r.setOutcome now degraded reason message)
      (r'.setOutcome now degraded reason message) s t :=
  (h.setCondition _ _ _ _).setCondition _ _ _ _

theorem moved (h : Twins app r r' s t) (outcome : Outcome) :
    Twins app (r.moved now outcome) (r'.moved now outcome) s t := by
  unfold Report.moved
  split
  · exact (h.apply _).setCondition _ _ _ _
  · exact h.apply _

theorem accepted (h : Twins app r r' s t) {stored stored' : App}
    (hs : (s.serve (.replaceStatus r.written)).1 = .ok stored)
    (ht : (t.serve (.replaceStatus r'.written)).1 = .ok stored') :
    Twins app (r.accepted stored) (r'.accepted stored')
      (s.serve (.replaceStatus r.written)).2 (t.serve (.replaceStatus r'.written)).2 := by
  refine ⟨h.about.accepted stored, h.about'.accepted stored', h.status, fun new new' hnew hnew' => ?_⟩
  obtain ⟨-, -, -, -, -, hget⟩ := Store.serve_status_ok hs
  obtain ⟨-, -, -, -, -, hget'⟩ := Store.serve_status_ok ht
  rw [hget, written_key, h.about.key, if_pos rfl] at hnew
  rw [hget', written_key, h.about'.key, if_pos rfl] at hnew'
  cases hnew
  cases hnew'
  -- Each report has the version that it has just been given.
  simp [Store.isStale, Report.accepted]

theorem refusal_eq (hr : Twins app r r' s t) (cause : StoreError) :
    r'.refusal cause = r.refusal cause := by
  have hname : r'.app.instanceName = r.app.instanceName :=
    congrArg ObjectKey.name (hr.about'.key.trans hr.about.key.symm)
  exact congrArg (fun name => Failure.store .app .updateStatus name cause) hname

end Twins

section Writing

variable (hcover : v.covers .app app.key)
include hcover

theorem Twins.write (hr : Twins app r r' s t) (h : v.Alike s t) :
    v.Alike (s.serve (.replaceStatus r.written)).2 (t.serve (.replaceStatus r'.written)).2 ∧
      ((∃ cause, (s.serve (.replaceStatus r.written)).1 = .error cause ∧
          (t.serve (.replaceStatus r'.written)).1 = .error cause) ∨
        ∃ stored stored', (s.serve (.replaceStatus r.written)).1 = .ok stored ∧
          (t.serve (.replaceStatus r'.written)).1 = .ok stored') := by
  have hkey : r.written.key = app.key := hr.about.key
  refine h.status ?_ (hr.about'.key.trans hr.about.key.symm) (congrArg some hr.status) ?_
  · rw [hkey]
    exact hcover
  · rw [hkey]
    exact hr.stale

theorem save_pairs (hr : Twins app r r' s t) (h : v.Alike s t) :
    r.save.Pairs v.Alike r'.save s t fun saved saved' s' t' =>
      saved.status = r.status ∧ Twins app saved saved' s' t' ∧ v.Alike s' t' := by
  unfold Attempt.Pairs
  rw [save_eq, save_eq]
  refine Program.pairs_bind (Program.pairs_ask ?_)
  obtain ⟨h, ⟨cause, hs, ht⟩ | ⟨stored, stored', hs, ht⟩⟩ := hr.write hcover h
  · rw [hs, ht]
    simp only [hr.refusal_eq]
    exact .error h
  · have haccepted := hr.accepted hs ht
    rw [hs, ht]
    exact .ok ⟨rfl, haccepted, h⟩

theorem abort_pairs {α β : Type} {post : α → β → Store → Store → Prop} (hr : Twins app r r' s t)
    (h : v.Alike s t) (role : Role) (failure : Failure) :
    Attempt.Pairs v.Alike (r.abort now role failure) (r'.abort now role failure) s t post := by
  have hfailed : Twins app (r.fail now role failure) (r'.fail now role failure) s t :=
    hr.setOutcome _ _ _
  unfold Attempt.Pairs
  rw [abort_eq, abort_eq]
  refine Program.pairs_bind (Program.pairs_ask ?_)
  obtain ⟨h, ⟨cause, hs, ht⟩ | ⟨stored, stored', hs, ht⟩⟩ := hfailed.write hcover h
  · rw [hs, ht]
    simp only [hfailed.refusal_eq]
    exact .error h
  · rw [hs, ht]
    exact .error h

end Writing

end Report

/-! ## Steps -/

/-- All that a pass over an app writes apart from secrets is looked at, with the pods of its job. -/
structure View.Serves (v : View) (app : App) : Prop where
  status : v.covers .app app.key
  claim : v.Takes .claim ⟨app.space, app.claimName⟩
  job : v.SeesJob app.initJobKey
  deployment : v.Takes .deployment ⟨app.space, app.deploymentName⟩
  service : ∀ part, v.Takes .service ((Step.service part).dependent.place app)

namespace Pass

variable {r r' : Report} {now : Timestamp} {settings : PassSettings}

theorem converge_table (d : Step) (app : App) (s : Store) :
    ((d.dependent.converge app).run.run s).2.objects.table .app = s.objects.table .app := by
  obtain ⟨log, hexecutes⟩ := Program.exists_executes_run (d.dependent.converge app).run s
  refine (hexecutes.table fun e he => ?_).2
  have hasks : (d.dependent.converge app).Asks (Request.Among [.secret, d.kind]) fun _ => True :=
    d.converge_asks (by simp) (by simp) app
  have hkind := (hexecutes.asked hasks).1 e he
  intro hchanges
  rw [Request.Among, Request.kind_of_changes? hchanges] at hkind
  cases d <;> simp at hkind

theorem track_table (poll : Nat) (app : App) (status : App.Status) (s : Store) :
    ((InitJob.track poll app status).run s).2.objects.table .app = s.objects.table .app := by
  obtain ⟨log, hexecutes⟩ := Program.exists_executes_run (InitJob.track poll app status) s
  refine (hexecutes.table fun e he => ?_).2
  exact ((hexecutes.asked (InitJob.track_asks poll app status)).1 e he).changes?_ne_app

section Steps

variable (hcover : v.covers .app app.key)
include hcover

theorem step_pairs (d d' : Step) (post : Object d.kind → Object d'.kind → Prop)
    (hrole : d'.dependent.role = d.dependent.role)
    (hrecorded : d'.dependent.recorded = d.dependent.recorded) (hr : Report.Twins app r r' s t)
    (hconverge : (d.dependent.converge app).Pairs v.Alike (d'.dependent.converge app) s t
      fun c c' s' t' => (c'.object.metadata.anyName = c.object.metadata.anyName ∧
        post c.object c'.object) ∧ v.Alike s' t') :
    (step now d.dependent r).Pairs v.Alike (step now d'.dependent r') s t fun out out' s' t' =>
      post out.1 out'.1 ∧ out.2.status.progress = r.status.progress ∧
        Report.Twins app out.2 out'.2 s' t' ∧ v.Alike s' t' := by
  unfold Attempt.Pairs step
  rw [ExceptT.run_mk, ExceptT.run_mk, hr.about.converge, hr.about'.converge]
  have hkept := hr.of_table (converge_table d app s) (converge_table d' app t)
  have hboth : (d.dependent.converge app).run.Pairs (d'.dependent.converge app).run s t
      fun c c' s' t' => Paired _ _ c c' s' t' ∧ Report.Twins app r r' s' t' := ⟨hconverge, hkept⟩
  refine hboth.bind ?_
  rintro _ _ s' t' ⟨hpaired, hr⟩
  cases hpaired with
  | error h =>
    simp only [hrole]
    exact Report.abort_pairs hcover hr h d.dependent.role _
  | @ok c c' _ _ hsame =>
    obtain ⟨⟨hname, hpost⟩, h⟩ := hsame
    simp only [hrecorded, hname]
    have happlied := hr.apply (d.dependent.recorded c.object.metadata.anyName).toList
    refine Program.Pairs.bind (Report.save_pairs hcover happlied h) ?_
    rintro _ _ s' t' hsaved
    cases hsaved with
    | error h => exact .error h
    | ok hsaved =>
      obtain ⟨hstatus, hr, h⟩ := hsaved
      refine .ok ⟨hpost, ?_, hr, h⟩
      rw [hstatus]
      exact d.recorded_progress r _

theorem jobStep_pairs (hr : Report.Twins app r r' s t) (hown : v.SeesJob app.initJobKey)
    (hrecorded : r.status.initJob.isIdle = false →
      v.SeesJob (InitJob.recordedKey app r.status.initJob)) (h : v.Alike s t) :
    (jobStep settings now r).Pairs v.Alike (jobStep settings now r') s t fun out out' s' t' =>
      out'.1 = out.1 ∧ Report.Twins app out.2 out'.2 s' t' ∧ v.Alike s' t' := by
  have htrack : (InitJob.track settings.requeueJobPoll r.app r.status).Pairs
      (InitJob.track settings.requeueJobPoll r'.app r'.status) s t v.Same := by
    obtain ⟨version, status, happ⟩ := hr.about
    obtain ⟨version', status', happ'⟩ := hr.about'
    rw [hr.status, happ, happ']
    exact h.track _ hown hrecorded
  have hkept := hr.of_table (track_table settings.requeueJobPoll r.app r.status s)
    (track_table settings.requeueJobPoll r'.app r'.status t)
  have hboth : (InitJob.track settings.requeueJobPoll r.app r.status).Pairs
      (InitJob.track settings.requeueJobPoll r'.app r'.status) s t fun outcome outcome' s' t' =>
        v.Same outcome outcome' s' t' ∧ Report.Twins app r r' s' t' := ⟨htrack, hkept⟩
  unfold Attempt.Pairs jobStep
  change (ExceptT.lift _ >>= _ : Attempt _).run.Pairs (ExceptT.lift _ >>= _ : Attempt _).run s t _
  rw [ExceptT.run_bind_lift, ExceptT.run_bind_lift]
  refine hboth.bind ?_
  rintro _ outcome s' t' ⟨⟨rfl, h⟩, hr⟩
  have hmoved : Report.Twins app (r.moved now outcome) (r'.moved now outcome) s' t' :=
    hr.moved outcome
  cases hfailure : outcome.failure with
  | some failure =>
    simp only
    exact Report.abort_pairs hcover hmoved h .initJob failure
  | none =>
    simp only
    refine (Report.save_pairs hcover hmoved h).bind ?_
    rintro r r' s' t' ⟨-, hr, h⟩
    exact Attempt.pairs_pure ⟨rfl, hr, h⟩

end Steps

/-! ## Passes -/

section Passes

variable (hv : v.Serves app)
include hv

theorem even_step_pairs {d : Step} (heven : d.dependent.Even v app)
    (hplace : v.Takes d.kind (d.dependent.place app)) (hr : Report.Twins app r r' s t) (h : v.Alike s t) :
    (step now d.dependent r).Pairs v.Alike (step now d.dependent r') s t fun out out' s' t' =>
      v.Resembles (d.dependent.place app) out.1 out'.1 ∧
        out.2.status.progress = r.status.progress ∧ Report.Twins app out.2 out'.2 s' t' ∧ v.Alike s' t' := by
  refine step_pairs hv.status d d _ rfl rfl hr ((d.converge_pairs heven hplace h).mono (fun _ _ => id) ?_)
  exact fun c c' s' t' hsame => ⟨⟨hsame.1.metadata.anyName_eq, hsame.1⟩, hsame.2⟩

theorem workload_pairs (requeue : Option Nat) (hr : Report.Twins app r r' s t) (h : v.Alike s t) :
    (workload now requeue r).Pairs v.Alike (workload now requeue r') s t v.Same := by
  unfold workload
  refine (even_step_pairs hv Step.even_deployment hv.deployment hr h).bind ?_
  rintro ⟨_, r⟩ ⟨_, r'⟩ s t ⟨-, -, hr, h⟩
  refine (even_step_pairs hv (Step.even_service .http) (hv.service .http) hr h).bind ?_
  rintro ⟨_, r⟩ ⟨_, r'⟩ s t ⟨-, -, hr, h⟩
  refine (even_step_pairs hv (Step.even_service .poll) (hv.service .poll) hr h).bind ?_
  rintro ⟨_, r⟩ ⟨_, r'⟩ s t ⟨-, -, hr, h⟩
  have hsucceeded : Report.Twins app (r.succeed now) (r'.succeed now) s t := hr.setOutcome _ _ _
  refine (Report.save_pairs hv.status hsucceeded h).bind ?_
  rintro _ _ s t ⟨-, -, h⟩
  exact Attempt.pairs_pure ⟨rfl, h⟩

theorem configured_pairs (hr : Report.Twins app r r' s t)
    (hrecorded : r.status.initJob.isIdle = false →
      v.SeesJob (InitJob.recordedKey app r.status.initJob)) (h : v.Alike s t) :
    (configured settings now r).Pairs v.Alike (configured settings now r') s t v.Same := by
  unfold configured
  refine (even_step_pairs hv Step.even_filestore hv.claim hr h).bind ?_
  rintro ⟨_, r₁⟩ ⟨_, r₁'⟩ s t ⟨-, hprogress, hr, h⟩
  have hrecord : r₁.status.initJob = r.status.initJob := congrArg Progress.initJob hprogress
  rw [← hrecord] at hrecorded
  refine (jobStep_pairs hv.status hr hv.job hrecorded h).bind ?_
  rintro ⟨requeue, r⟩ ⟨_, r'⟩ s t ⟨rfl, hr, h⟩
  simp only
  split
  · exact Attempt.pairs_pure ⟨rfl, h⟩
  · exact workload_pairs hv _ hr h

end Passes

end Pass

/-- All that a pass over an app reads or writes is looked at, with what its secrets say. -/
structure View.Knows (v : View) (app : App) : Prop extends v.Serves app where
  adminSecret : v.Takes .secret ⟨app.space, app.adminSecretName⟩
  configSecret : v.Takes .secret ⟨app.space, app.configSecretName⟩
  refs : ∀ ref ∈ app.secretRefs, v.covers .secret ⟨app.space, ref.name⟩
  contents : ∀ key content content', v.secrets key content content' → content' = content
  recorded : app.progress.initJob.isIdle = false →
    v.SeesJob (InitJob.recordedKey app app.progress.initJob)

namespace Pass

variable {now : Timestamp} {settings : PassSettings} {r r' : Report}

theorem administered_pairs (hv : v.Knows app) {secret secret' : Secret} {key : ObjectKey}
    (hsecret : v.Resembles key secret secret') (hr : Report.Twins app r r' s t)
    (hprogress : r.status.progress = app.progress) (h : v.Alike s t) :
    (administered settings now secret r).Pairs v.Alike (administered settings now secret' r') s t
      v.Same := by
  have hpassword : adminPassword secret' = adminPassword secret := by
    unfold adminPassword
    rw [hsecret.name_eq, hv.contents _ _ _ hsecret.content]
  unfold administered
  rw [hpassword]
  cases adminPassword secret with
  | error failure => exact Report.abort_pairs hv.status hr h .configSecret failure
  | ok password =>
    have heven : (Step.configSecret password).dependent.Even v app :=
      Step.even_configSecret ⟨hv.configSecret.covers, hv.contents _⟩
        fun ref href => ⟨hv.refs ref href, hv.contents _⟩
    refine (even_step_pairs hv.toServes heven hv.configSecret hr h).bind ?_
    rintro ⟨_, r₁⟩ ⟨_, r₁'⟩ s t ⟨-, hkept, hr, h⟩
    refine configured_pairs hv.toServes hr ?_ h
    have hrecord : r₁.status.initJob = app.progress.initJob :=
      congrArg Progress.initJob (hkept.trans hprogress)
    rw [hrecord]
    exact hv.recorded

/-- A pass comes to the same on two stores that look alike to it. -/
theorem converge_pairs (hv : v.Knows app) (fresh : String)
    (hsame : t.objects.get? .app app.key = s.objects.get? .app app.key) (h : v.Alike s t) :
    (converge settings now fresh app).Pairs v.Alike (converge settings now fresh app) s t v.Same := by
  have heven : (Step.adminSecret fresh).dependent.Even v app :=
    Step.even_adminSecret
      (View.Reads.fills ⟨hv.adminSecret.covers, hv.contents _⟩ fresh)
  rw [converge_eq_administered]
  refine (even_step_pairs hv.toServes heven hv.adminSecret (.start hsame) h).bind ?_
  rintro ⟨secret, r⟩ ⟨secret', r'⟩ s t ⟨hsecret, hprogress, hr, h⟩
  exact administered_pairs hv hsecret hr hprogress h

theorem reconcile_run {fresh : String} {place : ObjectKey} (hs : s.refusals = [])
    (hstored : s.objects.get? .app place = some app) :
    (reconcile settings now fresh place.ns place.name).run.run s =
      (converge settings now fresh app).run.run (s.recording (.get .app place.ns place.name)) := by
  have hloads := Attempt.get_gives hs .app .app place.ns place.name
  unfold reconcile
  rw [Attempt.run_bind_ok hloads, hstored]

end Pass

end OdooKeeper
