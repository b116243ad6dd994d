import OdooKeeper.Dependents
import OdooKeeper.Proofs.Alone

/-! # Bringing dependents to their desired state

A dependent is worked out from what is asked for, not from what is known: the status and the version
of the app have no part in it. Its requests leave the app and its job alone. -/

namespace OdooKeeper

/-! ## The app -/

def App.under (app : App) (version : Option String) (status : Option App.Status) : App :=
  { metadata := { app.metadata with resourceVersion := version }
    content := { app.content with status } }

section Under

variable {app : App} {version : Option String} {status : Option App.Status}

@[simp] theorem App.under_key : (app.under version status).key = app.key := rfl

@[simp] theorem App.under_spec : (app.under version status).content.spec = app.content.spec := rfl

theorem Step.converge_under (step : Step) :
    step.dependent.converge (app.under version status) = step.dependent.converge app := by
  cases step with
  | service part => cases part <;> rfl
  | _ => rfl

end Under

/-- The report is about an app, whatever its version and its status. -/
def Report.About (r : Report) (app : App) : Prop :=
  ∃ version status, r.app = app.under version status

namespace Report.About

variable {r : Report} {app : App}

theorem start : (Report.start app).About app := ⟨_, _, rfl⟩

theorem key (h : r.About app) : r.app.key = app.key := by
  obtain ⟨version, status, h⟩ := h
  rw [h, App.under_key]

theorem spec (h : r.About app) : r.app.content.spec = app.content.spec := by
  obtain ⟨version, status, h⟩ := h
  rw [h, App.under_spec]

theorem converge (h : r.About app) (step : Step) :
    step.dependent.converge r.app = step.dependent.converge app := by
  obtain ⟨version, status, h⟩ := h
  rw [h, step.converge_under]

theorem accepted (h : r.About app) (stored : App) : (r.accepted stored).About app := by
  obtain ⟨version, status, h⟩ := h
  exact ⟨stored.metadata.resourceVersion, some r.status, by rw [Report.accepted, Report.written, h]; rfl⟩

end Report.About

/-! ## Requests -/

def Request.Refers (app : App) (r : Request) : Prop :=
  ∃ ref ∈ app.secretRefs, r = .get .secret app.space ref.name

theorem Request.Refers.kind {app : App} {r : Request} (h : r.Refers app) :
    r.call.kind = .secret := by
  obtain ⟨ref, -, rfl⟩ := h
  rfl

theorem Request.Refers.changes? {app : App} {r : Request} (h : r.Refers app) :
    r.changes? = none := by
  obtain ⟨ref, -, rfl⟩ := h
  rfl

section Resolve

variable {allowed : Request → Prop}

theorem SecretRef.read_asks {ref : SecretRef} {ns : String}
    (h : allowed (.get .secret ns ref.name)) : (ref.read ns).Asks allowed fun _ => True := by
  refine Attempt.asks_bind (Attempt.asks_request h fun found => ?_)
  cases found with
  | none => exact Attempt.asks_throw _
  | some secret => exact Attempt.asks_ofExcept fun _ _ => trivial

theorem resolveValue_asks {α : Type} {form : ValueForm α} {ns : String} {literal : α}
    {ref : Option SecretRef}
    (h : ∀ set, setRef? ref = some set → allowed (.get .secret ns set.name)) :
    (resolveValue form ns literal ref).Asks allowed fun _ => True := by
  unfold resolveValue
  cases href : setRef? ref with
  | none => exact Attempt.asks_pure trivial
  | some set =>
    refine Attempt.asks_bind ((SecretRef.read_asks (h set href)).mono fun raw _ => ?_)
    cases form.parse raw with
    | none => exact Attempt.asks_throw _
    | some value => exact Attempt.asks_pure trivial

theorem resolvePassword_asks {ns : String} {db : DatabaseSettings}
    (h : ∀ set, setRef? db.passwordRef = some set → allowed (.get .secret ns set.name)) :
    (Connection.resolvePassword ns db).Asks allowed fun _ => True := by
  unfold Connection.resolvePassword
  cases href : setRef? db.passwordRef with
  | none =>
    cases givenText? db.password with
    | none => exact Attempt.asks_throw _
    | some literal => exact Attempt.asks_pure trivial
  | some set => exact SecretRef.read_asks (h set href)

theorem Connection.resolve_asks (app : App) :
    (Connection.resolve app).Asks (Request.Refers app) fun _ => True := by
  have refers : ∀ field set, setRef? (app.content.spec.database.ref? field) = some set →
      Request.Refers app (.get .secret app.space set.name) :=
    fun _ set hset => ⟨set, App.setRef?_mem hset, rfl⟩
  unfold Connection.resolve
  refine Attempt.asks_bind ((Attempt.asks_within (resolveValue_asks (refers .host))).mono
    fun host _ => ?_)
  refine Attempt.asks_bind ((Attempt.asks_within (resolveValue_asks (refers .port))).mono
    fun port _ => ?_)
  refine Attempt.asks_bind ((Attempt.asks_within (resolveValue_asks (refers .user))).mono
    fun user _ => ?_)
  refine Attempt.asks_bind ((Attempt.asks_within (resolvePassword_asks (refers .password))).mono
    fun password _ => ?_)
  refine Attempt.asks_bind ((Attempt.asks_within (resolveValue_asks (refers .name))).mono
    fun name _ => ?_)
  refine Attempt.asks_bind ((Attempt.asks_within (resolveValue_asks (refers .ssl))).mono
    fun ssl _ => ?_)
  refine Attempt.asks_bind ((Attempt.asks_within (resolveValue_asks (refers .maxConn))).mono
    fun maxConn _ => ?_)
  exact Attempt.asks_pure trivial

end Resolve

/-! ## Converging -/

namespace Step

section Asks

variable {kinds : List Kind}

theorem desired_asks (step : Step) (app : App) (live : Option (Object step.kind)) :
    (step.dependent.desired app live).Asks (Request.Refers app) fun _ => True := by
  cases step with
  | adminSecret fresh => cases live <;> exact Attempt.asks_pure trivial
  | configSecret adminPassword =>
    exact Attempt.asks_bind ((Connection.resolve_asks app).mono fun db _ => Attempt.asks_pure trivial)
  | filestore =>
    change (ite _ _ _ : Attempt _).Asks _ _
    split
    · exact Attempt.asks_throw _
    · exact Attempt.asks_pure trivial
  | deployment => exact Attempt.asks_pure trivial
  | service part => exact Attempt.asks_pure trivial

theorem converge_writes_asks {allowed : Request → Prop} (step : Step) (app : App)
    (hget : allowed (.get step.kind app.space (step.dependent.name app)))
    (hdesired : ∀ live, (step.dependent.desired app live).Asks allowed fun desired =>
      match (live : Option (Object step.kind)) with
      | none => allowed (.create step.kind app.space (step.dependent.withOwner app desired))
      | some live => allowed
          (.replace step.kind app.space
            (step.dependent.withOwner app (step.dependent.merge live desired)))) :
    (step.dependent.converge app).Asks allowed fun _ => True := by
  unfold Dependent.converge
  refine Attempt.asks_bind (Attempt.asks_request hget fun live => ?_)
  refine Attempt.asks_bind ((hdesired live).mono fun desired hwrite => ?_)
  cases live with
  | none => exact Attempt.asks_bind (Attempt.asks_request hwrite fun _ => Attempt.asks_pure trivial)
  | some live =>
    simp only
    split
    · exact Attempt.asks_pure trivial
    · exact Attempt.asks_bind (Attempt.asks_request hwrite fun _ => Attempt.asks_pure trivial)

theorem converge_requests {allowed : Request → Prop} (step : Step) (app : App)
    (hget : allowed (.get step.kind app.space (step.dependent.name app)))
    (hrefers : ∀ r : Request, r.Refers app → allowed r)
    (hwrite : ∀ r : Request, r.changes? = some step.kind → allowed r) :
    (step.dependent.converge app).Asks allowed fun _ => True := by
  refine step.converge_writes_asks app hget fun live => ?_
  refine ((step.desired_asks app live).allow hrefers).mono fun desired _ => ?_
  cases live with
  | none => exact hwrite _ rfl
  | some live => exact hwrite _ rfl

theorem converge_asks (step : Step) (hsecret : Kind.secret ∈ kinds) (hkind : step.kind ∈ kinds)
    (app : App) : (step.dependent.converge app).Asks (Request.Among kinds) fun _ => True := by
  refine step.converge_requests app hkind (fun r hr => ?_) fun r hr => ?_
  · rw [Request.Among, hr.kind]
    exact hsecret
  · rw [Request.Among, Request.kind_of_changes? hr]
    exact hkind

end Asks

theorem recorded_progress (step : Step) (r : Report) (name : String) :
    (r.apply (step.dependent.recorded name).toList).status.progress = r.status.progress := by
  cases step <;> rfl

end Step

end OdooKeeper
