import OdooKeeper.Proofs.Abreast
import OdooKeeper.Proofs.Resolving
import OdooKeeper.Proofs.Runs

/-! # What secrets say stays in secrets

A pass writes what secrets say into the config secret and nowhere else. Two stores that differ in the
values of secrets only are left the same apart from secrets, as long as the connection can be worked
out from both, or from neither for the same reason. -/

namespace OdooKeeper

variable {α β : Type} {s t u : Store} {app : App}

/-! ## The config secret -/

namespace Dependent

variable {k : Kind} {d : Dependent k} {object : Object k}

theorem settle_gives (hs : s.refusals = []) (hnames : s.Names k (d.place app)) {desired : Object k}
    (hname : (d.next (s.objects.get? k (d.place app)) desired).name = d.name app)
    (hversion : ∀ live, s.objects.get? k (d.place app) = some live →
      (d.merge live desired).metadata.resourceVersion = live.metadata.resourceVersion) :
    ∃ c t, (d.settle app desired (s.objects.get? k (d.place app))).Gives s c t ∧
      c.object.name = d.name app := by
  have hgranted := Store.not_refuses hs
  unfold place at *
  cases hlive : s.objects.get? k ⟨app.space, d.name app⟩ with
  | none =>
    rw [hlive] at hname
    have howned : (d.withOwner app desired).name = d.name app := (withOwner_name _).trans hname
    rw [← howned] at hlive
    obtain ⟨stored, hstored⟩ := Store.serve_create_granted hlive (hgranted _)
    refine ⟨⟨stored, .created⟩, _, Attempt.gives_bind.mpr
      ⟨stored, _, Attempt.request_gives hstored, Attempt.gives_pure.mpr ⟨rfl, rfl⟩⟩, ?_⟩
    rw [(Store.serve_create_ok hstored).1]
    exact howned
  | some live =>
    rw [hlive] at hname
    have howned : (d.withOwner app (d.merge live desired)).name = d.name app :=
      (withOwner_name _).trans hname
    have hsent : (d.withOwner app (d.merge live desired)).metadata.resourceVersion =
        live.metadata.resourceVersion := (withOwner_version _).trans (hversion live hlive)
    by_cases hrests : (d.createOnly || !d.needsWrite app live desired) = true
    · rw [settle_left hrests]
      exact ⟨⟨live, .unchanged⟩, s, Attempt.gives_pure.mpr ⟨rfl, rfl⟩, hnames live hlive⟩
    · rw [← howned] at hlive
      obtain ⟨stored, hstored⟩ := Store.serve_replace_granted hlive hsent (hgranted _)
      refine ⟨⟨stored, .updated⟩, _, settle_replaced hrests hstored, ?_⟩
      obtain ⟨old, -, -, -, hmetadata, -⟩ := Store.serve_replace_ok hstored
      rw [← howned, Object.name, hmetadata]
      rfl

end Dependent

theorem Object.metadata_name {k : Kind} {object : Object k} {name : String} (h : object.name = name)
    (hname : name ≠ "") : object.metadata.name = some name := by
  unfold Object.name at h
  cases hstored : object.metadata.name with
  | none =>
    rw [hstored] at h
    exact absurd h.symm hname
  | some stored =>
    rw [hstored] at h
    exact congrArg some h

theorem App.configSecretName_ne (app : App) : app.configSecretName ≠ "" := by
  unfold App.configSecretName
  simp [String.append_eq_empty_iff]

theorem Store.Names.gives {k : Kind} {key : ObjectKey} {x : Attempt α} {a : α}
    (h : s.Names k key) (hx : x.Gives s a t) : t.Names k key := by
  obtain ⟨log, hexecutes⟩ := Program.exists_executes_run x.run s
  have hnames := hexecutes.names h
  unfold Attempt.Gives at hx
  rwa [hx] at hnames

section ConfigSecret

variable (password : String) (hs : s.refusals = [])
include hs

theorem configSecret_fails {failure : Failure}
    (h : ((Connection.resolve app).run.run s).1 = .error failure) :
    (((Step.configSecret password).dependent.converge app).run.run s).1 = .error failure := by
  have hsame : Attempt.AlikeFor app s (s.recording (.get .secret app.space app.configSecretName)) :=
    ⟨rfl, fun _ _ => rfl⟩
  have halike := Program.Asks.run_alike (Connection.resolve_asks app) hsame
    fun _ _ r hr h => h.serve hr
  rw [Dependent.converge_eq_settle, Attempt.run_bind_ok (Attempt.get_gives hs ..)]
  exact Attempt.run_bind_error (Attempt.run_bind_error (halike.1.symm.trans h))

theorem configSecret_gives (hnames : s.Names .secret ⟨app.space, app.configSecretName⟩)
    {db : Connection}
    (h : (Connection.resolve app).Gives s db u) : ∃ c t,
    ((Step.configSecret password).dependent.converge app).Gives s c t ∧
      c.object.metadata.anyName = app.configSecretName := by
  let d := (Step.configSecret password).dependent
  let file := app.configSecret (ConfigFile.render db app.content.spec.config password)
  obtain ⟨w, hresolve, hstays⟩ := h.idles (Connection.resolve_asks app) ⟨rfl, fun _ _ => rfl⟩
    (s.recording (.get .secret app.space app.configSecretName)) (Store.stays_recording rfl)
  have hdesired : ∀ live, (d.desired app live).Gives
      (s.recording (.get .secret app.space app.configSecretName)) file w :=
    fun live => Attempt.gives_bind.mpr ⟨db, w, hresolve, Attempt.gives_pure.mpr ⟨rfl, rfl⟩⟩
  have hnames' : w.Names .secret (d.place app) := by
    unfold Store.Names
    rw [hstays.objects]
    exact hnames
  have hnext : (d.next (w.objects.get? .secret (d.place app)) file).name = d.name app := by
    cases hlive : w.objects.get? .secret (d.place app) with
    | none => rfl
    | some live => exact hnames' live hlive
  obtain ⟨c, t, hgives, hname⟩ :=
    Dependent.settle_gives (hstays.refusals.trans hs) hnames' hnext fun _ _ => rfl
  rw [hstays.objects] at hgives
  refine ⟨c, t, ?_, ?_⟩
  · exact Dependent.converge_gives (Store.not_refuses hs _) (hdesired _) hgives
  · unfold Metadata.anyName
    rw [Object.metadata_name hname app.configSecretName_ne]
    rfl

end ConfigSecret

/-! ## Views -/

/-- All but secrets is looked at. -/
def View.public : View where
  covers k _ := k ≠ .secret
  writes k _ := k ≠ .secret
  pods _ _ := True
  secrets _ _ _ := True
  secrets_refl _ _ := trivial

/-- All is looked at, but of secrets only whether they have an admin password. -/
def View.guarded : View where
  covers _ _ := True
  writes _ _ := True
  pods _ _ := True
  secrets _ content content' := content'.hasAdminPassword = content.hasAdminPassword
  secrets_refl _ _ := rfl

namespace View

theorem Alike.public (h : guarded.Alike s t) : View.public.Alike s t :=
  h.mono (fun _ _ _ => trivial) (fun _ _ _ hwrite => ⟨trivial, fun _ => hwrite⟩) (fun _ _ h => h)
    fun _ _ _ hcover => absurd rfl hcover

theorem serves_public (app : App) : View.public.Serves app := by
  have htakes : ∀ {k : Kind} {key : ObjectKey}, k ≠ .secret → View.public.Takes k key :=
    fun h => ⟨h, h⟩
  exact ⟨by simp [View.public], htakes (by simp), ⟨by simp [View.public], fun _ _ _ _ => trivial⟩,
    htakes (by simp), fun _ => htakes (by simp)⟩

theorem serves_guarded (app : App) : guarded.Serves app :=
  ⟨trivial, ⟨trivial, trivial⟩, ⟨trivial, fun _ _ _ _ => trivial⟩, ⟨trivial, trivial⟩,
    fun _ => ⟨trivial, trivial⟩⟩

theorem fills_guarded (fresh : String) (key : ObjectKey) : guarded.Fills fresh key := by
  refine ⟨fun _ _ h => h, fun content content' _ => ?_⟩
  have hfilled : ∀ content : Secret.Content, (content.filled fresh).hasAdminPassword = true := by
    intro content
    unfold Secret.Content.filled
    cases hhas : content.hasAdminPassword with
    | true => exact hhas
    | false => simp [Secret.Content.hasAdminPassword, OrdMap.contains]
  exact (hfilled content').trans (hfilled content).symm

theorem Alike.of_tables {s' t' : Store} (h : View.public.Alike s t)
    (hs : s'.refusals = s.refusals) (ht : t'.refusals = t.refusals) (hwell : s'.WellFormed)
    (hwell' : t'.WellFormed) (htable : ∀ k, k ≠ .secret → s'.objects.table k = s.objects.table k)
    (htable' : ∀ k, k ≠ .secret → t'.objects.table k = t.objects.table k) :
    View.public.Alike s' t' := by
  refine ⟨hs.trans h.granted, ht.trans h.granted', hwell, hwell', fun k key object hwrite _ => .inr hwrite,
    fun k key hk hcover => ?_, fun key pod hlooked => ?_⟩
  · have hobjects := h.objects k key hk hcover
    unfold Objects.get? at *
    rwa [htable k hcover, htable' k hcover]
  · have hpods := h.pods key pod hlooked
    unfold Objects.get? at *
    rwa [htable .pod (by simp), htable' .pod (by simp)]

end View

/-! ## Passes -/

namespace Pass

variable {r r' : Report} {now : Timestamp} {settings : PassSettings} {fresh : String}

theorem configSecret_spares (password : String) (app : App) (hs : s.WellFormed) :
    let after := (((Step.configSecret password).dependent.converge app).run.run s).2
    after.refusals = s.refusals ∧ after.WellFormed ∧
      ∀ k, k ≠ .secret → after.objects.table k = s.objects.table k := by
  obtain ⟨log, hexecutes⟩ := Program.exists_executes_run
    ((Step.configSecret password).dependent.converge app).run s
  refine ⟨hexecutes.refusals.2, hexecutes.wellFormed_alone hs,
    fun k hk => (hexecutes.table fun e he => ?_).2⟩
  · have hasks : ((Step.configSecret password).dependent.converge app).Asks
        (Request.Among [.secret]) fun _ => True :=
      (Step.configSecret password).converge_asks (by simp) (by simp) app
    have hkind := (hexecutes.asked hasks).1 e he
    intro hchanges
    rw [Request.Among, Request.kind_of_changes? hchanges] at hkind
    simp at hkind
    exact hk hkind

def connected (secret : Secret) (app : App) : Attempt Connection := do
  let _ ← Attempt.ofExcept (adminPassword secret)
  Connection.resolve app

theorem resolve_fails_same {failure failure' : Failure} (hs : s.refusals = []) (ht : t.refusals = [])
    (h : ((Connection.resolve app).run.run s).1 = .error failure)
    (h' : ((Connection.resolve app).run.run t).1 = .error failure')
    (hsame : failure'.outlineWithForm = failure.outlineWithForm) : failure' = failure := by
  obtain ⟨field, cause, rfl, hfails⟩ := Connection.resolve_fails hs h
  obtain ⟨field', cause', rfl, hfails'⟩ := Connection.resolve_fails ht h'
  exact hfails.eq hfails' hsame

theorem configSecret_pairs (password password' : String) (h : View.public.Alike s t)
    (hnames : s.Names .secret ⟨app.space, app.configSecretName⟩)
    (hnames' : t.Names .secret ⟨app.space, app.configSecretName⟩)
    (htold : Attempt.told Failure.outlineWithForm ((Connection.resolve app).run.run t).1 =
      Attempt.told Failure.outlineWithForm ((Connection.resolve app).run.run s).1) :
    ((Step.configSecret password).dependent.converge app).Pairs View.public.Alike
      ((Step.configSecret password').dependent.converge app) s t fun c c' s' t' =>
        (c'.object.metadata.anyName = c.object.metadata.anyName ∧ True) ∧
          View.public.Alike s' t' := by
  obtain ⟨hs, hwell, htable⟩ := configSecret_spares password app h.wellFormed
  obtain ⟨ht, hwell', htable'⟩ := configSecret_spares password' app h.wellFormed'
  have hafter := h.of_tables hs ht hwell hwell' htable htable'
  unfold Attempt.Pairs Program.Pairs
  cases hresult : ((Connection.resolve app).run.run s).1 with
  | error failure =>
    cases hresult' : ((Connection.resolve app).run.run t).1 with
    | ok db => rw [hresult, hresult'] at htold; cases htold
    | error failure' =>
      rw [hresult, hresult'] at htold
      obtain rfl := resolve_fails_same h.granted h.granted' hresult hresult' (Option.some.inj htold)
      rw [configSecret_fails password h.granted hresult,
        configSecret_fails password' h.granted' hresult']
      exact .error hafter
  | ok db =>
    cases hresult' : ((Connection.resolve app).run.run t).1 with
    | error failure => rw [hresult, hresult'] at htold; cases htold
    | ok db' =>
      have hgives : (Connection.resolve app).Gives s db _ := Prod.ext hresult rfl
      have hgives' : (Connection.resolve app).Gives t db' _ := Prod.ext hresult' rfl
      obtain ⟨c, w, hconverge, hname⟩ := configSecret_gives password h.granted hnames hgives
      obtain ⟨c', w', hconverge', hname'⟩ := configSecret_gives password' h.granted' hnames' hgives'
      unfold Attempt.Gives at hconverge hconverge'
      rw [hconverge, hconverge'] at hafter ⊢
      exact .ok ⟨⟨hname'.trans hname.symm, trivial⟩, hafter⟩

theorem told_missing_ne {secret secret' : Secret} {failure : Failure} {password : String}
    (hs : s.refusals = []) (h : adminPassword secret = .ok password)
    (h' : adminPassword secret' = .error failure) :
    Attempt.told Failure.outlineWithForm ((connected secret app).run.run s).1 ≠
      Attempt.told Failure.outlineWithForm ((connected secret' app).run.run t).1 := by
  obtain rfl := adminPassword_error h'
  unfold connected
  rw [h, h']
  change Attempt.told _ ((Connection.resolve app).run.run s).1 ≠ some _
  cases hresult : ((Connection.resolve app).run.run s).1 with
  | ok db => simp [Attempt.told]
  | error failure =>
    -- A failure of the connection is told with its field, which a missing password has not.
    obtain ⟨field, cause, rfl, -⟩ := Connection.resolve_fails hs hresult
    simp [Attempt.told, Failure.outlineWithForm, Failure.outline, Failure.field?]

/-- What follows the step of the credentials secret does the same in both stores when the connection
can be worked out from both, or from neither for the same reason. -/
theorem administered_public {secret secret' : Secret} (hname : secret'.name = secret.name)
    (hr : Report.Twins app r r' s t)
    (htold : Attempt.told Failure.outlineWithForm ((connected secret' app).run.run t).1 =
      Attempt.told Failure.outlineWithForm ((connected secret app).run.run s).1)
    (hnames : s.Names .secret ⟨app.space, app.configSecretName⟩)
    (hnames' : t.Names .secret ⟨app.space, app.configSecretName⟩) (h : View.public.Alike s t) :
    (administered settings now secret r).Pairs View.public.Alike (administered settings now secret' r')
      s t View.public.Same := by
  have hcover := (View.serves_public app).status
  unfold administered
  -- What is told of the connections excludes that only one of the secrets has a password.
  cases hpassword : adminPassword secret with
  | error failure =>
    cases hpassword' : adminPassword secret' with
    | error failure' =>
      obtain rfl : failure' = failure := by
        rw [adminPassword_error hpassword, adminPassword_error hpassword', hname]
      exact Report.abort_pairs hcover hr h .configSecret failure'
    | ok password' => exact absurd htold (told_missing_ne h.granted' hpassword' hpassword)
  | ok password =>
    cases hpassword' : adminPassword secret' with
    | error failure' => exact absurd htold.symm (told_missing_ne h.granted hpassword hpassword')
    | ok password' =>
      unfold connected at htold
      rw [hpassword, hpassword'] at htold
      have hconverge := configSecret_pairs password password' h hnames hnames' htold
      refine (step_pairs hcover (.configSecret password)
        (.configSecret password') (fun _ _ => True) rfl rfl hr hconverge).bind ?_
      rintro ⟨_, r⟩ ⟨_, r'⟩ s t ⟨-, -, hr, h⟩
      exact configured_pairs (View.serves_public app) hr
        (fun _ => ⟨by simp [View.public], fun _ _ _ _ => trivial⟩) h

/-- The connection that a pass works out for the config secret, given the app and its admin password. -/
def connection (now : Timestamp) (fresh ns name : String) : Attempt (Option Connection) := do
  let found ← Attempt.request .app .get name (Program.get .app ns name)
  match found with
  | none => pure none
  | some app =>
    let (secret, _) ← step now (.adminSecret fresh) (Report.start app)
    let db ← connected secret app
    pure (some db)

end Pass

/-! ## Stores that differ in values -/

structure Secret.Content.SameKeys (c c' : Secret.Content) : Prop where
  data : c'.data.map OrdMap.keys = c.data.map OrdMap.keys
  stringData : c'.stringData.map OrdMap.keys = c.stringData.map OrdMap.keys
  type : c'.type = c.type
  immutable : c'.immutable = c.immutable

theorem Secret.Content.SameKeys.hasAdminPassword {c c' : Secret.Content} (h : c.SameKeys c') :
    c'.hasAdminPassword = c.hasAdminPassword := by
  have hhas : ∀ content : Secret.Content, content.hasAdminPassword = true ↔
      ∃ keys, content.data.map OrdMap.keys = some keys ∧ adminPasswordKey ∈ keys := by
    intro content
    unfold Secret.Content.hasAdminPassword
    cases content.data with
    | none => simp [OrdMap.contains]
    | some data => simp [OrdMap.contains, OrdMap.mem_keys]
  rw [Bool.eq_iff_iff, hhas, hhas, h.data]

/-- The stores have the same objects but for the values of secrets. -/
structure Store.SameButValues (s t : Store) : Prop where
  others : ∀ k key, k ≠ .secret → t.objects.get? k key = s.objects.get? k key
  secrets : ∀ key, Option.Rel
    (fun secret secret' : Secret => secret'.metadata = secret.metadata ∧
      secret.content.SameKeys secret'.content)
    (s.objects.get? .secret key) (t.objects.get? .secret key)

theorem Store.SameButValues.names {key : ObjectKey} (h : s.SameButValues t)
    (hnames : s.Names .secret key) : t.Names .secret key := by
  intro secret' hget'
  have hsecrets := h.secrets key
  cases hget : s.objects.get? .secret key with
  | none =>
    rw [hget, hget'] at hsecrets
    cases hsecrets
  | some secret =>
    rw [hget, hget'] at hsecrets
    have hname : secret'.name = secret.name :=
      congrArg (fun m : Metadata => m.name.getD "") (Option.rel_some_some.mp hsecrets).1
    exact hname.trans (hnames secret hget)

namespace View

theorem guarded_alike (hs : s.refusals = []) (ht : t.refusals = []) (hwell : s.WellFormed)
    (hwell' : t.WellFormed) (h : s.SameButValues t) : guarded.Alike s t := by
  refine ⟨hs, ht, hwell, hwell', fun _ _ _ _ _ => .inr trivial, fun k key _ _ => ?_,
    fun key pod _ => by rw [h.others .pod key (by simp)]⟩
  by_cases hk : k = .secret
  · subst hk
    refine rel_imp (h.secrets key) fun secret secret' hsame => ⟨?_, ?_⟩
    · rw [hsame.1]
      exact .refl ..
    · exact hsame.2.hasAdminPassword
  · rw [h.others k key hk]
    exact Resembles.rel_refl ..

theorem Alike.objects_public (h : View.public.Alike s t) {k : Kind} (hk : k ≠ .secret)
    (key : ObjectKey) :
    Option.Rel (Object.Alike key) (s.objects.get? k key) (t.objects.get? k key) := by
  by_cases hpod : k = .pod
  · subst hpod
    have hsame : t.objects.get? .pod key = s.objects.get? .pod key :=
      Option.ext fun pod => (h.pods key pod trivial).symm
    rw [hsame]
    exact Object.Alike.rel_refl ..
  · exact rel_imp (h.objects k key hpod hk) fun _ _ hsame => ⟨hsame.metadata, hsame.content.eq hk⟩

end View

theorem Attempt.told_bind_pure {σ : Type} (tell : Failure → σ) (x : Attempt α) (f : α → β) :
    Attempt.told tell ((x >>= fun a => pure (f a)).run.run s).1 =
      Attempt.told tell (x.run.run s).1 := by
  rw [ExceptT.run_bind, Program.run_bind]
  cases (x.run.run s).1 <;> rfl

section Kept

variable {settings : PassSettings} {now : Timestamp} {fresh : String} {place : ObjectKey}

theorem Pass.converge_public (h : View.guarded.Alike s t)
    (hsame : t.objects.get? .app app.key = s.objects.get? .app app.key)
    (hnames : s.Names .secret ⟨app.space, app.configSecretName⟩)
    (hnames' : t.Names .secret ⟨app.space, app.configSecretName⟩)
    (htold : ∀ secret r u secret' r' u',
      (step now (.adminSecret fresh) (Report.start app)).Gives s (secret, r) u →
      (step now (.adminSecret fresh) (Report.start app)).Gives t (secret', r') u' →
      Attempt.told Failure.outlineWithForm ((connected secret' app).run.run u').1 =
        Attempt.told Failure.outlineWithForm ((connected secret app).run.run u).1) :
    (converge settings now fresh app).Pairs View.public.Alike (converge settings now fresh app) s t
      View.public.Same := by
  have heven : (Step.adminSecret fresh).dependent.Even View.guarded app :=
    Step.even_adminSecret (View.fills_guarded fresh _)
  rw [converge_eq_administered]
  refine Attempt.pairs_bind (((even_step_pairs (View.serves_guarded app) heven ⟨trivial, trivial⟩
    (.start hsame) h).with (fun _ _ hgives => hgives) fun _ _ hgives => hgives).mono
      (fun _ _ h => h.public) ?_)
  rintro ⟨secret, r⟩ ⟨secret', r'⟩ u u' ⟨⟨hsecret, -, hr, h⟩, hgives, hgives'⟩
  refine administered_public hsecret.name_eq hr (htold _ _ _ _ _ _ hgives hgives') ?_ ?_ h.public
  · exact hnames.gives hgives
  · exact hnames'.gives hgives'

/-- Two stores that refuse nothing and differ in the values of secrets only. A pass works out a
connection from both, or from neither: then, as far as it is told, for the same reason. -/
structure Pass.Twins {σ : Type} (tell : Failure → σ) (now : Timestamp) (fresh : String)
    (place : ObjectKey) (s t : Store) : Prop where
  granted : s.refusals = []
  granted' : t.refusals = []
  wellFormed : s.WellFormed
  wellFormed' : t.WellFormed
  same : s.SameButValues t
  told : Attempt.told tell ((connection now fresh place.ns place.name).run.run t).1 =
    Attempt.told tell ((connection now fresh place.ns place.name).run.run s).1

end Kept

/-- What secrets say beyond their keys goes nowhere but into secrets. The config secret must bear
its own name, and a value that is not valid be told with the form it should have had. -/
theorem secret_values_stay {settings : PassSettings} {now : Timestamp} {fresh : String}
    {place : ObjectKey} (h : Pass.Twins Failure.outlineWithForm now fresh place s t)
    (hnames : ∀ app : App, s.objects.get? .app place = some app →
      s.Names .secret ⟨app.space, app.configSecretName⟩) :
    let pass := (reconcile settings now fresh place.ns place.name).run
    (pass.run t).1 = (pass.run s).1 ∧
      ∀ k key, k ≠ .secret → Option.Rel (Object.Alike key)
        ((pass.run s).2.objects.get? k key) ((pass.run t).2.objects.get? k key) := by
  obtain ⟨hs, ht, hwell, hwell', hsame, htold⟩ := h
  intro pass
  have halike := (View.guarded_alike hs ht hwell hwell' hsame).recording
    (.get .app place.ns place.name) (.get .app place.ns place.name)
  have hloads := Attempt.get_gives hs .app .app place.ns place.name
  have hloads' := Attempt.get_gives ht .app .app place.ns place.name
  rw [hsame.others .app _ (by simp)] at hloads'
  unfold Pass.connection at htold
  rw [Attempt.run_bind_ok hloads, Attempt.run_bind_ok hloads'] at htold
  unfold pass reconcile
  rw [Attempt.run_bind_ok hloads, Attempt.run_bind_ok hloads']
  suffices hpass : Program.Pairs _ _ _ _ View.public.Same from
    ⟨hpass.1, fun k key hk => hpass.2.objects_public hk key⟩
  cases hfound : s.objects.get? .app place with
  | none => exact ⟨rfl, halike.public⟩
  | some app =>
    rw [hfound] at htold
    have hnames := hnames app hfound
    refine View.same_of_pairs (Pass.converge_public halike (hsame.others .app _ (by simp)) hnames
      (hsame.names hnames) ?_)
    intro secret r u secret' r' u' hgives hgives'
    have hconnected := htold
    simp only [Attempt.run_bind_ok hgives, Attempt.run_bind_ok hgives'] at hconnected
    rwa [Attempt.told_bind_pure, Attempt.told_bind_pure] at hconnected

/-! ### Stores with other values -/

namespace Store.SameButValues

variable {secret secret' : Secret}

theorem refl (s : Store) : s.SameButValues s := by
  refine ⟨fun _ _ _ => rfl, fun key => ?_⟩
  cases s.objects.get? .secret key with
  | none => exact .none
  | some secret => exact .some ⟨rfl, rfl, rfl, rfl, rfl⟩

theorem putStamped (h : s.SameButValues t) (hversion : t.version = s.version) (key : ObjectKey)
    (hmetadata : secret'.metadata = secret.metadata) (hkeys : secret.content.SameKeys secret'.content) :
    (s.putStamped key secret).SameButValues (t.putStamped key secret') := by
  refine ⟨fun k key' hk => ?_, fun key' => ?_⟩
  · unfold Store.putStamped
    rw [Objects.get?_put_of_ne _ hk, Objects.get?_put_of_ne _ hk]
    exact h.others k key' hk
  · unfold Store.putStamped
    rw [Objects.get?_put_self, Objects.get?_put_self, hversion]
    split
    · refine .some ⟨?_, hkeys⟩
      exact congrArg (fun m => Store.stampMetadata m key (s.version + 1)) hmetadata
    · exact h.secrets key'

theorem insert (s : Store) (hmetadata : secret'.metadata = secret.metadata)
    (hkeys : secret.content.SameKeys secret'.content) :
    (s.insert secret).SameButValues (s.insert secret') := by
  have hkey : (⟨secret'.metadata.space, secret'.name⟩ : ObjectKey) =
      ⟨secret.metadata.space, secret.name⟩ :=
    congrArg (fun m : Metadata => (⟨m.space, m.name.getD ""⟩ : ObjectKey)) hmetadata
  unfold Store.insert
  rw [hkey]
  exact (refl s).putStamped rfl _ hmetadata hkeys

theorem modify (h : s.SameButValues t) (hversion : t.version = s.version) (ns name : String)
    (change : Metadata → Metadata) :
    (s.modify .secret ns name fun secret =>
      { secret with metadata := change secret.metadata }).SameButValues
      (t.modify .secret ns name fun secret =>
        { secret with metadata := change secret.metadata }) := by
  have hsecrets := h.secrets ⟨ns, name⟩
  unfold Store.modify Store.object?
  cases hs : s.objects.get? .secret ⟨ns, name⟩ <;> cases ht : t.objects.get? .secret ⟨ns, name⟩ <;>
    rw [hs, ht] at hsecrets
  · exact h
  · cases hsecrets
  · cases hsecrets
  · obtain ⟨hmetadata, hkeys⟩ := Option.rel_some_some.mp hsecrets
    exact h.putStamped hversion _ (congrArg change hmetadata) hkeys

end Store.SameButValues

namespace Sample

def swapped : Store :=
  (({} : Store).insert (App.sample key.name key.ns)).insert
    (Secret.ofTexts key.ns "db-creds" [("password", "swordfish")])

end Sample

theorem secret_values_stay_sample :
    let pass := (reconcile {} (.ofUnix 0) "fresh" Sample.key.ns Sample.key.name).run
    (pass.run Sample.swapped).1 = (pass.run Sample.store).1 ∧
      ∀ k key, k ≠ .secret → Option.Rel (Object.Alike key)
        ((pass.run Sample.store).2.objects.get? k key)
        ((pass.run Sample.swapped).2.objects.get? k key) := by
  have hnone : Sample.store.objects.get? .secret ⟨"web", "shop-config"⟩ = none := by decide +kernel
  obtain ⟨app, happ, hplace⟩ : ∃ app : App, Sample.store.objects.get? .app Sample.key = some app ∧
      (⟨app.space, app.configSecretName⟩ : ObjectKey) = ⟨"web", "shop-config"⟩ :=
    ⟨_, rfl, by decide +kernel⟩
  refine secret_values_stay ⟨rfl, rfl, (Store.wellFormed_empty.insert _).insert _,
    (Store.wellFormed_empty.insert _).insert _, .insert _ rfl ⟨rfl, rfl, rfl, rfl⟩, ?_⟩ ?_
  · decide +kernel
  · intro app' happ' secret hsecret
    obtain rfl : app' = app := Option.some.inj (happ'.symm.trans happ)
    rw [hplace, hnone] at hsecret
    cases hsecret

/-! ### Stores that can be told apart -/

namespace Sample

def portReading : App :=
  { App.sample key.name key.ns with
    content.spec.database.portRef := some { name := "db-creds", key := "port" } }

def withPort (port : Bytes) : Store :=
  (({} : Store).insert portReading).insert (k := .secret)
    { metadata := { name := some "db-creds", ns := some key.ns }
      content :=
        { data := some (OrdMap.ofList [("password", Bytes.ofText "hunter2"), ("port", port)]) } }

def configured (file : Bytes) : Secret where
  metadata := (((App.sample key.name key.ns).configSecret "").ensureOwner
    (App.sample key.name key.ns)).metadata
  content := { data := some (OrdMap.singleton configFileKey file) }

def rename (metadata : Metadata) : Metadata := { metadata with name := some "other" }

def renamed (file : Bytes) : Store :=
  ((store.insert (Secret.ofTexts key.ns "shop-admin-password" [("password", "fresh")])).insert
    (configured file)).modify .secret key.ns "shop-config" fun secret =>
      { secret with metadata := rename secret.metadata }

def settledFile : String :=
  ConfigFile.render
    { host := "postgres.db.svc"
      port := 5432
      user := "odoo"
      password := "hunter2"
      name := "odoo"
      ssl := false
      maxConn := 20 }
    (App.sample key.name key.ns).content.spec.config "fresh"

end Sample

/-- It can be seen of a port in a secret whether it is a text, even if it is no number in either case;
and of a config secret that does not bear its name, whether it has the right file. -/
theorem secret_values_do_not_always_stay :
    let pass := (reconcile {} (.ofUnix 0) "fresh" Sample.key.ns Sample.key.name).run
    let text := Sample.withPort (Bytes.ofText "abc")
    let noText := Sample.withPort [0xff]
    let right := Sample.renamed (Bytes.ofText Sample.settledFile)
    let wrong := Sample.renamed []
    (Pass.Twins Failure.outline (.ofUnix 0) "fresh" Sample.key text noText ∧
        Attempt.told Failure.message (pass.run noText).1 ≠ Attempt.told Failure.message (pass.run text).1) ∧
      Pass.Twins Failure.outlineWithForm (.ofUnix 0) "fresh" Sample.key right wrong ∧
        Attempt.told Failure.message (pass.run wrong).1 ≠ Attempt.told Failure.message (pass.run right).1 := by
  intro pass text noText right wrong
  have htext : text.SameButValues noText := .insert _ rfl ⟨by decide +kernel, rfl, rfl, rfl⟩
  have hright : right.SameButValues wrong := by
    refine .modify (.insert _ ?_ ?_) ?_ Sample.key.ns "shop-config" Sample.rename
    · rfl
    · exact ⟨rfl, rfl, rfl, rfl⟩
    · rfl
  have hport : ∀ port, (Sample.withPort port).WellFormed :=
    fun port => (Store.wellFormed_empty.insert _).insert _
  have hrenamed : ∀ file, (Sample.renamed file).WellFormed :=
    fun file => ((((Store.wellFormed_empty.insert _).insert _).insert _).insert _).modify ..
  refine ⟨⟨⟨rfl, rfl, hport _, hport _, htext, ?_⟩, ?_⟩,
    ⟨by decide +kernel, by decide +kernel, hrenamed _, hrenamed _, hright, ?_⟩, ?_⟩
  all_goals decide +kernel

end OdooKeeper
