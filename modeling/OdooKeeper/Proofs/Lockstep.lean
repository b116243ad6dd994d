import OdooKeeper.Connection
import OdooKeeper.Proofs.Likeness

/-! # Attempts side by side

One attempt on each of two stores that look alike. When all that it reads is in the view, it takes the
same course on both: it comes to the same and leaves stores that look alike. -/

namespace OdooKeeper

variable {α β γ δ : Type} {s t : Store}

/-! ## Two attempts -/

/-- Both attempts have succeeded, or both have ended in the same failure. -/
inductive Paired (left : Store → Store → Prop) (post : α → β → Store → Store → Prop) :
    Except Failure α → Except Failure β → Store → Store → Prop where
  | ok {a : α} {b : β} {s t : Store} (h : post a b s t) : Paired left post (.ok a) (.ok b) s t
  | error {failure : Failure} {s t : Store} (h : left s t) :
      Paired left post (.error failure) (.error failure) s t

namespace Program

/-- What holds of the results and the stores of two programs, each on its own store. -/
def Pairs (p : Program α) (q : Program β) (s t : Store)
    (post : α → β → Store → Store → Prop) : Prop :=
  post (p.run s).1 (q.run t).1 (p.run s).2 (q.run t).2

theorem pairs_bind {p : Program α} {q : Program β} {f : α → Program γ} {g : β → Program δ}
    {post : γ → δ → Store → Store → Prop}
    (h : p.Pairs q s t fun a b s' t' => (f a).Pairs (g b) s' t' post) :
    (p >>= f).Pairs (q >>= g) s t post := by
  unfold Pairs at *
  rw [run_bind, run_bind]
  exact h

theorem Pairs.mono {p : Program α} {q : Program β} {post post' : α → β → Store → Store → Prop}
    (h : p.Pairs q s t post) (himp : ∀ a b s' t', post a b s' t' → post' a b s' t') :
    p.Pairs q s t post' :=
  himp _ _ _ _ h

theorem Pairs.bind {p : Program α} {q : Program β} {f : α → Program γ} {g : β → Program δ}
    {post : α → β → Store → Store → Prop} {post' : γ → δ → Store → Store → Prop}
    (h : p.Pairs q s t post) (hf : ∀ a b s' t', post a b s' t' → (f a).Pairs (g b) s' t' post') :
    (p >>= f).Pairs (q >>= g) s t post' :=
  pairs_bind (h.mono hf)

theorem pairs_ask {r r' : Request} {post : r.Answer → r'.Answer → Store → Store → Prop}
    (h : post (s.serve r).1 (t.serve r').1 (s.serve r).2 (t.serve r').2) :
    (ask r).Pairs (ask r') s t post :=
  h

end Program

namespace Attempt

/-- Both attempts succeed, each on its own store, or both end in the same failure. -/
def Pairs (left : Store → Store → Prop) (x : Attempt α) (y : Attempt β) (s t : Store)
    (post : α → β → Store → Store → Prop) : Prop :=
  x.run.Pairs y.run s t (Paired left post)

variable {left left' : Store → Store → Prop} {x : Attempt α} {y : Attempt β}
  {post post' : α → β → Store → Store → Prop}

theorem pairs_pure {a : α} {b : β} (h : post a b s t) :
    Pairs left (pure a) (pure b) s t post :=
  .ok h

theorem pairs_of_gives {a : α} {b : β} {s' t' : Store} (hx : x.Gives s a s') (hy : y.Gives t b t')
    (h : post a b s' t') : x.Pairs left y s t post := by
  unfold Pairs Program.Pairs
  rw [show x.run.run s = _ from hx, show y.run.run t = _ from hy]
  exact .ok h

theorem pairs_throw {failure : Failure} (h : left s t) :
    Pairs left (throw failure) (throw failure) s t post :=
  .error h

theorem Pairs.mono (h : x.Pairs left y s t post) (hleft : ∀ s' t', left s' t' → left' s' t')
    (himp : ∀ a b s' t', post a b s' t' → post' a b s' t') : x.Pairs left' y s t post' := by
  refine Program.Pairs.mono h fun a b s' t' hpaired => ?_
  cases hpaired with
  | ok h => exact .ok (himp _ _ _ _ h)
  | error h => exact .error (hleft _ _ h)

theorem pairs_bind {f : α → Attempt γ} {g : β → Attempt δ} {post : γ → δ → Store → Store → Prop}
    (h : x.Pairs left y s t fun a b s' t' => (f a).Pairs left (g b) s' t' post) :
    (x >>= f).Pairs left (y >>= g) s t post := by
  unfold Pairs
  rw [ExceptT.run_bind, ExceptT.run_bind]
  refine Program.Pairs.bind h fun a b s' t' hpaired => ?_
  cases hpaired with
  | ok h => exact h
  | error h => exact .error h

theorem Pairs.bind {f : α → Attempt γ} {g : β → Attempt δ} {post' : γ → δ → Store → Store → Prop}
    (h : x.Pairs left y s t post)
    (hf : ∀ a b s' t', post a b s' t' → (f a).Pairs left (g b) s' t' post') :
    (x >>= f).Pairs left (y >>= g) s t post' :=
  pairs_bind (h.mono (fun _ _ => id) hf)

theorem pairs_within {wrap : Failure → Failure} (h : x.Pairs left y s t post) :
    (within wrap x).Pairs left (within wrap y) s t post := by
  refine Program.Pairs.bind h fun a b s' t' hpaired => ?_
  cases hpaired with
  | ok h => exact .ok h
  | error h => exact .error h

theorem pairs_request {role : Role} {operation : Operation} {name : String} {r r' : Request}
    {value : r.Value} {value' : r'.Value} {post : r.Value → r'.Value → Store → Store → Prop}
    (hs : (s.serve r).1 = .ok value) (ht : (t.serve r').1 = .ok value')
    (h : post value value' (s.serve r).2 (t.serve r').2) :
    (request role operation name (Program.ask r)).Pairs left
      (request role operation name (Program.ask r')) s t post := by
  change Paired left post ((s.serve r).1.mapError _) ((t.serve r').1.mapError _) _ _
  rw [hs, ht]
  exact .ok h

theorem pairs_request_error {role : Role} {operation : Operation} {name : String} {r r' : Request}
    {cause : StoreError} {post : r.Value → r'.Value → Store → Store → Prop}
    (hs : (s.serve r).1 = .error cause) (ht : (t.serve r').1 = .error cause)
    (h : left (s.serve r).2 (t.serve r').2) :
    (request role operation name (Program.ask r)).Pairs left
      (request role operation name (Program.ask r')) s t post := by
  change Paired left post ((s.serve r).1.mapError _) ((t.serve r').1.mapError _) _ _
  rw [hs, ht]
  exact .error h

theorem Pairs.with {left₁ : α → Store → Prop} {right₁ : β → Store → Prop}
    (h : x.Pairs left y s t post) (hx : ∀ a s', x.Gives s a s' → left₁ a s')
    (hy : ∀ b t', y.Gives t b t' → right₁ b t') :
    x.Pairs left y s t fun a b s' t' => post a b s' t' ∧ left₁ a s' ∧ right₁ b t' := by
  unfold Pairs Program.Pairs at *
  unfold Gives at hx hy
  generalize x.run.run s = p at *
  generalize y.run.run t = q at *
  obtain ⟨result, s'⟩ := p
  obtain ⟨result', t'⟩ := q
  cases h with
  | ok h => exact .ok ⟨h, hx _ _ rfl, hy _ _ rfl⟩
  | error h => exact .error h

end Attempt

/-! ## One attempt on two stores -/

namespace View

variable {v : View} {x : Attempt α}

def Same (v : View) (a b : α) (s t : Store) : Prop := b = a ∧ v.Alike s t

/-- The attempt comes to the same on both stores and leaves them alike. -/
def Steady (v : View) (x : Attempt α) (s t : Store) : Prop := x.Pairs v.Alike x s t v.Same

theorem same_of_pairs {y : Attempt α} (h : x.Pairs v.Alike y s t v.Same) :
    x.run.Pairs y.run s t v.Same := by
  refine Program.Pairs.mono h fun a b s' t' hpaired => ?_
  cases hpaired with
  | ok h => exact ⟨congrArg Except.ok h.1, h.2⟩
  | error h => exact ⟨rfl, h⟩

theorem steady_pure (h : v.Alike s t) (a : α) : v.Steady (pure a) s t :=
  Attempt.pairs_pure ⟨rfl, h⟩

theorem steady_throw (h : v.Alike s t) (failure : Failure) :
    v.Steady (throw failure : Attempt α) s t :=
  Attempt.pairs_throw h

theorem steady_ofExcept (h : v.Alike s t) (result : Except Failure α) :
    v.Steady (Attempt.ofExcept result) s t := by
  cases result with
  | ok a => exact steady_pure h a
  | error failure => exact steady_throw h failure

theorem Steady.bind {f : α → Attempt β} (h : v.Steady x s t)
    (hf : ∀ a s t, v.Alike s t → v.Steady (f a) s t) : v.Steady (x >>= f) s t := by
  refine Attempt.Pairs.bind h ?_
  rintro _ a s' t' ⟨rfl, h⟩
  exact hf a s' t' h

theorem Steady.within {wrap : Failure → Failure} (h : v.Steady x s t) :
    v.Steady (x.within wrap) s t :=
  Attempt.pairs_within h

theorem steady_forM {l : List γ} {f : γ → Attempt PUnit} (h : v.Alike s t)
    (hf : ∀ a s t, v.Alike s t → v.Steady (f a) s t) : v.Steady (l.forM f) s t := by
  induction l generalizing s t with
  | nil => exact steady_pure h _
  | cons a rest ih => exact (hf a s t h).bind fun _ _ _ h => ih h

theorem Alike.get {k : Kind} {role : Role} {name ns key : String} (h : v.Alike s t) (hk : k ≠ .pod)
    (hcover : v.covers k ⟨ns, key⟩) :
    (Attempt.request role .get name (Program.get k ns key)).Pairs v.Alike
      (Attempt.request role .get name (Program.get k ns key)) s t fun found found' s' t' =>
        v.Alike s' t' ∧ Option.Rel (v.Resembles ⟨ns, key⟩) found found' := by
  have hs := Store.serve_get_granted (Store.not_refuses h.granted (.get k ns key))
  have ht := Store.serve_get_granted (Store.not_refuses h.granted' (.get k ns key))
  exact Attempt.pairs_request (by rw [hs]) (by rw [ht]) ⟨h.read rfl, h.objects k _ hk hcover⟩

theorem Alike.steady_delete {role : Role} {name key ns : String} (h : v.Alike s t) (k : Kind) :
    v.Steady (Attempt.request role .delete name (Program.delete k ns key)) s t := by
  obtain ⟨hs, ht, halike⟩ := h.delete k ns key
  exact Attempt.pairs_request hs ht ⟨rfl, halike⟩

theorem Alike.pairs_create {k : Kind} {role : Role} {name ns : String} {object : Object k}
    (h : v.Alike s t) (hk : k ≠ .pod) (hcover : v.covers k ⟨ns, object.name⟩)
    (hs : s.objects.get? k ⟨ns, object.name⟩ = none) :
    (Attempt.request role .create name (Program.create ns object)).Pairs v.Alike
      (Attempt.request role .create name (Program.create ns object)) s t fun stored stored' s' t' =>
        v.Resembles ⟨ns, object.name⟩ stored stored' ∧ v.Alike s' t' := by
  obtain ⟨stored, stored', hanswer, hanswer', hsame, h⟩ := h.create hk hcover hs
  exact Attempt.pairs_request hanswer hanswer' ⟨hsame, h⟩

theorem Alike.pairs_replace {k : Kind} {role : Role} {name ns : String} {key : ObjectKey}
    {object object' live live' : Object k} (h : v.Alike s t) (hk : k ≠ .pod)
    (hwrite : v.writes k key) (hns : ns = key.ns) (hs : s.objects.get? k key = some live)
    (ht : t.objects.get? k key = some live') (hlive : live.metadata.Alike key.name live'.metadata)
    (hname : object.name = live.name)
    (hversion : object.metadata.resourceVersion = live.metadata.resourceVersion)
    (hversion' : object'.metadata.resourceVersion = live'.metadata.resourceVersion)
    (hsame : v.Resembles key object object') :
    (Attempt.request role .update name (Program.replace ns object)).Pairs v.Alike
      (Attempt.request role .update name (Program.replace ns object')) s t fun stored stored' s' t' =>
        v.Resembles key stored stored' ∧ v.Alike s' t' := by
  subst hns
  by_cases hkey : key = ⟨key.ns, object.name⟩
  · rw [hkey] at hs ht hlive hsame
    obtain ⟨stored, stored', hanswer, hanswer', hstored, h⟩ :=
      h.replace hk hs ht hlive hversion hversion' hsame
    rw [hkey]
    exact Attempt.pairs_request hanswer hanswer' ⟨hstored, h⟩
  · -- An object that bears another name is sent to where it is not.
    have hborne := (h.bears k key live hwrite hs).resolve_left fun hborne =>
      hkey (congrArg (ObjectKey.mk key.ns) (hname.trans hborne).symm)
    rw [← hname] at hborne
    obtain ⟨cause, hanswer, hanswer', h⟩ := h.replace_elsewhere hk hborne hs ht hkey hversion hversion'
      hsame.name_eq
    exact Attempt.pairs_request_error hanswer hanswer' h

end View

/-! ## Values of secrets -/

namespace View

variable {v : View}

/-- The secret at a key is looked at with all that it says. -/
structure Reads (v : View) (key : ObjectKey) : Prop where
  covers : v.covers .secret key
  content : ∀ content content', v.secrets key content content' → content' = content

theorem Alike.readRef (h : v.Alike s t) {ref : SecretRef} {ns : String}
    (hreads : v.Reads ⟨ns, ref.name⟩) : v.Steady (ref.read ns) s t := by
  unfold SecretRef.read
  refine (h.get (by simp) hreads.covers).bind fun found found' s' t' hfound => ?_
  obtain ⟨h, hsame⟩ := hfound
  cases hsame with
  | none => exact steady_throw h _
  | @some secret secret' hsame =>
    have htext : ref.textIn secret' = ref.textIn secret := by
      unfold SecretRef.textIn
      rw [hreads.content _ _ hsame.content]
    simp only [htext]
    exact steady_ofExcept h _

theorem Alike.resolveValue (h : v.Alike s t) {form : ValueForm γ} {ns : String} {literal : γ}
    {ref : Option SecretRef} (hreads : ∀ set, setRef? ref = some set → v.Reads ⟨ns, set.name⟩) :
    v.Steady (resolveValue form ns literal ref) s t := by
  unfold OdooKeeper.resolveValue
  cases href : setRef? ref with
  | none => exact steady_pure h literal
  | some set =>
    refine (h.readRef (hreads set href)).bind fun text s t h => ?_
    cases form.parse text with
    | none => exact steady_throw h _
    | some value => exact steady_pure h value

theorem Alike.resolvePassword (h : v.Alike s t) {ns : String} {db : DatabaseSettings}
    (hreads : ∀ set, setRef? db.passwordRef = some set → v.Reads ⟨ns, set.name⟩) :
    v.Steady (Connection.resolvePassword ns db) s t := by
  unfold Connection.resolvePassword
  cases href : setRef? db.passwordRef with
  | none =>
    cases givenText? db.password with
    | none => exact steady_throw h _
    | some literal => exact steady_pure h literal
  | some set => exact h.readRef (hreads set href)

theorem Alike.resolve (h : v.Alike s t) {app : App}
    (hreads : ∀ ref ∈ app.secretRefs, v.Reads ⟨app.space, ref.name⟩) :
    v.Steady (Connection.resolve app) s t := by
  have hset : ∀ field set, setRef? (app.content.spec.database.ref? field) = some set →
      v.Reads ⟨app.space, set.name⟩ := fun _ set hset => hreads set (App.setRef?_mem hset)
  unfold Connection.resolve
  refine (h.resolveValue (hset .host)).within.bind fun host s t h => ?_
  refine (h.resolveValue (hset .port)).within.bind fun port s t h => ?_
  refine (h.resolveValue (hset .user)).within.bind fun user s t h => ?_
  refine (h.resolvePassword (hset .password)).within.bind fun password s t h => ?_
  refine (h.resolveValue (hset .name)).within.bind fun name s t h => ?_
  refine (h.resolveValue (hset .ssl)).within.bind fun ssl s t h => ?_
  refine (h.resolveValue (hset .maxConn)).within.bind fun maxConn s t h => ?_
  exact steady_pure h _

end View

/-! ## The init job -/

namespace View

variable {v : View}

structure SeesJob (v : View) (job : ObjectKey) : Prop where
  covers : v.covers .job job
  pods : ∀ key pod, key.ns = job.ns → Store.hasLabels ("job-name=" ++ job.name) pod = true →
    v.pods key pod

theorem Alike.remove (h : v.Alike s t) {ns job : String} (hsees : v.SeesJob ⟨ns, job⟩) :
    v.Steady (InitJob.remove ns job) s t := by
  obtain ⟨pods, hs, ht, halike⟩ := h.list hsees.pods
  unfold InitJob.remove
  refine Attempt.pairs_bind (Attempt.pairs_request hs ht ?_)
  refine (steady_forM halike fun pod s t h => ?_).bind fun _ s t h => ?_
  · exact h.steady_delete .pod
  · exact h.steady_delete .job

theorem Alike.reusable (h : v.Alike s t) {ns name : String} (modules : List String)
    (hsees : v.SeesJob ⟨ns, name⟩) : v.Steady (InitJob.reusable ns name modules) s t := by
  unfold InitJob.reusable
  refine (h.get (by simp) hsees.covers).bind fun found found' s' t' hfound => ?_
  obtain ⟨h, hsame⟩ := hfound
  cases hsame with
  | none => exact steady_pure h false
  | @some job job' hsame =>
    have hcontent := hsame.content.eq (by simp)
    have hflight : Job.isInFlight job' = Job.isInFlight job := by
      unfold Job.isInFlight Job.phase
      rw [hcontent]
    have hmodules : Job.modules? job' = Job.modules? job := by
      unfold Job.modules?
      rw [hcontent]
    simp only [hflight, hmodules]
    split
    · exact steady_pure h true
    · exact (h.remove hsees).bind fun _ s t h => steady_pure h false

theorem Alike.advance (h : v.Alike s t) (poll : Nat) {ns : String} {record : JobRecord} {job job' : Job}
    (hcontent : job'.content = job.content) (hsees : v.SeesJob ⟨ns, record.name⟩) :
    (InitJob.advance poll ns record job).Pairs (InitJob.advance poll ns record job') s t v.Same := by
  have hphase : job'.phase = job.phase := by
    unfold Job.phase
    rw [hcontent]
  unfold InitJob.advance
  rw [hphase]
  cases job.phase with
  | pending => exact ⟨rfl, h⟩
  | running => exact ⟨rfl, h⟩
  | succeeded =>
    refine (same_of_pairs (h.remove hsees)).bind ?_
    rintro _ removed s' t' ⟨rfl, h⟩
    exact ⟨rfl, h⟩
  | failed =>
    refine (same_of_pairs (h.remove hsees)).bind ?_
    rintro _ removed s' t' ⟨rfl, h⟩
    exact ⟨rfl, h⟩

theorem Alike.startIfNeeded (h : v.Alike s t) (poll : Nat) {app : App} (installed : List String)
    (updates : List StatusUpdate) (hsees : v.SeesJob app.initJobKey) :
    (InitJob.startIfNeeded poll app installed updates).Pairs
      (InitJob.startIfNeeded poll app installed updates) s t v.Same := by
  unfold InitJob.startIfNeeded
  split
  · exact ⟨rfl, h⟩
  -- Both stores take the job, or both have one already.
  have hcreate : (Program.create app.space (app.initJob.ensureOwner app)).Pairs
      (Program.create app.space (app.initJob.ensureOwner app)) s t fun answer answer' s' t' =>
        v.Alike s' t' ∧ ((∃ stored stored', answer = .ok stored ∧ answer' = .ok stored') ∨
          ∃ message message', answer = .error (.conflict message) ∧
            answer' = .error (.conflict message')) := by
    have hcover : v.covers .job ⟨app.space, (app.initJob.ensureOwner app).name⟩ := by
      rw [Object.ensureOwner_name]
      exact hsees.covers
    refine Program.pairs_ask ?_
    cases hs : s.objects.get? .job ⟨app.space, (app.initJob.ensureOwner app).name⟩ with
    | none =>
      obtain ⟨stored, stored', hanswer, hanswer', -, h⟩ := h.create (by simp) hcover hs
      exact ⟨h, .inl ⟨stored, stored', hanswer, hanswer'⟩⟩
    | some taken =>
      obtain ⟨message, message', hanswer, hanswer', h⟩ := h.create_taken (by simp) hcover hs
      exact ⟨h, .inr ⟨message, message', hanswer, hanswer'⟩⟩
  refine hcreate.bind ?_
  rintro _ _ s' t' ⟨h, ⟨stored, stored', rfl, rfl⟩ | ⟨message, message', rfl, rfl⟩⟩
  · exact ⟨rfl, h⟩
  · refine (same_of_pairs (h.reusable _ hsees)).bind ?_
    rintro _ reused s' t' ⟨rfl, h⟩
    rcases reused with failure | reused
    · exact ⟨rfl, h⟩
    · cases reused <;> exact ⟨rfl, h⟩

/-- The tracker comes to the same when it sees the app's own job and the one that is recorded. -/
theorem Alike.track (h : v.Alike s t) (poll : Nat) {app : App} {status : App.Status}
    (hown : v.SeesJob app.initJobKey)
    (hrecorded : status.initJob.isIdle = false →
      v.SeesJob (InitJob.recordedKey app status.initJob)) :
    (InitJob.track poll app status).Pairs (InitJob.track poll app status) s t v.Same := by
  cases hrecord : status.initJob.isIdle with
  | true =>
    rw [InitJob.track_unrecorded hrecord]
    exact h.startIfNeeded poll _ _ hown
  | false =>
    have hsees := hrecorded hrecord
    simp only [InitJob.track, hrecord, Bool.false_eq_true, if_false]
    have hget : (Program.get .job (InitJob.recordedSpace app status.initJob) status.initJob.name).Pairs
        (Program.get .job (InitJob.recordedSpace app status.initJob) status.initJob.name) s t
        fun answer answer' s' t' => v.Alike s' t' ∧ ∃ found found', answer = .ok found ∧
          answer' = .ok found' ∧
          Option.Rel (v.Resembles (InitJob.recordedKey app status.initJob)) found found' := by
      refine Program.pairs_ask ⟨h.read rfl, ?_⟩
      rw [Store.serve_get_granted (Store.not_refuses h.granted _),
        Store.serve_get_granted (Store.not_refuses h.granted' _)]
      exact ⟨_, _, rfl, rfl, h.objects .job _ (by simp) hsees.covers⟩
    refine hget.bind ?_
    rintro _ _ s' t' ⟨h, found, found', rfl, rfl, hsame⟩
    cases hsame with
    | none => exact h.startIfNeeded poll _ _ hown
    | some hsame => exact h.advance poll (hsame.content.eq (by simp)) hsees

end View

end OdooKeeper
