import OdooKeeper.Dependents
import OdooKeeper.Proofs.Combining
import OdooKeeper.Proofs.Tracker

/-! # The first refusal ends it

An attempt asks for nothing more once a request is refused: it ends in a failure that tells so. The
tracker of the init job does the same, except that a job may be there already. -/

namespace OdooKeeper

variable {α β : Type}

/-- The failure is one only, and it is about the init job or is not. -/
structure Failure.Lone (aboutJob : Bool) (failure : Failure) : Prop where
  single : failure.isSeveral = false
  lifecycle : failure.isJobLifecycle = aboutJob

/-! ## Programs -/

namespace Program

/-- A refused request ends the program in a failure, unless the refusal is spared. The failures after
a refusal are of one kind, and those that the program ends in by itself are of another. -/
def Halts (failure? : α → Option Failure) (spared : Request → StoreError → Prop)
    (thrown refused : Failure → Prop) : Program α → Prop
  | .done a => ∀ failure, failure? a = some failure → thrown failure
  | .call r next =>
    (∀ cause, (∃ a failure, next (.error cause) = .done a ∧ failure? a = some failure ∧
        refused failure) ∨
      spared r cause ∧ (next (.error cause)).Halts failure? spared thrown refused) ∧
    ∀ value, (next (.ok value)).Halts failure? spared thrown refused

section Halts

variable {failure? : α → Option Failure} {failed? : β → Option Failure}
  {spared spared' : Request → StoreError → Prop} {thrown thrown' refused refused' : Failure → Prop}

theorem halts_pure {a : α} (h : ∀ failure, failure? a = some failure → thrown failure) :
    (pure a : Program α).Halts failure? spared thrown refused := h

theorem Halts.mono {p : Program α} (h : p.Halts failure? spared thrown refused)
    (hspared : ∀ r cause, spared r cause → spared' r cause)
    (hthrown : ∀ failure, thrown failure → thrown' failure)
    (hrefused : ∀ failure, refused failure → refused' failure) :
    p.Halts failure? spared' thrown' refused' := by
  induction p with
  | done a => exact fun failure hfailure => hthrown failure (h failure hfailure)
  | call r next ih =>
    refine ⟨fun cause => ?_, fun value => ih _ (h.2 value)⟩
    rcases h.1 cause with ⟨a, failure, ha, hfailure, hends⟩ | ⟨hspare, hrest⟩
    · exact .inl ⟨a, failure, ha, hfailure, hrefused failure hends⟩
    · exact .inr ⟨hspared r cause hspare, ih _ hrest⟩

theorem halts_bind {p : Program α} {f : α → Program β} (h : p.Halts failure? spared thrown refused)
    (hfailed : ∀ a failure, failure? a = some failure →
      ∃ b failure', f a = .done b ∧ failed? b = some failure' ∧
        (thrown failure → thrown' failure') ∧ (refused failure → refused' failure'))
    (hf : ∀ a, failure? a = none → (f a).Halts failed? spared thrown' refused') :
    (p >>= f).Halts failed? spared thrown' refused' := by
  induction p with
  | done a =>
    cases hfailure : failure? a with
    | none => exact hf a hfailure
    | some failure =>
      obtain ⟨b, failure', hb, hfailure', hthrown, -⟩ := hfailed a failure hfailure
      rw [done_bind, hb]
      intro other hother
      rw [hfailure'] at hother
      cases hother
      exact hthrown (h failure hfailure)
  | call r next ih =>
    refine ⟨fun cause => ?_, fun value => ih _ (h.2 value)⟩
    rcases h.1 cause with ⟨a, failure, ha, hfailure, hends⟩ | ⟨hspared, hrest⟩
    · obtain ⟨b, failure', hb, hfailure', -, hrefused⟩ := hfailed a failure hfailure
      refine .inl ⟨b, failure', ?_, hfailure', hrefused hends⟩
      change (next (.error cause) >>= f) = .done b
      rw [ha, done_bind, hb]
    · exact .inr ⟨hspared, ih _ hrest⟩

theorem Halts.answered {r : Request} {next : r.Answer → Program α}
    (h : (Program.call r next).Halts failure? spared thrown refused) (s : Store) :
    (∃ b failure, next (s.serve r).1 = .done b ∧ failure? b = some failure ∧ refused failure ∧
      Event.Refused ⟨s, r⟩) ∨
    (next (s.serve r).1).Halts failure? spared thrown refused ∧
      ∀ cause, (s.serve r).1 = .error cause → spared r cause := by
  unfold Event.Refused
  cases (s.serve r).1 with
  | ok value => exact .inr ⟨h.2 value, nofun⟩
  | error cause =>
    rcases h.1 cause with ⟨b, failure, hb, hfailure, hends⟩ | ⟨hspared, hrest⟩
    · exact .inl ⟨b, failure, hb, hfailure, hends, cause, rfl⟩
    · refine .inr ⟨hrest, fun cause' hcause => ?_⟩
      cases hcause
      exact hspared

variable {others : Store → Store → Prop} {p : Program α} {s t : Store} {log : List Event} {a : α}
  {failure : Failure}

theorem Executes.failed (h : p.Executes others s log a t)
    (hp : p.Halts failure? spared thrown refused) (hfailure : failure? a = some failure) :
    thrown failure ∨ refused failure ∧ ∃ e ∈ log, e.Refused := by
  induction h with
  | done a s => exact .inl (hp failure hfailure)
  | @call r next _ s' t log a before rest ih =>
    rcases hp.answered s' with ⟨b, failure', hb, hfailure', hends, hrefused⟩ | ⟨hrest, -⟩
    · rw [hb] at rest
      cases rest
      obtain rfl : failure' = failure := Option.some.inj (hfailure'.symm.trans hfailure)
      exact .inr ⟨hends, _, List.mem_cons_self, hrefused⟩
    · refine (ih hrest hfailure).imp_right fun ⟨hends, e, he, hrefused⟩ => ⟨hends, e, ?_, hrefused⟩
      exact List.mem_cons_of_mem _ he

theorem Executes.failure_of_kind (h : p.Executes others s log a t)
    (hp : p.Halts failure? spared refused refused) (hfailure : failure? a = some failure) :
    refused failure :=
  (h.failed hp hfailure).elim id And.left

/-- Nothing follows a refused request. -/
theorem Executes.halted (h : p.Executes others s log a t)
    (hp : p.Halts failure? spared thrown refused) {earlier later : List Event} {e : Event}
    {cause : StoreError} (hcut : log = earlier ++ e :: later)
    (hrefused : (e.store.serve e.request).1 = .error cause) :
    later = [] ∧ (failure? a).isSome ∨ spared e.request cause := by
  induction h generalizing earlier with
  | done a s => simp at hcut
  | @call r next _ s' t log a before rest ih =>
    rcases hp.answered s' with ⟨b, failure, hb, hfailure, -⟩ | ⟨hrest, hspared⟩
    · -- The program ends with this request.
      rw [hb] at rest
      cases rest
      cases earlier with
      | nil =>
        cases hcut
        exact .inl ⟨rfl, Option.isSome_of_eq_some hfailure⟩
      | cons _ earlier => simp at hcut
    · cases earlier with
      | nil =>
        cases hcut
        exact .inr (hspared cause hrefused)
      | cons _ earlier =>
        cases hcut
        exact ih hrest rfl

end Halts

end Program

/-! ## Attempts -/

namespace Attempt

def failure? : Except Failure α → Option Failure
  | .ok _ => none
  | .error failure => some failure

/-- The first refusal ends the attempt in a failure of one kind. By itself it fails with those of
another. -/
def Fails (thrown refused : Failure → Prop) (x : Attempt α) : Prop :=
  x.run.Halts failure? (fun _ _ => False) thrown refused

abbrev Halts (holds : Failure → Prop) (x : Attempt α) : Prop := x.Fails holds holds

section Fails

variable {thrown thrown' refused refused' : Failure → Prop}

theorem fails_pure (a : α) : (pure a : Attempt α).Fails thrown refused := by
  intro failure hfailure
  cases hfailure

theorem fails_throw {failure : Failure} (h : thrown failure) :
    (throw failure : Attempt α).Fails thrown refused := by
  intro other hother
  cases hother
  exact h

theorem fails_ofExcept {result : Except Failure α} (h : ∀ failure, result = .error failure →
    thrown failure) : (ofExcept result).Fails thrown refused := by
  intro failure hfailure
  cases result with
  | ok a => cases hfailure
  | error _ =>
    cases hfailure
    exact h _ rfl

theorem Fails.mono {x : Attempt α} (h : x.Fails thrown refused)
    (hthrown : ∀ failure, thrown failure → thrown' failure)
    (hrefused : ∀ failure, refused failure → refused' failure) : x.Fails thrown' refused' :=
  Program.Halts.mono h (fun _ _ => id) hthrown hrefused

theorem fails_bind {x : Attempt α} {f : α → Attempt β} (h : x.Fails thrown refused)
    (hf : ∀ a, (f a).Fails thrown refused) : (x >>= f).Fails thrown refused := by
  unfold Fails
  rw [ExceptT.run_bind]
  refine Program.halts_bind h (fun result failure hfailure => ?_) fun result hfailure => ?_
  · cases result with
    | ok a => cases hfailure
    | error _ =>
      cases hfailure
      exact ⟨_, _, rfl, rfl, id, id⟩
  · cases result with
    | ok a => exact hf a
    | error _ => cases hfailure

theorem fails_request {role : Role} {operation : Operation} {name : String} {r : Request}
    (h : ∀ cause, refused (.store role operation name cause)) :
    (request role operation name (Program.ask r)).Fails thrown refused := by
  refine ⟨fun cause => .inl ⟨_, _, rfl, rfl, h cause⟩, fun value failure hfailure => ?_⟩
  cases hfailure

theorem fails_within {wrap : Failure → Failure} {x : Attempt α} (h : x.Fails thrown refused)
    (hthrown : ∀ failure, thrown failure → thrown' (wrap failure))
    (hrefused : ∀ failure, refused failure → refused' (wrap failure)) :
    (within wrap x).Fails thrown' refused' := by
  refine Program.halts_bind h (fun result failure hfailure => ?_) fun result hfailure => ?_
  · cases result with
    | ok a => cases hfailure
    | error _ =>
      cases hfailure
      exact ⟨_, _, rfl, rfl, hthrown _, hrefused _⟩
  · cases result with
    | ok a => exact fails_pure a
    | error _ => cases hfailure

theorem halts_within {holds holds' : Failure → Prop} {wrap : Failure → Failure} {x : Attempt α}
    (h : x.Halts holds) (hwrap : ∀ failure, holds failure → holds' (wrap failure)) :
    (within wrap x).Halts holds' :=
  fails_within h hwrap hwrap

theorem fails_forM {l : List β} {f : β → Attempt PUnit} (h : ∀ b, (f b).Fails thrown refused) :
    (l.forM f).Fails thrown refused := by
  induction l with
  | nil => exact fails_pure _
  | cons b rest ih => exact fails_bind (h b) fun _ => ih

end Fails

end Attempt

/-! ## Dependents -/

section Resolve

theorem SecretRef.read_halts (ref : SecretRef) (ns : String) :
    (ref.read ns).Halts fun _ => True := by
  refine Attempt.fails_bind (Attempt.fails_request fun _ => trivial) fun found => ?_
  cases found with
  | none => exact Attempt.fails_throw trivial
  | some secret => exact Attempt.fails_ofExcept fun _ _ => trivial

theorem resolveValue_halts {form : ValueForm α} {ns : String} {literal : α}
    {ref : Option SecretRef} : (resolveValue form ns literal ref).Halts fun _ => True := by
  unfold resolveValue
  cases setRef? ref with
  | none => exact Attempt.fails_pure _
  | some set =>
    refine Attempt.fails_bind (set.read_halts ns) fun raw => ?_
    cases form.parse raw with
    | none => exact Attempt.fails_throw trivial
    | some value => exact Attempt.fails_pure _

theorem resolvePassword_halts {ns : String} {db : DatabaseSettings} :
    (Connection.resolvePassword ns db).Halts fun _ => True := by
  unfold Connection.resolvePassword
  cases setRef? db.passwordRef with
  | none =>
    cases givenText? db.password with
    | none => exact Attempt.fails_throw trivial
    | some literal => exact Attempt.fails_pure _
  | some set => exact set.read_halts ns

theorem Connection.resolve_halts (app : App) :
    (Connection.resolve app).Halts
      fun failure => ∃ field cause, failure = .connection field cause := by
  unfold Connection.resolve
  refine Attempt.fails_bind (Attempt.halts_within resolveValue_halts fun _ _ => ⟨_, _, rfl⟩)
    fun host => ?_
  refine Attempt.fails_bind (Attempt.halts_within resolveValue_halts fun _ _ => ⟨_, _, rfl⟩)
    fun port => ?_
  refine Attempt.fails_bind (Attempt.halts_within resolveValue_halts fun _ _ => ⟨_, _, rfl⟩)
    fun user => ?_
  refine Attempt.fails_bind (Attempt.halts_within resolvePassword_halts fun _ _ => ⟨_, _, rfl⟩)
    fun password => ?_
  refine Attempt.fails_bind (Attempt.halts_within resolveValue_halts fun _ _ => ⟨_, _, rfl⟩)
    fun name => ?_
  refine Attempt.fails_bind (Attempt.halts_within resolveValue_halts fun _ _ => ⟨_, _, rfl⟩)
    fun ssl => ?_
  refine Attempt.fails_bind (Attempt.halts_within resolveValue_halts fun _ _ => ⟨_, _, rfl⟩)
    fun maxConn => ?_
  exact Attempt.fails_pure _

end Resolve

namespace Step

theorem desired_halts (d : Step) (app : App) (live : Option (Object d.kind)) :
    (d.dependent.desired app live).Halts (Failure.Lone false) := by
  cases d with
  | adminSecret fresh => cases live <;> exact Attempt.fails_pure _
  | configSecret password =>
    have hresolve : (Connection.resolve app).Halts (Failure.Lone false) := by
      have hlone : ∀ failure, (∃ field cause, failure = Failure.connection field cause) →
          failure.Lone false := by
        rintro _ ⟨field, cause, rfl⟩
        exact ⟨rfl, rfl⟩
      exact (Connection.resolve_halts app).mono hlone hlone
    exact Attempt.fails_bind hresolve fun db => Attempt.fails_pure _
  | filestore =>
    change (ite _ _ _ : Attempt _).Halts _
    split
    · exact Attempt.fails_throw ⟨rfl, rfl⟩
    · exact Attempt.fails_pure _
  | deployment => exact Attempt.fails_pure _
  | service part => exact Attempt.fails_pure _

theorem lone_store (d : Step) (operation : Operation) (name : String) (cause : StoreError) :
    (Failure.store d.dependent.role operation name cause).Lone false := by
  refine ⟨rfl, ?_⟩
  cases d with
  | service part => cases part <;> rfl
  | _ => rfl

theorem converge_halts (d : Step) (app : App) :
    (d.dependent.converge app).Halts (Failure.Lone false) := by
  unfold Dependent.converge
  refine Attempt.fails_bind (Attempt.fails_request (d.lone_store _ _)) fun live => ?_
  refine Attempt.fails_bind (d.desired_halts app live) fun desired => ?_
  cases live with
  | none =>
    exact Attempt.fails_bind (Attempt.fails_request (d.lone_store _ _))
      fun _ => Attempt.fails_pure _
  | some live =>
    simp only
    split
    · exact Attempt.fails_pure _
    · exact Attempt.fails_bind (Attempt.fails_request (d.lone_store _ _))
        fun _ => Attempt.fails_pure _

end Step

/-! ## The init job -/

namespace InitJob

/-- A job may be there already when it is to be started. -/
def Taken (r : Request) (cause : StoreError) : Prop :=
  ∃ ns job message, r = .create .job ns job ∧ cause = .conflict message

section Halts

theorem remove_fails (ns job : String) :
    (remove ns job).Fails (fun _ => False) (Failure.Lone true) := by
  unfold remove
  refine Attempt.fails_bind (Attempt.fails_request fun _ => ⟨rfl, rfl⟩) fun pods => ?_
  refine Attempt.fails_bind (Attempt.fails_forM fun pod => ?_) fun _ => ?_
  · exact Attempt.fails_request fun _ => ⟨rfl, rfl⟩
  · exact Attempt.fails_request fun _ => ⟨rfl, rfl⟩

theorem remove_halts (ns job : String) : (remove ns job).Halts (Failure.Lone true) :=
  (remove_fails ns job).mono (fun _ => False.elim) fun _ => id

theorem reusable_halts (ns name : String) (modules : List String) :
    (reusable ns name modules).Halts (Failure.Lone true) := by
  unfold reusable
  refine Attempt.fails_bind (Attempt.fails_request fun _ => ⟨rfl, rfl⟩) fun found => ?_
  cases found with
  | none => exact Attempt.fails_pure _
  | some job =>
    simp only
    split
    · exact Attempt.fails_pure _
    · exact Attempt.fails_bind (remove_halts ns name) fun _ => Attempt.fails_pure _

/-- A run of the tracker ends at the first refusal, unless a job is there already. Its failures are
about the init job. -/
def Tracks (p : Program Outcome) : Prop :=
  p.Halts Outcome.failure Taken (Failure.Lone true) (Failure.Lone true)

theorem tracks_bind {x : Attempt α} {f : Except Failure α → Program Outcome}
    (h : x.Halts (Failure.Lone true))
    (herror : ∀ failure, ∃ outcome, f (.error failure) = .done outcome ∧
      outcome.failure = some failure) (hok : ∀ a, Tracks (f (.ok a))) : Tracks (x.run >>= f) := by
  refine Program.halts_bind (Program.Halts.mono h (fun _ _ h => h.elim) (fun _ => id) fun _ => id)
    (fun result failure hfailure => ?_) fun result hfailure => ?_
  · cases result with
    | ok a => cases hfailure
    | error _ =>
      cases hfailure
      obtain ⟨outcome, houtcome, hsame⟩ := herror failure
      exact ⟨outcome, failure, houtcome, hsame, id, id⟩
  · cases result with
    | ok a => exact hok a
    | error _ => cases hfailure

theorem startIfNeeded_halts (poll : Nat) (app : App) (installed : List String)
    (updates : List StatusUpdate) : Tracks (startIfNeeded poll app installed updates) := by
  unfold startIfNeeded
  split
  · exact Program.halts_pure (by simp)
  refine ⟨fun cause => ?_, fun job => Program.halts_pure (by simp [started])⟩
  cases cause with
  | request message => exact .inl ⟨_, _, rfl, rfl, ⟨rfl, rfl⟩⟩
  | conflict message =>
    refine .inr ⟨⟨_, _, message, rfl, rfl⟩, ?_⟩
    refine tracks_bind (reusable_halts _ _ _) (fun failure => ⟨_, rfl, rfl⟩) fun reuse => ?_
    cases reuse <;> exact Program.halts_pure (by simp [started])

theorem advance_halts (poll : Nat) (ns : String) (record : JobRecord) (job : Job) :
    Tracks (advance poll ns record job) := by
  unfold advance
  cases job.phase with
  | pending => exact Program.halts_pure (by simp)
  | running => exact Program.halts_pure (by simp)
  | succeeded =>
    exact tracks_bind (remove_halts _ _) (fun failure => ⟨_, rfl, rfl⟩)
      fun done => Program.halts_pure (by simp [Outcome.after])
  | failed =>
    exact tracks_bind (remove_halts _ _) (fun failure => ⟨_, rfl, rfl⟩)
      fun done => Program.halts_pure (by simp [Outcome.after])

theorem track_halts (poll : Nat) (app : App) (status : App.Status) :
    Tracks (track poll app status) := by
  unfold track
  simp only
  split
  · exact startIfNeeded_halts ..
  refine ⟨fun cause => .inl ⟨_, _, rfl, rfl, ⟨rfl, rfl⟩⟩, fun found => ?_⟩
  cases found with
  | none => exact startIfNeeded_halts ..
  | some job => exact advance_halts ..

end Halts

end InitJob

end OdooKeeper
