import Mathlib.Data.List.Induction
import OdooKeeper.App.Sample
import OdooKeeper.Proofs.Converging

/-! # Histories of a store

What clients can do with a store, in any order. A version is given out only once, so whatever bears it
is what it was given to. A client that replaces what it has read loses no change that others have made
meanwhile: it is refused. -/

namespace OdooKeeper

variable {k : Kind} {key : ObjectKey} {s s' t : Store}

/-! ## Operations -/

/-- What a client can do with a store. -/
inductive Store.Operation where
  | insert {k : Kind} (object : Object k)
  | modify {k : Kind} (ns name : String) (change : Object k → Object k)
  | request (r : Request)
  | refuse (verb : Verb) (kind : Kind)
  | heal
  | clearCalls

def Store.operate (s : Store) : Operation → Store
  | .insert object => s.insert object
  | .modify ns name change => s.modify _ ns name change
  | .request r => (s.serve r).2
  | .refuse verb kind => s.refuse verb kind
  | .heal => s.heal
  | .clearCalls => { s with calls := [] }

/-- The store after operations on an empty one. -/
def Store.after (ops : List Operation) : Store := ops.foldl operate {}

/-- The operation renames nothing that is stored. -/
def Store.Operation.KeepsNames : Operation → Prop
  | .modify _ _ change => ∀ object, (change object).name = object.name
  | _ => True

def Store.Leads (s s' : Store) : Prop := ∃ ops : List Operation, s' = ops.foldl operate s

theorem Objects.get?_put_cases (o : Objects) {k' : Kind} (key' : ObjectKey) (object : Object k')
    (k : Kind) (key : ObjectKey) :
    (o.put key' object).get? k key = o.get? k key ∨ ∃ live,
      (o.put key' object).get? k key = some live ∧
        live.metadata.resourceVersion = object.metadata.resourceVersion := by
  by_cases hplace : (k', key') = (k, key)
  · cases hplace
    exact .inr ⟨object, (get?_put_self ..).trans (if_pos rfl), rfl⟩
  · exact .inl (get?_put_elsewhere o object hplace)

theorem Objects.get?_erase_cases (o : Objects) (k' : Kind) (key' : ObjectKey) (k : Kind)
    (key : ObjectKey) :
    (o.erase k' key').get? k key = o.get? k key ∨ (o.erase k' key').get? k key = none := by
  by_cases hplace : (k', key') = (k, key)
  · cases hplace
    exact .inr ((get?_erase_self ..).trans (if_pos rfl))
  · exact .inl (get?_erase_elsewhere o hplace)

namespace Store

/-- An operation leaves what is at a key alone, takes it away, or puts something there under a version
that has not been given out before. -/
theorem operate_cases (s : Store) (op : Operation) (k : Kind) (key : ObjectKey) :
    (s.operate op).objects.get? k key = s.objects.get? k key ∨
      (s.operate op).objects.get? k key = none ∨
      ∃ live, (s.operate op).objects.get? k key = some live ∧
        live.metadata.resourceVersion = some (versionText (s.version + 1)) := by
  cases op with
  | insert object => exact (Objects.get?_put_cases ..).imp id .inr
  | modify ns name change =>
    simp only [operate, Store.modify]
    cases s.object? _ ns name with
    | none => exact .inl rfl
    | some object => exact (Objects.get?_put_cases ..).imp id .inr
  | request r =>
    rcases serve_cases s r with ⟨e, hs⟩ | ⟨-, hs⟩ <;> rw [operate, hs]
    · exact .inl rfl
    · rcases perform_cases (s.recording r) r with hp | ⟨k', key', object, cleared, v, -, -, hp⟩ |
        ⟨k', key', cleared, v, -, -, hp⟩ <;> rw [hp]
      · exact .inl rfl
      · exact (Objects.get?_put_cases ..).imp id .inr
      · exact (Objects.get?_erase_cases ..).imp id .inl
  | refuse verb kind => exact .inl rfl
  | heal => exact .inl rfl
  | clearCalls => exact .inl rfl

theorem operate_version_le (s : Store) (op : Operation) : s.version ≤ (s.operate op).version := by
  cases op with
  | insert object => exact Nat.le_succ _
  | modify ns name change =>
    simp only [operate, Store.modify]
    cases s.object? _ ns name with
    | none => exact Nat.le_refl _
    | some object => exact Nat.le_succ _
  | request r => exact s.serve_version_le r
  | refuse verb kind => exact Nat.le_refl _
  | heal => exact Nat.le_refl _
  | clearCalls => exact Nat.le_refl _

theorem WellFormed.operate (hs : s.WellFormed) (op : Operation) : (s.operate op).WellFormed := by
  cases op with
  | insert object => exact hs.insert object
  | modify ns name change => exact hs.modify _ ns name change
  | request r => exact hs.serve r
  | refuse verb kind => exact ⟨hs.fits, hs.distinct⟩
  | heal => exact ⟨hs.fits, hs.distinct⟩
  | clearCalls => exact ⟨hs.fits, hs.distinct⟩

theorem Keyed.operate {op : Operation} (hs : s.Keyed) (hop : op.KeepsNames) :
    (s.operate op).Keyed := by
  cases op with
  | insert object => exact hs.insert object
  | modify ns name change => exact hs.modify ns name hop
  | request r => exact hs.serve r
  | refuse verb kind => exact hs
  | heal => exact hs
  | clearCalls => exact hs

/-- What every operation keeps holds of all stores that operations lead to. -/
theorem Leads.keeps (inv : Store → Prop) (h : s.Leads s')
    (hop : ∀ s op, inv s → inv (s.operate op)) (hs : inv s) : inv s' := by
  obtain ⟨ops, rfl⟩ := h
  induction ops generalizing s with
  | nil => exact hs
  | cons op rest ih => exact ih (hop s op hs)

theorem Leads.wellFormed (h : s.Leads s') (hs : s.WellFormed) : s'.WellFormed :=
  h.keeps WellFormed (fun _ op hs => hs.operate op) hs

theorem after_append (earlier later : List Operation) :
    after (earlier ++ later) = later.foldl operate (after earlier) :=
  List.foldl_append

theorem after_wellFormed (ops : List Operation) : (after ops).WellFormed :=
  Leads.wellFormed ⟨ops, rfl⟩ wellFormed_empty

theorem after_keyed {ops : List Operation} (hops : ∀ op ∈ ops, op.KeepsNames) :
    (after ops).Keyed := by
  induction ops using List.reverseRecOn with
  | nil => exact keyed_empty
  | append_singleton earlier op ih =>
    obtain ⟨hearlier, hop⟩ := List.forall_mem_append.mp hops
    rw [after_append]
    exact (ih hearlier).operate (hop op (List.mem_singleton.mpr rfl))

theorem Leads.refl (s : Store) : s.Leads s := ⟨[], rfl⟩

theorem Leads.trans (h : s.Leads s') (ht : s'.Leads t) : s.Leads t := by
  obtain ⟨ops, rfl⟩ := h
  obtain ⟨ops', rfl⟩ := ht
  exact ⟨ops ++ ops', List.foldl_append.symm⟩

theorem leads_serve (s : Store) (r : Request) : s.Leads (s.serve r).2 := ⟨[.request r], rfl⟩

/-! ## Versions -/

/-- A version has been given out, and what bears it is of some sort. -/
def Bearers (s : Store) (k : Kind) (n : Nat) (sort : ObjectKey → Object k → Prop) : Prop :=
  n ≤ s.version ∧ ∀ key, ∀ object : Object k, s.objects.get? k key = some object →
    object.metadata.resourceVersion = some (versionText n) → sort key object

theorem Bearers.operate {n : Nat} {sort : ObjectKey → Object k → Prop} (h : s.Bearers k n sort)
    (op : Operation) : (s.operate op).Bearers k n sort := by
  refine ⟨Nat.le_trans h.1 (s.operate_version_le op), fun key object hobject hversion => ?_⟩
  rcases s.operate_cases op k key with hsame | hnone | ⟨live, hlive, hnew⟩
  · exact h.2 key object (hsame.symm.trans hobject) hversion
  · rw [hnone] at hobject
    cases hobject
  · obtain rfl : live = object := Option.some.inj (hlive.symm.trans hobject)
    have hn := versionText_inj (Option.some.inj (hversion.symm.trans hnew))
    have hle := h.1
    omega

theorem Bearers.leads {n : Nat} {sort : ObjectKey → Object k → Prop} (h : s.Bearers k n sort)
    (hleads : s.Leads s') : s'.Bearers k n sort :=
  hleads.keeps (fun u => u.Bearers k n sort) (fun _ op hu => hu.operate op) h

theorem WellFormed.bearers {live : Object k} (hs : s.WellFormed)
    (h : s.objects.get? k key = some live) :
    ∃ n, live.metadata.resourceVersion = some (versionText n) ∧
      s.Bearers k n fun key' object => key' = key ∧ object = live := by
  obtain ⟨n, hn, hversion⟩ := (hs.fits _ _ _ h).numbered
  refine ⟨n, hversion, hn, fun key' object hobject hsame => ?_⟩
  obtain rfl := hs.distinct _ _ _ _ _ hobject h (hsame.trans hversion.symm)
  exact ⟨rfl, Option.some.inj (hobject.symm.trans h)⟩

/-- An object that has been changed, taken away or made anew never bears its version again, there or
anywhere else. -/
theorem WellFormed.version_gone {live : Object k} {mid : Store} (hs : s.WellFormed)
    (h : s.objects.get? k key = some live) (hmid : s.Leads mid) (ht : mid.Leads t)
    (hgone : mid.objects.get? k key ≠ some live) {key' : ObjectKey} {object : Object k}
    (hobject : t.objects.get? k key' = some object) :
    object.metadata.resourceVersion ≠ live.metadata.resourceVersion := by
  obtain ⟨n, hversion, hbearers⟩ := hs.bearers h
  have hnone : mid.Bearers k n fun _ _ => False := by
    obtain ⟨hn, hbearers⟩ := hbearers.leads hmid
    refine ⟨hn, fun key' object hobject hsame => hgone ?_⟩
    obtain ⟨rfl, rfl⟩ := hbearers key' object hobject hsame
    exact hobject
  rw [hversion]
  exact (hnone.leads ht).2 key' object hobject

/-! ## Unchanged objects -/

/-- The object at a key has been the same ever since the history gave out its version. -/
def Unchanged (ops : List Operation) (k : Kind) (key : ObjectKey) (version : String) : Prop :=
  ∃ earlier op later n live, ops = earlier ++ op :: later ∧
    version = versionText n ∧ (after earlier).version < n ∧ n ≤ (after (earlier ++ [op])).version ∧
    live.metadata.resourceVersion = some version ∧
    ∀ more, more <+: later → (after (earlier ++ op :: more)).objects.get? k key = some live

theorem unchanged_of_stored {ops : List Operation} {live : Object k}
    (h : (after ops).objects.get? k key = some live) :
    ∃ version, live.metadata.resourceVersion = some version ∧ Unchanged ops k key version := by
  induction ops using List.reverseRecOn with
  | nil => cases k <;> cases h
  | append_singleton ops op ih =>
    have hafter : after (ops ++ [op]) = (after ops).operate op := after_append ops [op]
    rcases (after ops).operate_cases op k key with hsame | hnone | ⟨live', hlive, hnew⟩
    · -- The operation has nothing to do with the object.
      obtain ⟨version, hversion, earlier, op', later, n, live', rfl, hn, hfresh, hgiven, hbears,
        hkept⟩ := ih (by rw [← hsame, ← hafter]; exact h)
      refine ⟨version, hversion, earlier, op', later ++ [op], n, live', by simp, hn, hfresh, hgiven,
        hbears, fun more hmore => ?_⟩
      rcases List.prefix_concat_iff.mp hmore with rfl | hmore
      · rw [show earlier ++ op' :: (later ++ [op]) = (earlier ++ op' :: later) ++ [op] by simp,
          hafter, hsame]
        exact hkept later (List.prefix_refl _)
      · exact hkept more hmore
    · rw [hafter, hnone] at h
      cases h
    · rw [hafter, hlive] at h
      cases h
      have hfits := (after_wellFormed (ops ++ [op])).fits k key live (hafter ▸ hlive)
      obtain ⟨n, hn, hbears⟩ := hfits.numbered
      obtain rfl := versionText_inj (Option.some.inj (hbears.symm.trans hnew))
      refine ⟨_, hnew, ops, op, [], _, live, rfl, rfl, Nat.lt_succ_self _, hn, hnew, ?_⟩
      intro more hmore
      rw [List.prefix_nil.mp hmore, hafter]
      exact hlive

theorem unchanged_iff {ops : List Operation} {version : String} :
    Unchanged ops k key version ↔ ∃ live, (after ops).objects.get? k key = some live ∧
      live.metadata.resourceVersion = some version := by
  constructor
  · rintro ⟨earlier, op, later, n, live, rfl, -, -, -, hbears, hkept⟩
    exact ⟨live, hkept later (List.prefix_refl _), hbears⟩
  · rintro ⟨live, hlive, hbears⟩
    obtain ⟨version', hversion, hunchanged⟩ := unchanged_of_stored hlive
    obtain rfl : version' = version := Option.some.inj (hversion.symm.trans hbears)
    exact hunchanged

/-- A replacement under a version is accepted exactly when the object still bears it. -/
theorem replace_accepted_iff {ns version : String} {object : Object k}
    (hversion : object.metadata.resourceVersion = some version) :
    (∃ stored, (s.serve (.replace k ns object)).1 = .ok stored) ↔
      ¬ s.Refuses (.replace k ns object) ∧
        ∃ live, s.objects.get? k ⟨ns, object.name⟩ = some live ∧
          live.metadata.resourceVersion = some version := by
  constructor
  · rintro ⟨stored, hstored⟩
    obtain ⟨live, hlive, hcurrent, -⟩ := serve_replace_ok hstored
    exact ⟨not_refuses_of_ok hstored, live, hlive, version_of_current hversion hcurrent⟩
  · rintro ⟨hgranted, live, hlive, hbears⟩
    exact serve_replace_granted hlive (hversion.trans hbears.symm) hgranted

theorem replaceStatus_accepted_iff {version : String} {app : App}
    (hversion : app.metadata.resourceVersion = some version) :
    (∃ stored, (s.serve (.replaceStatus app)).1 = .ok stored) ↔
      ¬ s.Refuses (.replaceStatus app) ∧
        ∃ live : App, s.objects.get? .app app.key = some live ∧
          live.metadata.resourceVersion = some version := by
  constructor
  · rintro ⟨stored, hstored⟩
    obtain ⟨live, hlive, hcurrent, -⟩ := serve_status_ok hstored
    exact ⟨not_refuses_of_ok hstored, live, hlive, version_of_current hversion hcurrent⟩
  · rintro ⟨hgranted, live, hlive, hbears⟩
    exact serve_status_granted hlive (hversion.trans hbears.symm) hgranted

end Store

/-! ## Dependents among clients -/

theorem Request.verb_ne_of_reads {r : Request} (h : r.changes? = none) :
    r.call.verb ≠ .replace := by
  cases r with
  | replace => cases h
  | _ => simp [call]

theorem Program.Executes.leads {α : Type} {p : Program α} {log : List Event} {a : α} {e e' : Event}
    (h : p.Executes Store.Leads s (e :: log) a t) (he : e' ∈ log) : e.store.Leads e'.store := by
  cases h with
  | @call r next s s' t log a before rest =>
    have hserve : s'.Leads (s'.serve r).2 := s'.leads_serve r
    exact hserve.trans ((rest.keeps (fun _ => True) ((s'.serve r).2.Leads) (fun _ _ => trivial)
      (fun _ _ hleads h => h.trans hleads) (fun u r _ h => h.trans (u.leads_serve r))
      (.refl _)).1 e' he).1

/-- A dependent that is to replace the object it has read, while the object has been changed, taken
away or made anew, is refused, and all objects are left as they are. -/
theorem Step.replace_overtaken {d : Step} {app : App} {log : List Event}
    {result : Except Failure (Converged d.kind)} (hs : s.WellFormed)
    (h : (d.dependent.converge app).run.Executes Store.Leads s log result t) {e : Event}
    (he : e ∈ log) (hreplace : e.request.call.verb = .replace) :
    ∃ u live reads, log = ⟨u, d.dependent.reading app⟩ :: (reads ++ [e]) ∧
      u.objects.get? d.kind (d.dependent.place app) = some live ∧ u.Leads e.store ∧
      ∀ mid, u.Leads mid → mid.Leads e.store →
        mid.objects.get? d.kind (d.dependent.place app) ≠ some live →
        (∃ cause, result = .error (.store d.dependent.role .update (d.dependent.name app) cause)) ∧
          t.objects = e.store.objects := by
  rcases d.converge_cases h he with hreads | ⟨object, hcreate, -⟩ | hreplaces
  · exact absurd hreplace (Request.verb_ne_of_reads hreads)
  · rw [hcreate] at hreplace
    cases hreplace
  cases hreplaces with
  | @last u v w live desired object reads before read desires meanwhile changes name version =>
    have hleads : u.Leads w := h.leads (List.mem_append_right reads List.mem_cons_self)
    refine ⟨u, live, reads, rfl, read, hleads, fun mid hmid hw hgone => ?_⟩
    cases hanswer : (w.serve (.replace d.kind app.space object)).1 with
    | error cause =>
      refine ⟨⟨cause, rfl⟩, ?_⟩
      rw [Store.serve_error hanswer, Store.recording_objects]
    | ok stored =>
      -- What is in its place would have to bear the version of the object that was read.
      obtain ⟨old, hold, hcurrent, -⟩ := Store.serve_replace_ok hanswer
      have hu : u.WellFormed := before.wellFormed hs
      obtain ⟨n, hn, -⟩ := hu.bearers read
      have hbears := Store.version_of_current (version.trans hn) hcurrent
      exact absurd (hbears.trans hn.symm) (hu.version_gone read hmid hw hgone hold)

/-- What replaces an object under a version is accepted exactly when the object has been the same
since that was given out. So no client loses a change of another, and no pass does. -/
theorem no_change_lost (ops : List Store.Operation) :
    (∀ k ns version, ∀ object : Object k, object.metadata.resourceVersion = some version →
      ((∃ stored, ((Store.after ops).serve (.replace k ns object)).1 = .ok stored) ↔
        ¬ (Store.after ops).Refuses (.replace k ns object) ∧
          Store.Unchanged ops k ⟨ns, object.name⟩ version)) ∧
    (∀ version, ∀ app : App, app.metadata.resourceVersion = some version →
      ((∃ stored, ((Store.after ops).serve (.replaceStatus app)).1 = .ok stored) ↔
        ¬ (Store.after ops).Refuses (.replaceStatus app) ∧
          Store.Unchanged ops .app app.key version)) ∧
    (∀ r cause, ((Store.after ops).serve r).1 = .error cause →
      ((Store.after ops).serve r).2.objects = (Store.after ops).objects) ∧
    ∀ (d : Step) app log result t,
      (d.dependent.converge app).run.Executes Store.Leads (Store.after ops) log result t →
      ∀ e ∈ log, e.request.call.verb = .replace →
        ∃ u live reads, log = ⟨u, d.dependent.reading app⟩ :: (reads ++ [e]) ∧
          u.objects.get? d.kind (d.dependent.place app) = some live ∧ u.Leads e.store ∧
          ∀ mid, u.Leads mid → mid.Leads e.store →
            mid.objects.get? d.kind (d.dependent.place app) ≠ some live →
            (∃ cause,
              result = .error (.store d.dependent.role .update (d.dependent.name app) cause)) ∧
            t.objects = e.store.objects := by
  refine ⟨fun k ns version object hversion => ?_, fun version app hversion => ?_,
    fun r cause hrefused => ?_, fun d app log result t hexecutes e he hreplace => ?_⟩
  · rw [Store.unchanged_iff]
    exact Store.replace_accepted_iff hversion
  · rw [Store.unchanged_iff]
    exact Store.replaceStatus_accepted_iff hversion
  · rw [Store.serve_error hrefused, Store.recording_objects]
  · exact Step.replace_overtaken (Store.after_wellFormed ops) hexecutes he hreplace

namespace Sample

/-- A store with the sample app, the secret that it reads and its config secret, which is empty. -/
def unconfigured : List Store.Operation :=
  [.insert (App.sample "shop" "web"),
    .insert (Secret.ofTexts "web" "db-creds" [("password", "hunter2")]),
    .insert (Secret.ofTexts "web" "shop-config" [])]

def emptying : Store.Operation :=
  .modify "web" "shop-config" fun secret : Secret => { secret with content := {} }

/-- The config secret of the sample app is brought to its desired state, but it is emptied before it
is written. -/
def overtaken : List Event × Except Failure (Converged .secret) × Store :=
  (((Step.configSecret "s3cret").dependent.converge (App.sample "shop" "web")).run).play
    [id, id, fun s => s.operate emptying] (Store.after unconfigured)

end Sample

theorem no_change_lost_sample :
    ∃ e ∈ Sample.overtaken.1, e.request.call.verb = .replace ∧
      (∃ cause, Sample.overtaken.2.1 =
        .error (.store .configSecret .update "shop-config" cause)) ∧
      Sample.overtaken.2.2.objects = e.store.objects := by
  have hfound : (Sample.overtaken.1.find? fun e => e.request.call.verb = .replace).any fun e =>
      Sample.overtaken.1.head?.all fun first =>
        first.store.objects.get? .secret ⟨"web", "shop-config"⟩ ≠
          e.store.objects.get? .secret ⟨"web", "shop-config"⟩ := by decide +kernel
  obtain ⟨e, he, hchanged⟩ := (Option.any_eq_true ..).mp hfound
  have hreplace : e.request.call.verb = .replace := by simpa using List.find?_some he
  replace he := List.mem_of_find?_eq_some he
  have hclients : ∀ f ∈ [id, id, fun s => s.operate Sample.emptying], ∀ s, Store.Leads s (f s) := by
    simp only [List.forall_mem_cons]
    exact ⟨.refl, .refl, fun s => ⟨[Sample.emptying], rfl⟩, by simp⟩
  have hexecutes := Program.executes_play Store.Leads.refl _ hclients
    ((Step.configSecret "s3cret").dependent.converge (App.sample "shop" "web")).run
    (Store.after Sample.unconfigured)
  obtain ⟨u, live, reads, hlog, hread, hleads, hrefused⟩ :=
    (no_change_lost Sample.unconfigured).2.2.2 _ _ _ _ _ hexecutes e he hreplace
  refine ⟨e, he, hreplace, hrefused e.store hleads (.refl _) fun hsame => ?_⟩
  change Sample.overtaken.1 = _ at hlog
  rw [hlog] at hchanged
  exact of_decide_eq_true hchanged (hread.trans hsame.symm)

end OdooKeeper
