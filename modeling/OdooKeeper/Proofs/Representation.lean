import OdooKeeper.Proofs.Effects
import OdooKeeper.Proofs.Histories

/-! # What a store keeps

What holds of a store after any operations on an empty one. Its objects bear different versions, all of
which it has given out, and each has the namespace it is kept in and an identity. An object gets a new
version, a greater one, exactly when it is put there or when other content is accepted in its place; its
identity stays for as long as the object does. What fails changes nothing. -/

namespace OdooKeeper

namespace Store

variable {s s' : Store} {op : Operation} {k : Kind} {key : ObjectKey} {n : Nat}

/-! ## Places -/

def Operation.target? : Operation → Option (Kind × ObjectKey)
  | @insert k object => some (k, ⟨object.metadata.space, object.name⟩)
  | @modify k ns name _ => some (k, ⟨ns, name⟩)
  | .request r => r.target?
  | .refuse .. => none
  | .heal => none
  | .clearCalls => none

theorem operate_elsewhere (s : Store) (h : op.target? ≠ some (k, key)) :
    (s.operate op).objects.get? k key = s.objects.get? k key := by
  cases op with
  | insert object => exact Objects.get?_put_elsewhere _ _ fun hsame => h (congrArg some hsame)
  | @modify k' ns name change =>
    rw [operate, Store.modify]
    cases s.object? k' ns name with
    | none => rfl
    | some object => exact Objects.get?_put_elsewhere _ _ fun hsame => h (congrArg some hsame)
  | request r => exact s.serve_elsewhere h
  | refuse => rfl
  | heal => rfl
  | clearCalls => rfl

/-! ## Versions and identities -/

theorem versionText_eq (n : Nat) : versionText n = toString n := rfl

/-- What every store is like that operations have made of an empty one. -/
structure Represented (s : Store) : Prop where
  numbered : ∀ k key, ∀ object : Object k, s.objects.get? k key = some object →
    ∃ n, 1 ≤ n ∧ n ≤ s.version ∧ object.metadata.resourceVersion = some (toString n)
  distinct : ∀ k k' key key', ∀ object : Object k, ∀ object' : Object k',
    s.objects.get? k key = some object → s.objects.get? k' key' = some object' →
    object.metadata.resourceVersion = object'.metadata.resourceVersion → k = k' ∧ key = key'
  ns : ∀ k key, ∀ object : Object k, s.objects.get? k key = some object →
    object.metadata.ns = some key.ns
  uid : ∀ k key, ∀ object : Object k, s.objects.get? k key = some object →
    object.metadata.uid.isSome

theorem represented_empty : ({} : Store).Represented := by
  refine ⟨fun k key object h => ?_, fun k k' key key' object object' h => ?_,
    fun k key object h => ?_, fun k key object h => ?_⟩ <;> cases k <;> cases h

/-- What is there after an operation has been there before, or is what the operation is about and bears
a version that is given out only now. -/
theorem Represented.old_or_new (hs : s.Represented) {object : Object k}
    (h : (s.operate op).objects.get? k key = some object) :
    s.objects.get? k key = some object ∨ op.target? = some (k, key) ∧
      object.metadata.resourceVersion = some (versionText (s.version + 1)) := by
  rcases s.operate_cases op k key with hkept | hnone | ⟨live, hlive, hnew⟩
  · exact .inl (hkept.symm.trans h)
  · rw [hnone] at h
    cases h
  · obtain rfl : live = object := Option.some.inj (hlive.symm.trans h)
    refine .inr ⟨?_, hnew⟩
    by_contra helse
    rw [s.operate_elsewhere helse] at h
    obtain ⟨n, -, hn, hversion⟩ := hs.numbered _ _ _ h
    have hsame := versionText_inj (Option.some.inj (hversion.symm.trans hnew))
    omega

theorem Represented.operate (hs : s.Represented) (hwell : s.WellFormed) (op : Operation) :
    (s.operate op).Represented := by
  have hfits := (hwell.operate op).fits
  refine ⟨fun k key object h => ?_, fun k k' key key' object object' h h' hsame => ?_,
    fun k key object h => (hfits k key object h).ns,
    fun k key object h => (hfits k key object h).uid⟩
  · obtain ⟨n, hn, hversion⟩ := (hfits k key object h).numbered
    refine ⟨n, ?_, hn, hversion⟩
    rcases hs.old_or_new h with hold | ⟨-, hnew⟩
    · obtain ⟨m, hm, -, hversion'⟩ := hs.numbered _ _ _ hold
      rwa [versionText_inj (Option.some.inj (hversion.symm.trans hversion'))]
    · rw [versionText_inj (Option.some.inj (hversion.symm.trans hnew))]
      omega
  · rcases hs.old_or_new h with hold | ⟨htarget, hnew⟩ <;>
      rcases hs.old_or_new h' with hold' | ⟨htarget', hnew'⟩
    · exact hs.distinct _ _ _ _ _ _ hold hold' hsame
    · exact absurd (hsame.trans hnew') (hwell.fits _ _ _ hold).version_ne
    · exact absurd (hsame.symm.trans hnew) (hwell.fits _ _ _ hold').version_ne
    · exact Prod.mk.inj (Option.some.inj (htarget.symm.trans htarget'))

theorem Represented.leads (hs : s.Represented) (hwell : s.WellFormed) (h : s.Leads s') :
    s'.Represented :=
  (h.keeps (fun u => u.WellFormed ∧ u.Represented)
    (fun _ op hu => ⟨hu.1.operate op, hu.2.operate hu.1 op⟩) ⟨hwell, hs⟩).2

/-! ## What operations do -/

def version? (s : Store) (k : Kind) (key : ObjectKey) : Option String :=
  (s.objects.get? k key).bind (·.metadata.resourceVersion)

/-- An operation puts an object at a key, or other content in the place of that of the object there. -/
inductive Renews (s : Store) : Operation → Kind → ObjectKey → Prop
  | insert {k : Kind} (object : Object k) :
    s.Renews (.insert object) k ⟨object.metadata.space, object.name⟩
  | modify {k : Kind} {ns name : String} {object : Object k} (change : Object k → Object k) :
    s.objects.get? k ⟨ns, name⟩ = some object → s.Renews (.modify ns name change) k ⟨ns, name⟩
  | create {k : Kind} {ns : String} {object stored : Object k} :
    (s.serve (.create k ns object)).1 = .ok stored →
    s.Renews (.request (.create k ns object)) k ⟨ns, object.name⟩
  | replace {k : Kind} {ns : String} {object stored : Object k} :
    (s.serve (.replace k ns object)).1 = .ok stored →
    (s.serve (.replace k ns object)).2.content? k ⟨ns, object.name⟩ ≠
      s.content? k ⟨ns, object.name⟩ →
    s.Renews (.request (.replace k ns object)) k ⟨ns, object.name⟩
  | replaceStatus {app stored : App} :
    (s.serve (.replaceStatus app)).1 = .ok stored →
    (s.serve (.replaceStatus app)).2.content? .app app.key ≠ s.content? .app app.key →
    s.Renews (.request (.replaceStatus app)) .app app.key

/-- An operation takes the object at a key away, or seeds it anew: whatever is asked to be put in its
place is, with the identity that it bears. -/
inductive Ends (s : Store) : Operation → Kind → ObjectKey → Prop
  | insert {k : Kind} (object : Object k) :
    s.Ends (.insert object) k ⟨object.metadata.space, object.name⟩
  | modify {k : Kind} (ns name : String) (change : Object k → Object k) :
    s.Ends (.modify ns name change) k ⟨ns, name⟩
  | delete {k : Kind} {ns name : String} {done : Unit} :
    (s.serve (.delete k ns name)).1 = .ok done →
    s.Ends (.request (.delete k ns name)) k ⟨ns, name⟩

theorem serve_replace_renewed {ns : String} {object stored : Object k}
    (h : (s.serve (.replace k ns object)).1 = .ok stored) :
    (s.serve (.replace k ns object)).2 = s.recording (.replace k ns object) ∨
      stored.metadata.resourceVersion = some (versionText (s.version + 1)) ∧
        (s.serve (.replace k ns object)).2.content? k ⟨ns, object.name⟩ ≠
          s.content? k ⟨ns, object.name⟩ := by
  have hgranted := not_refuses_of_ok h
  rw [serve_granted hgranted, perform] at h ⊢
  rcases replace_cases (s.recording (.replace k ns object)) ns object with
    ⟨-, hp⟩ | ⟨old, -, ⟨-, hp⟩ | ⟨-, -, hp⟩ | ⟨cleared, -, hcontent, hp⟩⟩ <;> rw [hp] at h ⊢
  · cases h
  · cases h
  · exact .inl rfl
  · cases h
    exact .inr ⟨rfl, hcontent⟩

theorem serve_status_renewed {app stored : App} (h : (s.serve (.replaceStatus app)).1 = .ok stored) :
    (s.serve (.replaceStatus app)).2 = s.recording (.replaceStatus app) ∨
      stored.metadata.resourceVersion = some (versionText (s.version + 1)) ∧
        (s.serve (.replaceStatus app)).2.content? .app app.key ≠ s.content? .app app.key := by
  have hgranted := not_refuses_of_ok h
  rw [serve_granted hgranted, perform] at h ⊢
  rcases replaceStatus_cases (s.recording (.replaceStatus app)) app with
    ⟨-, hp⟩ | ⟨old, hget, ⟨-, hp⟩ | ⟨-, -, hp⟩ | ⟨cleared, -, hstatus, hp⟩⟩ <;> rw [hp] at h ⊢
  · cases h
  · cases h
  · exact .inl rfl
  · cases h
    refine .inr ⟨rfl, fun hsame => hstatus ?_⟩
    change s.objects.get? .app app.key = some old at hget
    rw [content?_written, content?, hget, Option.map_some, Option.some.injEq, Prod.mk.injEq] at hsame
    have hcontent := congrArg (fun object : Object .app => object.content.status) hsame.1
    exact hcontent

theorem Renews.version? (h : s.Renews op k key) :
    (s.operate op).version? k key = some (toString (s.version + 1)) := by
  have hversion : ∀ {k key} {object : Object k}, (s.operate op).objects.get? k key = some object →
      object.metadata.resourceVersion = some (versionText (s.version + 1)) →
      (s.operate op).version? k key = some (toString (s.version + 1)) := by
    intro k key object hget hnew
    rw [Store.version?, hget, Option.bind_some, hnew, versionText_eq]
  cases h with
  | insert object => exact hversion (get?_putStamped ..) rfl
  | @modify k ns name object change hget =>
    have hput := s.get?_putStamped ⟨ns, name⟩ (change object)
    rw [← modify_of_get? hget] at hput
    exact hversion hput rfl
  | create hanswer =>
    obtain ⟨rfl, hget⟩ := serve_create_ok hanswer
    exact hversion ((hget _).trans (if_pos rfl)) rfl
  | replace hanswer hcontent =>
    obtain ⟨old, -, -, -, -, hget⟩ := serve_replace_ok hanswer
    rcases serve_replace_renewed hanswer with hkept | ⟨hnew, -⟩
    · exact absurd (by rw [hkept]; rfl) hcontent
    · exact hversion ((hget _).trans (if_pos rfl)) hnew
  | replaceStatus hanswer hcontent =>
    obtain ⟨old, -, -, -, -, hget⟩ := serve_status_ok hanswer
    rcases serve_status_renewed hanswer with hkept | ⟨hnew, -⟩
    · exact absurd (by rw [hkept]; rfl) hcontent
    · exact hversion ((hget _).trans (if_pos rfl)) hnew

/-- An operation leaves what is at a key alone, takes it away, or renews it. -/
theorem renews_cases (s : Store) (op : Operation) (k : Kind) (key : ObjectKey) :
    (s.operate op).objects.get? k key = s.objects.get? k key ∨
      ((s.operate op).objects.get? k key = none ∧ s.Ends op k key) ∨ s.Renews op k key := by
  by_cases htarget : op.target? = some (k, key)
  · cases op with
    | insert object =>
      cases htarget
      exact .inr (.inr (.insert object))
    | @modify k ns name change =>
      cases htarget
      cases hget : s.objects.get? k ⟨ns, name⟩ with
      | none => exact .inl (by rw [operate, Store.modify, object?, hget]; exact hget)
      | some object => exact .inr (.inr (.modify change hget))
    | request r =>
      cases hanswer : (s.serve r).1 with
      | error cause => exact .inl (by rw [operate, serve_error hanswer, recording_objects])
      | ok stored =>
        cases r with
        | get => cases htarget
        | list => cases htarget
        | create =>
          cases htarget
          exact .inr (.inr (.create hanswer))
        | delete =>
          cases htarget
          refine .inr (.inl ⟨?_, .delete hanswer⟩)
          rw [operate, serve_delete_ok hanswer, Objects.get?_erase_self, if_pos rfl]
        | replace =>
          cases htarget
          rcases serve_replace_renewed hanswer with hkept | ⟨-, hcontent⟩
          · exact .inl (by rw [operate, hkept, recording_objects])
          · exact .inr (.inr (.replace hanswer hcontent))
        | replaceStatus =>
          cases htarget
          rcases serve_status_renewed hanswer with hkept | ⟨-, hcontent⟩
          · exact .inl (by rw [operate, hkept, recording_objects])
          · exact .inr (.inr (.replaceStatus hanswer hcontent))
    | refuse => cases htarget
    | heal => cases htarget
    | clearCalls => cases htarget
  · exact .inl (s.operate_elsewhere htarget)

theorem Represented.version_le (hs : s.Represented) (h : s.version? k key = some (toString n)) :
    n ≤ s.version := by
  obtain ⟨object, hget, hversion⟩ := Option.bind_eq_some_iff.mp h
  obtain ⟨m, -, hm, hnumber⟩ := hs.numbered _ _ _ hget
  rwa [versionText_inj (Option.some.inj (hversion.symm.trans hnumber))]

/-- Exactly the renewed objects bear versions that they did not bear before. -/
theorem Represented.renews_iff (hs : s.Represented) (op : Operation) (k : Kind) (key : ObjectKey) :
    s.Renews op k key ↔ ∃ version, (s.operate op).version? k key = some version ∧
      s.version? k key ≠ some version := by
  constructor
  · intro h
    refine ⟨_, h.version?, fun hsame => ?_⟩
    have hle := hs.version_le hsame
    omega
  · rintro ⟨version, hversion, hnew⟩
    rcases s.renews_cases op k key with hsame | ⟨hnone, -⟩ | h
    · rw [Store.version?, hsame] at hversion
      exact absurd hversion hnew
    · rw [Store.version?, hnone] at hversion
      cases hversion
    · exact h

/-! ## Identities over time -/

/-- None of the operations, each made on the store that the ones before it lead to, ends the object at
a key. -/
def Spares (s : Store) (k : Kind) (key : ObjectKey) : List Operation → Prop
  | [] => True
  | op :: later => ¬ s.Ends op k key ∧ (s.operate op).Spares k key later

theorem uid_operate {old : Object k} (h : s.objects.get? k key = some old) (hends : ¬ s.Ends op k key) :
    ∃ new, (s.operate op).objects.get? k key = some new ∧ new.metadata.uid = old.metadata.uid := by
  rcases s.renews_cases op k key with hsame | ⟨-, hended⟩ | hrenews
  · exact ⟨old, hsame.trans h, rfl⟩
  · exact absurd hended hends
  · cases hrenews with
    | insert object => exact absurd (.insert object) hends
    | modify change => exact absurd (.modify _ _ change) hends
    | create => exact ⟨old, by rwa [operate, serve_create_taken h], rfl⟩
    | replace hanswer =>
      obtain ⟨live, hlive, -, -, hmetadata, hget⟩ := serve_replace_ok hanswer
      cases h.symm.trans hlive
      exact ⟨_, (hget _).trans (if_pos rfl), by rw [hmetadata]⟩
    | replaceStatus hanswer =>
      obtain ⟨live, hlive, -, hmetadata, -, hget⟩ := serve_status_ok hanswer
      cases h.symm.trans hlive
      exact ⟨_, (hget _).trans (if_pos rfl), by rw [hmetadata]⟩

theorem uid_spared {later : List Operation} {old : Object k} (h : s.objects.get? k key = some old)
    (hspares : s.Spares k key later) :
    ∃ new, (later.foldl operate s).objects.get? k key = some new ∧
      new.metadata.uid = old.metadata.uid := by
  induction later generalizing s old with
  | nil => exact ⟨old, h, rfl⟩
  | cons op later ih =>
    obtain ⟨next, hnext, huid⟩ := uid_operate h hspares.1
    obtain ⟨new, hnew, huid'⟩ := ih hnext hspares.2
    exact ⟨new, hnew, huid'.trans huid⟩

/-! ## Every store -/

/-- What holds of a store after any operations: of its versions and identities, of when they change,
and of the requests that fail. -/
theorem after_represented (ops : List Operation) :
    (after ops).Represented ∧
    (∀ op k key,
      ((after ops).Renews op k key ↔
        ∃ version, ((after ops).operate op).version? k key = some version ∧
          (after ops).version? k key ≠ some version) ∧
      ((after ops).Renews op k key →
        ∃ n, (after ops).version < n ∧
          ((after ops).operate op).version? k key = some (toString n) ∧
          ∀ m, (after ops).version? k key = some (toString m) → m < n)) ∧
    (∀ later k key, ∀ old : Object k, (after ops).objects.get? k key = some old →
      (after ops).Spares k key later →
      ∃ new, (after (ops ++ later)).objects.get? k key = some new ∧
        new.metadata.uid = old.metadata.uid) ∧
    ∀ r cause, ((after ops).serve r).1 = .error cause →
      ((after ops).serve r).2 = (after ops).recording r := by
  have hs : (after ops).Represented := represented_empty.leads wellFormed_empty ⟨ops, rfl⟩
  refine ⟨hs, fun op k key => ⟨hs.renews_iff op k key, fun hrenews => ?_⟩,
    fun later k key old hold hspares => ?_, fun r cause => serve_error⟩
  · exact ⟨(after ops).version + 1, Nat.lt_succ_self _, hrenews.version?,
      fun m hm => Nat.lt_succ_of_le (hs.version_le hm)⟩
  · rw [after_append]
    exact uid_spared hold hspares

end Store

namespace Sample

def undeletable : List Store.Operation := unconfigured ++ [.refuse .delete .app]

def reporting : Store.Operation :=
  .request (.replaceStatus (Store.withStatus (App.sample "shop" "web") (some {})))

end Sample

theorem Store.after_represented_sample :
    (∃ n, 3 < n ∧
      ((after Sample.undeletable).operate Sample.reporting).version? .app ⟨"web", "shop"⟩ =
        some (toString n)) ∧
    (∃ app : App,
      (after (Sample.undeletable ++
          [.request (.delete .app "web" "shop"), Sample.reporting])).objects.get? .app
        ⟨"web", "shop"⟩ = some app ∧ app.metadata.uid = some "uid-shop") ∧
    ((after Sample.undeletable).serve (.delete .app "web" "shop")).2 =
      (after Sample.undeletable).recording (.delete .app "web" "shop") := by
  obtain ⟨-, hversions, huids, hfailing⟩ := after_represented Sample.undeletable
  have hdelete : (after Sample.undeletable).Refuses (.delete .app "web" "shop") := by
    unfold Refuses
    decide +kernel
  refine ⟨?_, ?_, ?_⟩
  · obtain ⟨hrenews, hgrows⟩ := hversions Sample.reporting .app ⟨"web", "shop"⟩
    obtain ⟨n, hn, hversion, -⟩ :=
      hgrows (hrenews.mpr ⟨"4", by decide +kernel, by decide +kernel⟩)
    exact ⟨n, hn, hversion⟩
  · obtain ⟨old, hold, huid⟩ : ∃ old : App, (after Sample.undeletable).objects.get? .app
        ⟨"web", "shop"⟩ = some old ∧ old.metadata.uid = some "uid-shop" := ⟨_, rfl, rfl⟩
    have hspares : (after Sample.undeletable).Spares .app ⟨"web", "shop"⟩
        [.request (.delete .app "web" "shop"), Sample.reporting] := by
      refine ⟨?_, nofun, trivial⟩
      rintro ⟨⟩
      exact absurd hdelete (not_refuses_of_ok ‹_›)
    obtain ⟨new, hnew, hsame⟩ := huids _ .app ⟨"web", "shop"⟩ old hold hspares
    exact ⟨new, hnew, hsame.trans huid⟩
  · exact hfailing _ _ (congrArg Prod.fst (serve_refused hdelete))

end OdooKeeper
