import OdooKeeper.Proofs.Removing
import OdooKeeper.Proofs.WellFormed

/-! # Stores that are alike

Two stores may be alike in what is looked at and differ elsewhere, as well as in what secrets say, in
the versions that they have given and in the identities that they have made. Like requests get like
answers from them and leave them alike. -/

namespace OdooKeeper

variable {k : Kind} {s t : Store} {key : ObjectKey}

theorem rel_imp {α β : Type} {r r' : α → β → Prop} {a : Option α} {b : Option β}
    (h : Option.Rel r a b) (himp : ∀ x y, r x y → r' x y) : Option.Rel r' a b := by
  cases h with
  | none => exact .none
  | some h => exact .some (himp _ _ h)

theorem rel_symm {α β : Type} {r : α → β → Prop} {r' : β → α → Prop} {a : Option α} {b : Option β}
    (h : Option.Rel r a b) (himp : ∀ x y, r x y → r' y x) : Option.Rel r' b a := by
  cases h with
  | none => exact .none
  | some h => exact .some (himp _ _ h)

/-! ## Entries -/

namespace OrdMap

variable {κ α β : Type} [Ord κ] [DecidableEq κ] [Std.LawfulEqOrd κ]

theorem filterMap_entries_congr [Std.TransOrd κ] {m n : OrdMap κ α} {pick : κ × α → Option β}
    (h : ∀ key value, (pick (key, value)).isSome →
      (m.get? key = some value ↔ n.get? key = some value)) :
    m.entries.filterMap pick = n.entries.filterMap pick := by
  let kept (o : OrdMap κ α) : OrdMap κ α := o.filter fun key value => (pick (key, value)).isSome
  have hpick : (fun e => if (pick e).isSome = true then pick e else none) = pick :=
    funext fun e => by cases pick e <;> rfl
  have hpicked : ∀ o : OrdMap κ α, o.entries.filterMap pick = (kept o).entries.filterMap pick := by
    intro o
    rw [show (kept o).entries = o.entries.filter fun e => (pick e).isSome from rfl,
      List.filterMap_filter, hpick]
  have hkept : kept m = kept n := by
    refine ext_mem fun e => ?_
    unfold kept filter
    rw [List.mem_filter, List.mem_filter, mem_entries, mem_entries]
    exact and_congr_left fun hpick => h e.1 e.2 hpick
  rw [hpicked m, hpicked n, hkept]

end OrdMap

/-! ## Answers -/

namespace Store

theorem serve_create_granted {ns : String} {object : Object k}
    (hget : s.objects.get? k ⟨ns, object.name⟩ = none)
    (h : ¬ s.Refuses (.create k ns object)) :
    ∃ stored, (s.serve (.create k ns object)).1 = .ok stored := by
  rw [serve_granted h, perform]
  rcases create_cases (s.recording (.create k ns object)) ns object with
    ⟨taken, message, htaken, -⟩ | ⟨cleared, -, hp⟩
  · rw [recording_objects, hget] at htaken
    cases htaken
  · exact ⟨_, by rw [hp]⟩

theorem serve_create_conflicts {ns : String} {object taken : Object k}
    (hget : s.objects.get? k ⟨ns, object.name⟩ = some taken)
    (h : ¬ s.Refuses (.create k ns object)) :
    ∃ message, (s.serve (.create k ns object)).1 = .error (.conflict message) := by
  rw [serve_granted h, perform]
  rcases create_cases (s.recording (.create k ns object)) ns object with
    ⟨taken, message, -, hp⟩ | ⟨cleared, hfree, -⟩
  · exact ⟨message, by rw [hp]⟩
  · rw [recording_objects, hget] at hfree
    cases hfree

theorem serve_replace_elsewhere {ns : String} {object live : Object k} (hs : s.WellFormed)
    (hlive : s.objects.get? k key = some live) (hother : key ≠ ⟨ns, object.name⟩)
    (hversion : object.metadata.resourceVersion = live.metadata.resourceVersion)
    (h : ¬ s.Refuses (.replace k ns object)) :
    (s.serve (.replace k ns object)).1 = .error
      (if (s.objects.get? k ⟨ns, object.name⟩).isSome then staleError k object.name
        else missingError k object.name) := by
  rw [serve_granted h, perform]
  rcases replace_cases (s.recording (.replace k ns object)) ns object with
    ⟨hnone, hp⟩ | ⟨old, hold, hcases⟩
  · rw [recording_objects] at hnone
    rw [hp, hnone]
    rfl
  · rw [recording_objects] at hold
    -- The version is that of the live object, and no other object bears it.
    have hstale : isStale object.metadata old.metadata = true := by
      cases hcurrent : isStale object.metadata old.metadata with
      | true => rfl
      | false => exact absurd (hs.accepted_key hlive hold hversion hcurrent).symm hother
    rcases hcases with ⟨-, hp⟩ | ⟨hcurrent, -⟩ | ⟨-, hcurrent, -⟩
    · rw [hp, hold]
      rfl
    · rw [hstale] at hcurrent
      cases hcurrent
    · rw [hstale] at hcurrent
      cases hcurrent

theorem serve_status_answers {app : App} (h : ¬ s.Refuses (.replaceStatus app)) :
    (s.objects.get? .app app.key = none ∧
      (s.serve (.replaceStatus app)).1 = .error (missingError .app app.instanceName)) ∨
    ∃ old, s.objects.get? .app app.key = some old ∧
      ((isStale app.metadata old.metadata = true ∧
          (s.serve (.replaceStatus app)).1 = .error (staleError .app app.instanceName)) ∨
        isStale app.metadata old.metadata = false ∧
          ∃ stored, (s.serve (.replaceStatus app)).1 = .ok stored) := by
  rw [serve_granted h, perform]
  rcases replaceStatus_cases (s.recording (.replaceStatus app)) app with
    ⟨hnone, hp⟩ | ⟨old, hsome, hold⟩
  · exact .inl ⟨hnone, by rw [hp]⟩
  · refine .inr ⟨old, hsome, ?_⟩
    rcases hold with ⟨hstale, hp⟩ | ⟨hcurrent, -, hp⟩ | ⟨cleared, hcurrent, -, hp⟩
    · exact .inl ⟨hstale, by rw [hp]⟩
    · exact .inr ⟨hcurrent, _, by rw [hp]⟩
    · exact .inr ⟨hcurrent, _, by rw [hp]⟩

theorem get?_deleted {ns name : String} (h : ¬ s.Refuses (.delete k ns name)) :
    (s.serve (.delete k ns name)).1 = .ok () ∧ ∀ k' key,
      (s.serve (.delete k ns name)).2.objects.get? k' key =
        if k' = k ∧ key = ⟨ns, name⟩ then none else s.objects.get? k' key := by
  have hserve := serve_granted h
  refine ⟨by rw [hserve]; rfl, fun k' key => ?_⟩
  rw [serve_delete_ok (by rw [hserve]; rfl)]
  by_cases hk : k' = k
  · subst hk
    simp
  · rw [Objects.get?_erase_of_ne _ hk, if_neg fun hsame => hk hsame.1]

end Store

/-! ## Objects -/

/-- The identity is one that a store makes for an object of a name. -/
def MadeUid (name : String) (uid : Option String) : Prop :=
  ∃ version, uid = some s!"uid-{name}-{Store.versionText version}"

/-- The metadata are the same but for the version and for identities that stores have made. -/
structure Metadata.Alike (name : String) (m m' : Metadata) : Prop where
  rest : m' = { m with resourceVersion := m'.resourceVersion, uid := m'.uid }
  uid : m'.uid = m.uid ∨ MadeUid name m.uid ∧ MadeUid name m'.uid

namespace Metadata.Alike

variable {name : String} {m m' : Metadata}

theorem refl (name : String) (m : Metadata) : m.Alike name m := ⟨rfl, .inl rfl⟩

theorem symm (h : m.Alike name m') : m'.Alike name m := by
  refine ⟨?_, h.uid.imp Eq.symm And.symm⟩
  rw [h.rest]

theorem name_eq (h : m.Alike name m') : m'.name = m.name := by rw [h.rest]

theorem anyName_eq (h : m.Alike name m') : m'.anyName = m.anyName := by
  rw [h.rest]
  rfl

theorem owners_eq (h : m.Alike name m') : m'.owners = m.owners := by
  rw [h.rest]
  rfl

theorem stamp (m : Metadata) (key : ObjectKey) (version version' : Nat) :
    (Store.stampMetadata m key version).Alike key.name (Store.stampMetadata m key version') := by
  refine ⟨rfl, ?_⟩
  cases huid : m.uid with
  | none =>
    refine .inr ⟨⟨version, ?_⟩, ⟨version', ?_⟩⟩
    · rw [Store.stampMetadata, huid]
      rfl
    · rw [Store.stampMetadata, huid]
      rfl
  | some uid =>
    left
    simp only [Store.stampMetadata, huid, Option.getD_some]

end Metadata.Alike

/-- The objects at a key are the same but for versions and for identities that stores have made. -/
structure Object.Alike (key : ObjectKey) (object object' : Object k) : Prop where
  metadata : object.metadata.Alike key.name object'.metadata
  content : object'.content = object.content

theorem Object.Alike.refl (key : ObjectKey) (object : Object k) : object.Alike key object :=
  ⟨.refl .., rfl⟩

theorem Object.Alike.symm {object object' : Object k} (h : object.Alike key object') :
    object'.Alike key object :=
  ⟨h.metadata.symm, h.content.symm⟩

theorem Object.Alike.rel_refl (key : ObjectKey) (object : Option (Object k)) :
    Option.Rel (Object.Alike key) object object := by
  cases object with
  | none => exact .none
  | some object => exact .some (.refl ..)

/-! ## Views -/

/-- What is looked at in stores: the objects of some keys, some of which are replaced, of pods those
of a sort, and of secrets no more than what two contents must have in common. -/
structure View where
  covers : Kind → ObjectKey → Prop
  writes : Kind → ObjectKey → Prop
  pods : ObjectKey → Pod → Prop
  secrets : ObjectKey → Secret.Content → Secret.Content → Prop
  secrets_refl : ∀ key content, secrets key content content

namespace View

variable {v w : View}

def Content (v : View) (key : ObjectKey) : (k : Kind) → k.Content → k.Content → Prop
  | .secret => v.secrets key
  | _ => Eq

theorem Content.refl (v : View) (key : ObjectKey) (content : k.Content) :
    v.Content key k content content := by
  cases k with
  | secret => exact v.secrets_refl key content
  | _ => rfl

theorem Content.of_eq {content content' : k.Content} (h : content' = content) :
    v.Content key k content content' := by
  rw [h]
  exact .refl ..

theorem Content.eq {content content' : k.Content} (h : v.Content key k content content')
    (hk : k ≠ .secret) : content' = content := by
  cases k with
  | secret => exact absurd rfl hk
  | _ => exact Eq.symm h

structure Resembles (v : View) (key : ObjectKey) (object object' : Object k) : Prop where
  metadata : object.metadata.Alike key.name object'.metadata
  content : v.Content key k object.content object'.content

theorem Resembles.refl (v : View) (key : ObjectKey) (object : Object k) :
    v.Resembles key object object :=
  ⟨.refl .., .refl ..⟩

theorem Resembles.rel_refl (v : View) (key : ObjectKey) (object : Option (Object k)) :
    Option.Rel (v.Resembles key) object object := by
  cases object with
  | none => exact .none
  | some object => exact .some (.refl ..)

theorem Resembles.name_eq {object object' : Object k} (h : v.Resembles key object object') :
    object'.name = object.name := by
  rw [Object.name, h.metadata.name_eq]
  rfl

theorem Resembles.alike {object object' : Object k} (h : v.Resembles key object object')
    (hcontents : ∀ key content content', v.secrets key content content' → content' = content) :
    object.Alike key object' := by
  refine ⟨h.metadata, ?_⟩
  cases k with
  | secret => exact hcontents _ _ _ h.content
  | _ => exact h.content.eq (by simp)

/-- The stores refuse nothing and look the same. What is replaced goes where it is looked at. -/
structure Alike (v : View) (s t : Store) : Prop where
  granted : s.refusals = []
  granted' : t.refusals = []
  wellFormed : s.WellFormed
  wellFormed' : t.WellFormed
  bears : ∀ k key, ∀ object : Object k, v.writes k key → s.objects.get? k key = some object →
    object.name = key.name ∨ v.covers k ⟨key.ns, object.name⟩
  objects : ∀ k key, k ≠ .pod → v.covers k key →
    Option.Rel (v.Resembles key) (s.objects.get? k key) (t.objects.get? k key)
  pods : ∀ key pod, v.pods key pod →
    (s.objects.get? .pod key = some pod ↔ t.objects.get? .pod key = some pod)

namespace Alike

theorem mono (h : v.Alike s t) (hcovers : ∀ k key, w.covers k key → v.covers k key)
    (hwrites : ∀ k key key', w.writes k key → v.writes k key ∧ (v.covers k key' → w.covers k key'))
    (hpods : ∀ key pod, w.pods key pod → v.pods key pod)
    (hsecrets : ∀ key content content', w.covers .secret key → v.secrets key content content' →
      w.secrets key content content') : w.Alike s t := by
  refine ⟨h.granted, h.granted', h.wellFormed, h.wellFormed', fun k key object hwrite hget => ?_,
    fun k key hk hcover => ?_, fun key pod hpod => h.pods key pod (hpods key pod hpod)⟩
  · obtain ⟨hwrite, hcover⟩ := hwrites k key ⟨key.ns, object.name⟩ hwrite
    exact (h.bears k key object hwrite hget).imp id hcover
  refine rel_imp (h.objects k key hk (hcovers k key hcover)) fun object object' hsame => ?_
  refine ⟨hsame.metadata, ?_⟩
  cases k with
  | secret => exact hsecrets key _ _ hcover hsame.content
  | _ => exact hsame.content

theorem get?_none (h : v.Alike s t) (hk : k ≠ .pod) (hcover : v.covers k key)
    (hs : s.objects.get? k key = none) : t.objects.get? k key = none := by
  have hat := h.objects k key hk hcover
  rw [hs] at hat
  cases ht : t.objects.get? k key with
  | none => rfl
  | some object =>
    rw [ht] at hat
    cases hat

theorem get?_some (h : v.Alike s t) (hk : k ≠ .pod) (hcover : v.covers k key) {object : Object k}
    (hs : s.objects.get? k key = some object) :
    ∃ object', t.objects.get? k key = some object' ∧ v.Resembles key object object' := by
  have hat := h.objects k key hk hcover
  rw [hs] at hat
  cases ht : t.objects.get? k key with
  | none =>
    rw [ht] at hat
    cases hat
  | some object' =>
    rw [ht] at hat
    exact ⟨object', rfl, Option.rel_some_some.mp hat⟩

/-! ## Like requests -/

theorem bears_serve {r : Request} {object : Object k} (h : v.Alike s t) (hwrite : v.writes k key)
    (hget : (s.serve r).2.objects.get? k key = some object) :
    object.name = key.name ∨ v.covers k ⟨key.ns, object.name⟩ := by
  rcases Store.serve_name hget with hname | ⟨old, hold, hname⟩
  · exact .inl hname
  · rw [hname]
    exact h.bears k key old hwrite hold

theorem serve {r r' : Request} (h : v.Alike s t) (htarget : r'.target? = r.target?)
    (hpod : r.changes? ≠ some .pod)
    (hat : ∀ k key, r.target? = some (k, key) → v.covers k key → Option.Rel (v.Resembles key)
      ((s.serve r).2.objects.get? k key) ((t.serve r').2.objects.get? k key)) :
    v.Alike (s.serve r).2 (t.serve r').2 := by
  refine ⟨by rw [Store.serve_refusals, h.granted], by rw [Store.serve_refusals, h.granted'],
    h.wellFormed.serve r, h.wellFormed'.serve r', fun k key object => h.bears_serve,
    fun k key hk hcover => ?_, fun key pod hlooked => ?_⟩
  · by_cases hthis : r.target? = some (k, key)
    · exact hat k key hthis hcover
    · rw [Store.serve_elsewhere s hthis, Store.serve_elsewhere t (by rw [htarget]; exact hthis)]
      exact h.objects k key hk hcover
  · have hother : r.target? ≠ some (.pod, key) := by
      intro hthis
      rw [r.changes?_eq, hthis] at hpod
      exact hpod rfl
    rw [Store.serve_elsewhere s hother, Store.serve_elsewhere t (by rw [htarget]; exact hother)]
    exact h.pods key pod hlooked

theorem read {r : Request} (h : v.Alike s t) (hr : r.target? = none) :
    v.Alike (s.serve r).2 (t.serve r).2 := by
  refine h.serve rfl (by rw [r.changes?_eq, hr]; simp) fun k key hthis => ?_
  rw [hr] at hthis
  cases hthis

theorem recording (h : v.Alike s t) (r r' : Request) : v.Alike (s.recording r) (t.recording r') :=
  ⟨h.granted, h.granted', h.wellFormed.recording r, h.wellFormed'.recording r', h.bears, h.objects,
    h.pods⟩

theorem refused {r r' : Request} {cause cause' : StoreError} (h : v.Alike s t)
    (hs : (s.serve r).1 = .error cause) (ht : (t.serve r').1 = .error cause') :
    v.Alike (s.serve r).2 (t.serve r').2 := by
  rw [Store.serve_error hs, Store.serve_error ht]
  exact h.recording r r'

theorem create (h : v.Alike s t) (hk : k ≠ .pod) {ns : String} {object : Object k}
    (hcover : v.covers k ⟨ns, object.name⟩)
    (hs : s.objects.get? k ⟨ns, object.name⟩ = none) :
    ∃ stored stored', (s.serve (.create k ns object)).1 = .ok stored ∧
      (t.serve (.create k ns object)).1 = .ok stored' ∧
      v.Resembles ⟨ns, object.name⟩ stored stored' ∧
      v.Alike (s.serve (.create k ns object)).2 (t.serve (.create k ns object)).2 := by
  obtain ⟨stored, hstored⟩ := Store.serve_create_granted hs (Store.not_refuses h.granted _)
  obtain ⟨stored', hstored'⟩ :=
    Store.serve_create_granted (h.get?_none hk hcover hs) (Store.not_refuses h.granted' _)
  obtain ⟨heq, hget⟩ := Store.serve_create_ok hstored
  obtain ⟨heq', hget'⟩ := Store.serve_create_ok hstored'
  have hsame : v.Resembles ⟨ns, object.name⟩ stored stored' := by
    rw [heq, heq']
    exact ⟨.stamp .., .refl ..⟩
  refine ⟨stored, stored', hstored, hstored', hsame,
    h.serve rfl (fun hpod => hk (Option.some.inj hpod)) fun k key htarget _ => ?_⟩
  cases htarget
  rw [hget, hget', if_pos rfl, if_pos rfl]
  exact .some hsame

theorem create_taken (h : v.Alike s t) (hk : k ≠ .pod) {ns : String} {object taken : Object k}
    (hcover : v.covers k ⟨ns, object.name⟩)
    (hs : s.objects.get? k ⟨ns, object.name⟩ = some taken) :
    ∃ message message', (s.serve (.create k ns object)).1 = .error (.conflict message) ∧
      (t.serve (.create k ns object)).1 = .error (.conflict message') ∧
      v.Alike (s.serve (.create k ns object)).2 (t.serve (.create k ns object)).2 := by
  obtain ⟨message, hmessage⟩ := Store.serve_create_conflicts hs (Store.not_refuses h.granted _)
  obtain ⟨taken', ht, -⟩ := h.get?_some hk hcover hs
  obtain ⟨message', hmessage'⟩ := Store.serve_create_conflicts ht (Store.not_refuses h.granted' _)
  exact ⟨message, message', hmessage, hmessage', h.refused hmessage hmessage'⟩

theorem replace (h : v.Alike s t) (hk : k ≠ .pod) {ns : String}
    {object object' live live' : Object k}
    (hs : s.objects.get? k ⟨ns, object.name⟩ = some live)
    (ht : t.objects.get? k ⟨ns, object.name⟩ = some live')
    (hlive : live.metadata.Alike object.name live'.metadata)
    (hversion : object.metadata.resourceVersion = live.metadata.resourceVersion)
    (hversion' : object'.metadata.resourceVersion = live'.metadata.resourceVersion)
    (hsame : v.Resembles ⟨ns, object.name⟩ object object') :
    ∃ stored stored', (s.serve (.replace k ns object)).1 = .ok stored ∧
      (t.serve (.replace k ns object')).1 = .ok stored' ∧
      v.Resembles ⟨ns, object.name⟩ stored stored' ∧
      v.Alike (s.serve (.replace k ns object)).2 (t.serve (.replace k ns object')).2 := by
  have hname : object'.name = object.name := hsame.name_eq
  rw [← hname] at ht
  obtain ⟨stored, hstored⟩ :=
    Store.serve_replace_granted hs hversion (Store.not_refuses h.granted _)
  obtain ⟨stored', hstored'⟩ :=
    Store.serve_replace_granted ht hversion' (Store.not_refuses h.granted' _)
  obtain ⟨old, hold, -, hcontent, hmetadata, hget⟩ := Store.serve_replace_ok hstored
  obtain ⟨old', hold', -, hcontent', hmetadata', hget'⟩ := Store.serve_replace_ok hstored'
  obtain rfl : old = live := Option.some.inj (hold.symm.trans hs)
  obtain rfl : old' = live' := Option.some.inj (hold'.symm.trans ht)
  have hafter : v.Resembles ⟨ns, object.name⟩ stored stored' := by
    refine ⟨⟨?_, ?_⟩, ?_⟩
    · rw [hmetadata, hmetadata', hsame.metadata.rest]
    · rw [hmetadata, hmetadata']
      exact hlive.uid
    · rw [hcontent, hcontent']
      exact hsame.content
  refine ⟨stored, stored', hstored, hstored', hafter, h.serve ?_
    (fun hpod => hk (Option.some.inj hpod)) fun k key htarget _ => ?_⟩
  · simp only [Request.target?, hname]
  · cases htarget
    rw [hget, hget', hname, if_pos rfl, if_pos rfl]
    exact .some hafter

theorem replace_elsewhere (h : v.Alike s t) (hk : k ≠ .pod) {ns : String}
    {object object' live live' : Object k} (hcover : v.covers k ⟨ns, object.name⟩)
    (hs : s.objects.get? k key = some live) (ht : t.objects.get? k key = some live')
    (hother : key ≠ ⟨ns, object.name⟩)
    (hversion : object.metadata.resourceVersion = live.metadata.resourceVersion)
    (hversion' : object'.metadata.resourceVersion = live'.metadata.resourceVersion)
    (hname : object'.name = object.name) :
    ∃ cause, (s.serve (.replace k ns object)).1 = .error cause ∧
      (t.serve (.replace k ns object')).1 = .error cause ∧
      v.Alike (s.serve (.replace k ns object)).2 (t.serve (.replace k ns object')).2 := by
  have hrefused := Store.serve_replace_elsewhere h.wellFormed hs hother hversion
    (Store.not_refuses h.granted _)
  have hrefused' := Store.serve_replace_elsewhere h.wellFormed' ht (by rwa [hname]) hversion'
    (Store.not_refuses h.granted' _)
  have hsame : (t.objects.get? k ⟨ns, object.name⟩).isSome =
      (s.objects.get? k ⟨ns, object.name⟩).isSome := by
    have hat := h.objects k _ hk hcover
    generalize s.objects.get? k ⟨ns, object.name⟩ = old at hat
    generalize t.objects.get? k ⟨ns, object.name⟩ = old' at hat
    cases hat <;> rfl
  rw [hname, hsame] at hrefused'
  exact ⟨_, hrefused, hrefused', h.refused hrefused hrefused'⟩

theorem delete (h : v.Alike s t) (k : Kind) (ns name : String) :
    (s.serve (.delete k ns name)).1 = .ok () ∧ (t.serve (.delete k ns name)).1 = .ok () ∧
      v.Alike (s.serve (.delete k ns name)).2 (t.serve (.delete k ns name)).2 := by
  have hs := Store.get?_deleted (Store.not_refuses h.granted (.delete k ns name))
  have ht := Store.get?_deleted (Store.not_refuses h.granted' (.delete k ns name))
  refine ⟨hs.1, ht.1, by rw [Store.serve_refusals, h.granted], by rw [Store.serve_refusals, h.granted'],
    h.wellFormed.serve _, h.wellFormed'.serve _, fun k key object => h.bears_serve,
    fun k' key hk hcover => ?_, fun key pod hlooked => ?_⟩
  · rw [hs.2, ht.2]
    split
    · exact .none
    · exact h.objects k' key hk hcover
  · rw [hs.2, ht.2]
    split
    · simp
    · exact h.pods key pod hlooked

theorem list (h : v.Alike s t) {ns selector : String} (hlooked : ∀ key pod, key.ns = ns →
    Store.hasLabels selector pod = true → v.pods key pod) :
    ∃ pods, (s.serve (.list .pod ns selector)).1 = .ok pods ∧
      (t.serve (.list .pod ns selector)).1 = .ok pods ∧
      v.Alike (s.serve (.list .pod ns selector)).2 (t.serve (.list .pod ns selector)).2 := by
  have hs := Store.serve_granted (Store.not_refuses h.granted (.list .pod ns selector))
  have ht := Store.serve_granted (Store.not_refuses h.granted' (.list .pod ns selector))
  refine ⟨_, by rw [hs]; rfl, ?_, h.read rfl⟩
  rw [ht]
  refine congrArg Except.ok (OrdMap.filterMap_entries_congr fun key pod hpod => ?_)
  obtain ⟨hns, hlabels⟩ := Option.isSome_ite.mp hpod
  exact (h.pods key pod (hlooked key pod hns hlabels)).symm

theorem status_taken (h : v.Alike s t) {app app' stored stored' : App}
    (hcover : v.covers .app app.key) (hkey : app'.key = app.key)
    (hstatus : app'.content.status = app.content.status)
    (hs : (s.serve (.replaceStatus app)).1 = .ok stored)
    (ht : (t.serve (.replaceStatus app')).1 = .ok stored') :
    v.Alike (s.serve (.replaceStatus app)).2 (t.serve (.replaceStatus app')).2 := by
  obtain ⟨old, hold, -, hmetadata, hcontent, hget⟩ := Store.serve_status_ok hs
  obtain ⟨old', hold', -, hmetadata', hcontent', hget'⟩ := Store.serve_status_ok ht
  obtain ⟨object, hobject, hsame⟩ := h.get?_some (by simp) hcover hold
  rw [hkey, hobject] at hold'
  cases hold'
  refine h.serve (by simp only [Request.target?, hkey]) (by simp [Request.changes?])
    fun k key htarget _ => ?_
  cases htarget
  rw [hget, hget', hkey, if_pos rfl, if_pos rfl]
  refine .some ⟨⟨?_, ?_⟩, .of_eq ?_⟩
  · rw [hmetadata, hmetadata', hsame.metadata.rest]
  · rw [hmetadata, hmetadata']
    exact hsame.metadata.uid
  · rw [hcontent, hcontent', hstatus, hsame.content.eq (by simp)]

/-- The same status is taken by both stores, or by neither for the same reason, when both apps are out
of date or neither is. -/
theorem status (h : v.Alike s t) {app app' : App} (hcover : v.covers .app app.key)
    (hkey : app'.key = app.key) (hstatus : app'.content.status = app.content.status)
    (hstale : ∀ old old', s.objects.get? .app app.key = some old →
      t.objects.get? .app app.key = some old' →
      Store.isStale app'.metadata old'.metadata = Store.isStale app.metadata old.metadata) :
    v.Alike (s.serve (.replaceStatus app)).2 (t.serve (.replaceStatus app')).2 ∧
      ((∃ cause, (s.serve (.replaceStatus app)).1 = .error cause ∧
          (t.serve (.replaceStatus app')).1 = .error cause) ∨
        ∃ stored stored', (s.serve (.replaceStatus app)).1 = .ok stored ∧
          (t.serve (.replaceStatus app')).1 = .ok stored') := by
  have hname : app'.instanceName = app.instanceName := congrArg ObjectKey.name hkey
  have ht := Store.serve_status_answers (Store.not_refuses h.granted' (.replaceStatus app'))
  rw [hkey, hname] at ht
  rcases Store.serve_status_answers (Store.not_refuses h.granted (.replaceStatus app)) with
    ⟨hnone, hmissing⟩ | ⟨old, hold, hs⟩
  · have hnone' := h.get?_none (by simp) hcover hnone
    rcases ht with ⟨-, hmissing'⟩ | ⟨old', hold', -⟩
    · exact ⟨h.refused hmissing hmissing', .inl ⟨_, hmissing, hmissing'⟩⟩
    · rw [hnone'] at hold'
      cases hold'
  · obtain ⟨object, hobject, -⟩ := h.get?_some (by simp) hcover hold
    rcases ht with ⟨hnone', -⟩ | ⟨old', hold', ht⟩
    · rw [hnone'] at hobject
      cases hobject
    have hsame := hstale old old' hold hold'
    rcases hs with ⟨hs, hrefused⟩ | ⟨hs, stored, hstored⟩
    · rcases ht with ⟨-, hrefused'⟩ | ⟨ht, -⟩
      · exact ⟨h.refused hrefused hrefused', .inl ⟨_, hrefused, hrefused'⟩⟩
      · rw [hs, ht] at hsame
        cases hsame
    · rcases ht with ⟨ht, -⟩ | ⟨-, stored', hstored'⟩
      · rw [hs, ht] at hsame
        cases hsame
      · exact ⟨h.status_taken hcover hkey hstatus hstored hstored', .inr ⟨_, _, hstored, hstored'⟩⟩

end Alike

end View

end OdooKeeper
