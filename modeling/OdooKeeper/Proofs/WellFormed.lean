import OdooKeeper.Proofs.Serving

/-! # Well-formed stores

Every object of a store is kept in its own namespace, has an identity, and bears a version that the
store has given to no other object of its kind. This is so from the empty store on, whatever is asked
and whoever else changes objects. -/

namespace OdooKeeper

variable {k : Kind}

/-! ## Versions -/

theorem Store.versionText_inj {m n : Nat} (h : Store.versionText m = Store.versionText n) :
    m = n := by
  have htext : Nat.toDigits 10 m = Nat.toDigits 10 n := String.ofList_injective h
  calc
    m = Nat.ofDigitChars 10 (Nat.toDigits 10 m) 0 := Nat.ofDigitChars_ten_toDigits.symm
    _ = Nat.ofDigitChars 10 (Nat.toDigits 10 n) 0 := by rw [htext]
    _ = n := Nat.ofDigitChars_ten_toDigits

/-! ## Objects -/

/-- The object can be at the key in a store of a version. Its name need not be the one of the key:
others may have changed it. -/
structure Object.Fits (version : Nat) (key : ObjectKey) (object : Object k) : Prop where
  ns : object.metadata.ns = some key.ns
  uid : object.metadata.uid.isSome
  numbered : ∃ n ≤ version, object.metadata.resourceVersion = some (Store.versionText n)

namespace Object.Fits

variable {version later : Nat} {key : ObjectKey} {object : Object k}

theorem mono (h : object.Fits version key) (hle : version ≤ later) : object.Fits later key := by
  obtain ⟨n, hn, hv⟩ := h.numbered
  exact ⟨h.ns, h.uid, n, Nat.le_trans hn hle, hv⟩

theorem stamp (object : Object k) (key : ObjectKey) (version : Nat) :
    (Store.stamp object key version).Fits version key :=
  ⟨rfl, rfl, version, Nat.le_refl _, rfl⟩

theorem numberedCarried {stored : Object k} (h : stored.Fits version key) (object : Object k) :
    (Store.numbered (Store.carried key.ns object stored) later).Fits later key :=
  ⟨rfl, h.uid, later, Nat.le_refl _, rfl⟩

theorem numberedStatus {app : App} (h : app.Fits version key) (status : Option App.Status) :
    (Store.numbered (Store.withStatus app status) later).Fits later key :=
  ⟨h.ns, h.uid, later, Nat.le_refl _, rfl⟩

theorem version_ne (h : object.Fits version key) :
    object.metadata.resourceVersion ≠ some (Store.versionText (version + 1)) := by
  obtain ⟨n, hn, hv⟩ := h.numbered
  rw [hv]
  intro hnext
  have hsame := Store.versionText_inj (Option.some.inj hnext)
  omega

end Object.Fits

/-! ## Stores -/

namespace Store

/-- Every object can be where it is, and no two objects of a kind bear the same version. -/
structure WellFormed (s : Store) : Prop where
  fits : ∀ k key, ∀ object : Object k, s.objects.get? k key = some object →
    object.Fits s.version key
  distinct : ∀ k key key', ∀ object object' : Object k, s.objects.get? k key = some object →
    s.objects.get? k key' = some object' →
    object.metadata.resourceVersion = object'.metadata.resourceVersion → key = key'

variable {s : Store}

theorem wellFormed_empty : ({} : Store).WellFormed := by
  refine ⟨fun k key object h => ?_, fun k key key' object object' h => ?_⟩
  · cases k <;> cases h
  · cases k <;> cases h

theorem WellFormed.written {key : ObjectKey} {object : Object k} {cleared : KeySet}
    (hs : s.WellFormed) (hobject : object.Fits (s.version + 1) key)
    (hversion : object.metadata.resourceVersion = some (versionText (s.version + 1))) :
    (s.written key object cleared).WellFormed := by
  refine ⟨fun k' key' object' h => ?_, fun k' key₁ key₂ object₁ object₂ h₁ h₂ hsame => ?_⟩
  · rcases Objects.get?_put_some h with h | ⟨rfl, ⟨⟩⟩
    · exact (hs.fits _ _ _ h).mono (Nat.le_succ _)
    · exact hobject
  · -- The new version is that of the new object only.
    rcases Objects.get?_put_some h₁ with hold₁ | ⟨rfl, ⟨⟩⟩ <;>
      rcases Objects.get?_put_some h₂ with hold₂ | ⟨rfl, hnew⟩
    · exact hs.distinct _ _ _ _ _ hold₁ hold₂ hsame
    · cases hnew
      exact absurd (hsame.trans hversion) (hs.fits _ _ _ hold₁).version_ne
    · exact absurd (hsame.symm.trans hversion) (hs.fits _ _ _ hold₂).version_ne
    · rfl

theorem get?_without {k' : Kind} {key key' : ObjectKey} {cleared : KeySet} {object : Object k'}
    (h : (s.without k key cleared).objects.get? k' key' = some object) :
    s.objects.get? k' key' = some object := by
  by_cases hk : k' = k
  · subst hk
    rw [Store.without, Objects.get?_erase_self] at h
    split at h
    · cases h
    · exact h
  · rw [Store.without, Objects.get?_erase_of_ne _ hk] at h
    exact h

theorem WellFormed.recording (hs : s.WellFormed) (r : Request) : (s.recording r).WellFormed :=
  ⟨hs.fits, hs.distinct⟩

theorem WellFormed.without (hs : s.WellFormed) (k : Kind) (key : ObjectKey) (cleared : KeySet) :
    (s.without k key cleared).WellFormed :=
  ⟨fun _ _ _ h => hs.fits _ _ _ (get?_without h),
    fun _ _ _ _ _ h h' => hs.distinct _ _ _ _ _ (get?_without h) (get?_without h')⟩

theorem version_of_current {sent stored : Metadata} {version : String}
    (hsent : sent.resourceVersion = some version) (h : isStale sent stored = false) :
    stored.resourceVersion = some version := by
  rw [isStale, hsent] at h
  have hsame : some version = stored.resourceVersion := by simpa using h
  exact hsame.symm

/-- What is accepted as a new form of a stored object is in its place. -/
theorem WellFormed.accepted_key {key key' : ObjectKey} {sent live old : Object k}
    (hs : s.WellFormed) (hlive : s.objects.get? k key = some live)
    (hold : s.objects.get? k key' = some old)
    (hversion : sent.metadata.resourceVersion = live.metadata.resourceVersion)
    (hstale : isStale sent.metadata old.metadata = false) : key' = key := by
  obtain ⟨n, -, hnumber⟩ := (hs.fits _ _ _ hlive).numbered
  refine hs.distinct _ _ _ _ _ hold hlive ?_
  rw [hnumber]
  exact version_of_current (hversion.trans hnumber) hstale

theorem WellFormed.perform (hs : s.WellFormed) (r : Request) : (s.perform r).2.WellFormed := by
  cases r with
  | get => exact hs
  | list => exact hs
  | create k ns object =>
    rcases create_cases s ns object with ⟨taken, message, -, h⟩ | ⟨cleared, -, h⟩ <;>
      rw [Store.perform, h]
    · exact hs
    · exact hs.written (.stamp ..) rfl
  | replace k ns object =>
    rcases replace_cases s ns object with
      ⟨-, h⟩ | ⟨stored, hget, ⟨-, h⟩ | ⟨-, -, h⟩ | ⟨cleared, -, -, h⟩⟩ <;> rw [Store.perform, h]
    · exact hs
    · exact hs
    · exact hs
    · exact hs.written ((hs.fits _ _ _ hget).numberedCarried object) rfl
  | delete k ns name => exact hs.without k _ _
  | replaceStatus app =>
    rcases replaceStatus_cases s app with
      ⟨-, h⟩ | ⟨stored, hget, ⟨-, h⟩ | ⟨-, -, h⟩ | ⟨cleared, -, -, h⟩⟩ <;> rw [Store.perform, h]
    · exact hs
    · exact hs
    · exact hs
    · exact hs.written ((hs.fits _ _ _ hget).numberedStatus _) rfl

theorem WellFormed.serve (hs : s.WellFormed) (r : Request) : (s.serve r).2.WellFormed := by
  rcases serve_cases s r with ⟨e, h⟩ | ⟨-, h⟩ <;> rw [h]
  · exact hs.recording r
  · exact (hs.recording r).perform r

theorem WellFormed.insert (hs : s.WellFormed) (object : Object k) : (s.insert object).WellFormed :=
  hs.written (.stamp ..) rfl

theorem WellFormed.modify (hs : s.WellFormed) (k : Kind) (ns name : String)
    (change : Object k → Object k) : (s.modify k ns name change).WellFormed := by
  unfold Store.modify
  cases s.object? k ns name with
  | none => exact hs
  | some object => exact hs.written (.stamp ..) rfl

end Store

theorem Program.Executes.wellFormed {α : Type} {others : Store → Store → Prop} {p : Program α}
    {s t : Store} {log : List Event} {a : α} (h : p.Executes others s log a t)
    (hothers : ∀ s s', others s s' → s.WellFormed → s'.WellFormed) (hs : s.WellFormed) :
    t.WellFormed :=
  (h.keeps (fun _ => True) Store.WellFormed (fun _ _ => trivial) hothers
    (fun _ r _ hs => hs.serve r) hs).2

theorem Program.Executes.wellFormed_alone {α : Type} {p : Program α} {s t : Store}
    {log : List Event} {a : α} (h : p.Executes Eq s log a t) (hs : s.WellFormed) : t.WellFormed :=
  h.wellFormed (fun _ _ he hs => he ▸ hs) hs

/-! ## Names -/

namespace Store

variable {s : Store} {key : ObjectKey}

theorem perform_name {r : Request} {object : Object k}
    (h : (s.perform r).2.objects.get? k key = some object) :
    object.name = key.name ∨ ∃ old, s.objects.get? k key = some old ∧ object.name = old.name := by
  have hkept : s.objects.get? k key = some object →
      object.name = key.name ∨ ∃ old, s.objects.get? k key = some old ∧ object.name = old.name :=
    fun h => .inr ⟨object, h, rfl⟩
  have hwritten : ∀ {k' : Kind} {key' : ObjectKey} {new : Object k'} {cleared : KeySet},
      (new.name = key'.name ∨ ∃ old, s.objects.get? k' key' = some old ∧ new.name = old.name) →
      (s.written key' new cleared).objects.get? k key = some object →
      object.name = key.name ∨ ∃ old, s.objects.get? k key = some old ∧ object.name = old.name := by
    intro k' key' new cleared hnew hget
    rcases Objects.get?_put_some hget with hget | ⟨rfl, ⟨⟩⟩
    · exact hkept hget
    · exact hnew
  cases r with
  | get => exact hkept h
  | list => exact hkept h
  | create k ns object =>
    rcases create_cases s ns object with ⟨taken, message, -, hp⟩ | ⟨cleared, -, hp⟩ <;>
      rw [perform, hp] at h
    · exact hkept h
    · exact hwritten (.inl rfl) h
  | replace k ns object =>
    rcases replace_cases s ns object with
      ⟨-, hp⟩ | ⟨stored, -, ⟨-, hp⟩ | ⟨-, -, hp⟩ | ⟨cleared, -, -, hp⟩⟩ <;> rw [perform, hp] at h
    · exact hkept h
    · exact hkept h
    · exact hkept h
    · exact hwritten (.inl rfl) h
  | delete k ns name => exact hkept (get?_without h)
  | replaceStatus app =>
    rcases replaceStatus_cases s app with
      ⟨-, hp⟩ | ⟨stored, hget, ⟨-, hp⟩ | ⟨-, -, hp⟩ | ⟨cleared, -, -, hp⟩⟩ <;> rw [perform, hp] at h
    · exact hkept h
    · exact hkept h
    · exact hkept h
    · have hname : (numbered (withStatus stored app.content.status) (s.version + 1)).name =
          stored.name := rfl
      exact hwritten (.inr ⟨stored, hget, hname⟩) h

theorem serve_name {r : Request} {object : Object k}
    (h : (s.serve r).2.objects.get? k key = some object) :
    object.name = key.name ∨ ∃ old, s.objects.get? k key = some old ∧ object.name = old.name := by
  rcases serve_cases s r with ⟨e, hs⟩ | ⟨-, hs⟩ <;> rw [hs] at h
  · exact .inr ⟨object, h, rfl⟩
  · exact perform_name (s := s.recording r) h

/-- The object at a key, if there is one, bears the name of the key. -/
def Names (s : Store) (k : Kind) (key : ObjectKey) : Prop :=
  ∀ object : Object k, s.objects.get? k key = some object → object.name = key.name

theorem Names.serve (h : s.Names k key) (r : Request) : (s.serve r).2.Names k key := by
  intro object hget
  rcases serve_name hget with hname | ⟨old, hold, hname⟩
  · exact hname
  · exact hname.trans (h old hold)

/-- Every object bears the name that it is stored under. So it is unless somebody renames what is
stored. -/
def Keyed (s : Store) : Prop := ∀ k key, s.Names k key

theorem keyed_empty : ({} : Store).Keyed := by
  intro k key object h
  cases k <;> cases h

namespace Keyed

theorem serve (h : s.Keyed) (r : Request) : (s.serve r).2.Keyed :=
  fun k key => (h k key).serve r

theorem putStamped (h : s.Keyed) {object : Object k} (hname : object.name = key.name) :
    (s.putStamped key object).Keyed := by
  intro k' key' found hfound
  rcases Objects.get?_put_some hfound with hfound | ⟨rfl, ⟨⟩⟩
  · exact h k' key' found hfound
  · exact hname

theorem insert (h : s.Keyed) (object : Object k) : (s.insert object).Keyed := h.putStamped rfl

theorem modify (h : s.Keyed) (ns name : String) {change : Object k → Object k}
    (hchange : ∀ object, (change object).name = object.name) :
    (s.modify k ns name change).Keyed := by
  unfold Store.modify
  cases hget : s.object? k ns name with
  | none => exact h
  | some object => exact h.putStamped ((hchange object).trans (h k ⟨ns, name⟩ object hget))

end Keyed

end Store

namespace Program.Executes

variable {α : Type} {p : Program α} {s t : Store} {log : List Event} {a : α}

theorem names {key : ObjectKey} (h : p.Executes Eq s log a t) (hs : s.Names k key) :
    t.Names k key :=
  (h.keeps (fun _ => True) (fun u => u.Names k key) (fun _ _ => trivial) (fun _ _ he hs => he ▸ hs)
    (fun _ r _ hs => hs.serve r) hs).2

theorem keyed (h : p.Executes Eq s log a t) (hs : s.Keyed) : t.Keyed :=
  fun k key => h.names (hs k key)

end Program.Executes

end OdooKeeper
