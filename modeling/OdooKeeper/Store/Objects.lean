import OdooKeeper.Object
import OdooKeeper.ObjectKey

/-! # Collections of objects

One table for each kind, from namespace and name to the object. -/

namespace OdooKeeper

abbrev Table (k : Kind) := OrdMap ObjectKey (Object k)

structure Objects where
  apps : Table .app := ∅
  secrets : Table .secret := ∅
  claims : Table .claim := ∅
  deployments : Table .deployment := ∅
  services : Table .service := ∅
  jobs : Table .job := ∅
  pods : Table .pod := ∅
deriving DecidableEq, Inhabited

namespace Objects

def table (o : Objects) : (k : Kind) → Table k
  | .app => o.apps
  | .secret => o.secrets
  | .claim => o.claims
  | .deployment => o.deployments
  | .service => o.services
  | .job => o.jobs
  | .pod => o.pods

def setTable (o : Objects) : (k : Kind) → Table k → Objects
  | .app, t => { o with apps := t }
  | .secret, t => { o with secrets := t }
  | .claim, t => { o with claims := t }
  | .deployment, t => { o with deployments := t }
  | .service, t => { o with services := t }
  | .job, t => { o with jobs := t }
  | .pod, t => { o with pods := t }

def get? (o : Objects) (k : Kind) (key : ObjectKey) : Option (Object k) := (o.table k).get? key

/-- The collection with an object put at a key. -/
def put {k : Kind} (o : Objects) (key : ObjectKey) (object : Object k) : Objects :=
  o.setTable k ((o.table k).insert key object)

def erase (o : Objects) (k : Kind) (key : ObjectKey) : Objects :=
  o.setTable k ((o.table k).erase key)

/-! ## Lookup -/

@[simp] theorem table_setTable_self (o : Objects) (k : Kind) (t : Table k) :
    (o.setTable k t).table k = t := by
  cases k <;> rfl

theorem table_setTable_of_ne (o : Objects) {k k' : Kind} (h : k' ≠ k) (t : Table k) :
    (o.setTable k t).table k' = o.table k' := by
  cases k <;> cases k' <;> first | rfl | exact absurd rfl h

@[simp] theorem get?_put_self {k : Kind} (o : Objects) (key key' : ObjectKey) (object : Object k) :
    (o.put key object).get? k key' = if key' = key then some object else o.get? k key' := by
  simp [get?, put]

theorem get?_put_of_ne {k k' : Kind} (o : Objects) (h : k' ≠ k) (key key' : ObjectKey)
    (object : Object k) : (o.put key object).get? k' key' = o.get? k' key' := by
  simp [get?, put, table_setTable_of_ne o h]

/-- What is found after an object was put was there before, or is that object. -/
theorem get?_put_some {k k' : Kind} {o : Objects} {key key' : ObjectKey} {object : Object k}
    {new : Object k'} (h : (o.put key' new).get? k key = some object) :
    o.get? k key = some object ∨ key = key' ∧ (⟨k, object⟩ : (k : Kind) × Object k) = ⟨k', new⟩ := by
  by_cases hk : k = k'
  · subst hk
    rw [get?_put_self] at h
    split at h
    · cases h
      exact .inr ⟨‹_›, rfl⟩
    · exact .inl h
  · rw [get?_put_of_ne o hk] at h
    exact .inl h

@[simp] theorem get?_erase_self (o : Objects) (k : Kind) (key key' : ObjectKey) :
    (o.erase k key).get? k key' = if key' = key then none else o.get? k key' := by
  simp [get?, erase]

theorem get?_erase_of_ne (o : Objects) {k k' : Kind} (h : k' ≠ k) (key key' : ObjectKey) :
    (o.erase k key).get? k' key' = o.get? k' key' := by
  simp [get?, erase, table_setTable_of_ne o h]

/-! ## Elsewhere -/

section Elsewhere

variable {k k' : Kind} {key key' : ObjectKey}

theorem get?_put_elsewhere (o : Objects) (object : Object k') (h : (k', key') ≠ (k, key)) :
    (o.put key' object).get? k key = o.get? k key := by
  by_cases hk : k = k'
  · subst hk
    have hkey : key ≠ key' := fun hsame => h (by rw [hsame])
    rw [get?_put_self, if_neg hkey]
  · exact get?_put_of_ne o hk ..

theorem get?_erase_elsewhere (o : Objects) (h : (k', key') ≠ (k, key)) :
    (o.erase k' key').get? k key = o.get? k key := by
  by_cases hk : k = k'
  · subst hk
    have hkey : key ≠ key' := fun hsame => h (by rw [hsame])
    rw [get?_erase_self, if_neg hkey]
  · exact get?_erase_of_ne o hk ..

end Elsewhere

end Objects

end OdooKeeper
