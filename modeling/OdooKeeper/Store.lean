import OdooKeeper.Store.Objects
import OdooKeeper.Store.Program
import OdooKeeper.Store.Selector

/-! # The store in memory

A store that keeps its objects in memory, numbers their versions, records every request, and can be
told to refuse some. -/

namespace OdooKeeper

/-- The state of the store. `version` is the last version number given out. An app whose status was
replaced by none is listed in `clearedStatuses` until it is written anew: its record still bears a
mark in place of the status, which a replacement without a status does not bear. -/
structure Store where
  objects : Objects := {}
  version : Nat := 0
  clearedStatuses : KeySet := ∅
  refusals : List (Verb × Kind) := []
  calls : List Call := []

namespace Store

variable {k : Kind}

/-! ## Stamping -/

def versionText (version : Nat) : String := String.ofList (Nat.toDigits 10 version)

/-- The metadata of an object that is put at a key under a new version. An identity that is missing
is made from the name and the version. -/
def stampMetadata (m : Metadata) (key : ObjectKey) (version : Nat) : Metadata :=
  { m with
    ns := some key.ns
    resourceVersion := some (versionText version)
    uid := some (m.uid.getD s!"uid-{key.name}-{versionText version}") }

/-- The object as it is stored at a key under a new version. -/
def stamp (object : Object k) (key : ObjectKey) (version : Nat) : Object k :=
  { object with metadata := stampMetadata object.metadata key version }

/-- Puts an object at a key under the version after the last one, whether or not there is one. -/
def putStamped (s : Store) (key : ObjectKey) (object : Object k) : Store :=
  { s with
    objects := s.objects.put key (stamp object key (s.version + 1))
    version := s.version + 1
    clearedStatuses := if k = .app then s.clearedStatuses.erase key else s.clearedStatuses }

/-! ## Access without requests -/

def object? (s : Store) (k : Kind) (ns name : String) : Option (Object k) :=
  s.objects.get? k ⟨ns, name⟩

/-- Puts an object in its own namespace and under its own name. -/
def insert (s : Store) (object : Object k) : Store :=
  s.putStamped ⟨object.metadata.space, object.name⟩ object

def modify (s : Store) (k : Kind) (ns name : String) (change : Object k → Object k) : Store :=
  match s.object? k ns name with
  | some object => s.putStamped ⟨ns, name⟩ (change object)
  | none => s

/-- How many objects of a kind a namespace has. -/
def count (s : Store) (k : Kind) (ns : String) : Nat :=
  ((s.objects.table k).keys.filter fun key => key.ns = ns).length

/-- Refuses every request of a verb on a kind from now on. -/
def refuse (s : Store) (verb : Verb) (kind : Kind) : Store :=
  { s with refusals := s.refusals ++ [(verb, kind)] }

def heal (s : Store) : Store := { s with refusals := [] }

/-! ## Requests -/

/-- Whether the sender of an object knew a version other than the stored one. An object without a
version is no such sender's. -/
def isStale (sent stored : Metadata) : Bool :=
  sent.resourceVersion.isSome && sent.resourceVersion != stored.resourceVersion

def staleError (k : Kind) (name : String) : StoreError :=
  .conflict s!"{k.name} {name} has been modified"

def missingError (k : Kind) (name : String) : StoreError := .request s!"{k.name} {name} not found"

/-- Whether an object has all labels of a selector. -/
def hasLabels (selector : String) (object : Object k) : Bool :=
  (Selector.parse selector).all fun (key, value) => object.metadata.label? key = some value

def create (s : Store) (ns : String) (object : Object k) :
    Except StoreError (Object k) × Store :=
  let key : ObjectKey := ⟨ns, object.name⟩
  match s.objects.get? k key with
  | some _ => (.error (.conflict s!"{k.name} {object.name} already exists"), s)
  | none => (.ok (stamp object key (s.version + 1)), s.putStamped key object)

/-- An object in the place of the stored one, which keeps its identity. Writing what is stored
already changes nothing. -/
def replace (s : Store) (ns : String) (object : Object k) :
    Except StoreError (Object k) × Store :=
  let key : ObjectKey := ⟨ns, object.name⟩
  match s.objects.get? k key with
  | none => (.error (missingError k object.name), s)
  | some stored =>
    if isStale object.metadata stored.metadata then (.error (staleError k object.name), s)
    else
      let same : Object k :=
        { object with
          metadata :=
            { object.metadata with
              resourceVersion := stored.metadata.resourceVersion
              uid := stored.metadata.uid
              ns := some ns } }
      if same = stored ∧ ¬(k = .app ∧ s.clearedStatuses.contains key) then (.ok stored, s)
      else
        let next : Object k :=
          { same with
            metadata :=
              { same.metadata with resourceVersion := some (versionText (s.version + 1)) } }
        (.ok next,
          { s with
            objects := s.objects.put key next
            version := s.version + 1
            clearedStatuses :=
              if k = .app then s.clearedStatuses.erase key else s.clearedStatuses })

/-- The status of an app in the place of the stored one. Writing the stored status changes
nothing. -/
def replaceStatus (s : Store) (app : App) : Except StoreError App × Store :=
  let name := app.metadata.anyName
  let key : ObjectKey := ⟨app.metadata.space, name⟩
  match s.objects.get? .app key with
  | none => (.error (missingError .app name), s)
  | some stored =>
    if isStale app.metadata stored.metadata then (.error (staleError .app name), s)
    else if app.content.status = stored.content.status then (.ok stored, s)
    else
      let next : App :=
        { metadata :=
            { stored.metadata with resourceVersion := some (versionText (s.version + 1)) }
          content := { stored.content with status := app.content.status } }
      (.ok next,
        { s with
          objects := s.objects.put key next
          version := s.version + 1
          clearedStatuses :=
            if app.content.status.isNone then s.clearedStatuses.insert key ()
            else s.clearedStatuses.erase key })

def perform (s : Store) : (r : Request) → r.Answer × Store
  | .get k ns name => (.ok (s.objects.get? k ⟨ns, name⟩), s)
  | .create _ ns object => s.create ns object
  | .replace _ ns object => s.replace ns object
  | .delete k ns name =>
    (.ok (),
      { s with
        objects := s.objects.erase k ⟨ns, name⟩
        clearedStatuses :=
          if k = .app then s.clearedStatuses.erase ⟨ns, name⟩ else s.clearedStatuses })
  | .list k ns selector =>
    (.ok ((s.objects.table k).entries.filterMap fun (key, object) =>
      if key.ns = ns ∧ hasLabels selector object then some object else none), s)
  | .replaceStatus app => s.replaceStatus app

def serve (s : Store) (r : Request) : r.Answer × Store :=
  let recorded : Store := { s with calls := s.calls ++ [r.call] }
  if (r.call.verb, r.call.kind) ∈ s.refusals then
    (.error (.request s!"injected {r.call.verb.name} failure for {r.call.kind.name}"), recorded)
  else recorded.perform r

end Store

/-- Runs a program on a store that nobody else changes meanwhile. -/
def Program.run {α : Type} : Program α → Store → α × Store
  | .done a, s => (a, s)
  | .call r next, s => (next (s.serve r).1).run (s.serve r).2

namespace Program

variable {α β : Type}

@[simp] theorem run_done (a : α) (s : Store) : (Program.done a).run s = (a, s) := rfl

@[simp] theorem run_call (r : Request) (next : r.Answer → Program α) (s : Store) :
    (Program.call r next).run s = (next (s.serve r).1).run (s.serve r).2 := rfl

@[simp] theorem run_ask (r : Request) (s : Store) : (ask r).run s = s.serve r := rfl

theorem run_bind (p : Program α) (f : α → Program β) (s : Store) :
    (p >>= f).run s = (f (p.run s).1).run (p.run s).2 := by
  induction p generalizing s with
  | done a => rfl
  | call r next ih => exact ih ..

end Program

end OdooKeeper
