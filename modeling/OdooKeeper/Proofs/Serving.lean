import OdooKeeper.App.Names
import OdooKeeper.Proofs.Execution

/-! # Serving a request

What a store is after a request. A refused request and one that only reads leave nothing but the
record of the request; any other changes objects of one kind. -/

namespace OdooKeeper

/-- The kind whose objects a request may change. -/
def Request.changes? : Request → Option Kind
  | .get .. => none
  | .create k .. => some k
  | .replace k .. => some k
  | .delete k .. => some k
  | .list .. => none
  | .replaceStatus _ => some .app

/-- The kind and the key of the object that a request may change. -/
def Request.target? : Request → Option (Kind × ObjectKey)
  | .get .. => none
  | .create k ns object => some (k, ⟨ns, object.name⟩)
  | .replace k ns object => some (k, ⟨ns, object.name⟩)
  | .delete k ns name => some (k, ⟨ns, name⟩)
  | .list .. => none
  | .replaceStatus app => some (.app, app.key)

/-- The kind and the key of the object that a request reads. -/
def Request.reads? : Request → Option (Kind × ObjectKey)
  | .get k ns name => some (k, ⟨ns, name⟩)
  | _ => none

theorem Request.changes?_eq (r : Request) : r.changes? = r.target?.map Prod.fst := by
  cases r <;> rfl

theorem Request.reads?_of_changes? {r : Request} {k : Kind} (h : r.changes? = some k) :
    r.reads? = none := by
  cases r with
  | get => cases h
  | _ => rfl

def Object.unversioned {k : Kind} (object : Object k) : Object k :=
  { object with metadata := { object.metadata with resourceVersion := none } }

theorem Object.eq_of_unversioned {k : Kind} {a b : Object k} (h : a.unversioned = b.unversioned)
    (hversion : a.metadata.resourceVersion = b.metadata.resourceVersion) : a = b := by
  let restored (object : Object k) (version : Option String) : Object k :=
    { object with metadata := { object.metadata with resourceVersion := version } }
  calc
    a = restored a.unversioned a.metadata.resourceVersion := rfl
    _ = restored b.unversioned b.metadata.resourceVersion := by rw [h, hversion]
    _ = b := rfl

namespace Store

variable {s : Store} {r : Request} {k : Kind}

def recording (s : Store) (r : Request) : Store := { s with calls := s.calls ++ [r.call] }

/-- Whether the store was told to refuse a request. -/
def Refuses (s : Store) (r : Request) : Prop := (r.call.verb, r.call.kind) ∈ s.refusals

@[simp] theorem recording_objects : (s.recording r).objects = s.objects := rfl

/-! ## Answers -/

theorem serve_refused (h : s.Refuses r) :
    s.serve r =
      (.error (.request s!"injected {r.call.verb.name} failure for {r.call.kind.name}"),
        s.recording r) := by
  unfold Refuses at h
  simp only [serve, if_pos h, recording]

theorem serve_granted (h : ¬ s.Refuses r) : s.serve r = (s.recording r).perform r := by
  unfold Refuses at h
  simp only [serve, if_neg h, recording]

theorem serve_cases (s : Store) (r : Request) :
    (∃ e, s.serve r = (.error e, s.recording r)) ∨
      ¬ s.Refuses r ∧ s.serve r = (s.recording r).perform r := by
  by_cases h : s.Refuses r
  · exact .inl ⟨_, serve_refused h⟩
  · exact .inr ⟨h, serve_granted h⟩

theorem not_refuses (h : s.refusals = []) (r : Request) : ¬ s.Refuses r := by
  simp [Refuses, h]

/-! ## Writing -/

def written (s : Store) (key : ObjectKey) (object : Object k) (cleared : KeySet) : Store :=
  { s with
    objects := s.objects.put key object
    version := s.version + 1
    clearedStatuses := cleared }

def without (s : Store) (k : Kind) (key : ObjectKey) (cleared : KeySet) : Store :=
  { s with objects := s.objects.erase k key, clearedStatuses := cleared }

/-- An object that replaces the stored one: the store keeps its identity. -/
def carried (ns : String) (object stored : Object k) : Object k :=
  { object with
    metadata :=
      { object.metadata with
        resourceVersion := stored.metadata.resourceVersion
        uid := stored.metadata.uid
        ns := some ns } }

def numbered (object : Object k) (version : Nat) : Object k :=
  { object with
    metadata := { object.metadata with resourceVersion := some (versionText version) } }

def withStatus (app : App) (status : Option App.Status) : App :=
  { app with content := { app.content with status } }

/-- What the store has at a key, whatever its version: the object, and whether its record bears the
mark of a status that was replaced by none. -/
def content? (s : Store) (k : Kind) (key : ObjectKey) : Option (Object k × Bool) :=
  (s.objects.get? k key).map fun object =>
    (object.unversioned, decide (k = .app) && s.clearedStatuses.contains key)

theorem content?_written (s : Store) (key : ObjectKey) (object : Object k) (cleared : KeySet) :
    (s.written key object cleared).content? k key =
      some (object.unversioned, decide (k = .app) && cleared.contains key) := by
  simp [content?, written]

theorem get?_putStamped (s : Store) (key : ObjectKey) (object : Object k) :
    (s.putStamped key object).objects.get? k key = some (stamp object key (s.version + 1)) :=
  (Objects.get?_put_self ..).trans (if_pos rfl)

theorem modify_of_get? {key : ObjectKey} {object : Object k} {change : Object k → Object k}
    (h : s.objects.get? k key = some object) :
    s.modify k key.ns key.name change = s.putStamped key (change object) := by
  unfold Store.modify object?
  rw [h]

theorem create_cases (s : Store) (ns : String) (object : Object k) :
    (∃ taken message, s.objects.get? k ⟨ns, object.name⟩ = some taken ∧
      s.create ns object = (.error (.conflict message), s)) ∨
    (∃ cleared, s.objects.get? k ⟨ns, object.name⟩ = none ∧
      s.create ns object = (.ok (stamp object ⟨ns, object.name⟩ (s.version + 1)),
        s.written ⟨ns, object.name⟩ (stamp object ⟨ns, object.name⟩ (s.version + 1)) cleared)) := by
  cases hget : s.objects.get? k ⟨ns, object.name⟩ with
  | some taken =>
    exact .inl ⟨taken, s!"{k.name} {object.name} already exists", rfl, by simp only [create, hget]⟩
  | none => exact .inr ⟨_, rfl, by simp only [create, hget]; rfl⟩

theorem replace_cases (s : Store) (ns : String) (object : Object k) :
    (s.objects.get? k ⟨ns, object.name⟩ = none ∧
      s.replace ns object = (.error (missingError k object.name), s)) ∨
    (∃ stored, s.objects.get? k ⟨ns, object.name⟩ = some stored ∧
      ((isStale object.metadata stored.metadata = true ∧
          s.replace ns object = (.error (staleError k object.name), s)) ∨
        (isStale object.metadata stored.metadata = false ∧
          carried ns object stored = stored ∧ s.replace ns object = (.ok stored, s)) ∨
        (∃ cleared, isStale object.metadata stored.metadata = false ∧
          (s.written ⟨ns, object.name⟩ (numbered (carried ns object stored) (s.version + 1))
            cleared).content? k ⟨ns, object.name⟩ ≠ s.content? k ⟨ns, object.name⟩ ∧
          s.replace ns object = (.ok (numbered (carried ns object stored) (s.version + 1)),
            s.written ⟨ns, object.name⟩ (numbered (carried ns object stored) (s.version + 1))
              cleared)))) := by
  cases hget : s.objects.get? k ⟨ns, object.name⟩ with
  | none => exact .inl ⟨rfl, by simp only [replace, hget]⟩
  | some stored =>
    refine .inr ⟨stored, rfl, ?_⟩
    cases hstale : isStale object.metadata stored.metadata with
    | true => exact .inl ⟨rfl, by simp only [replace, hget, hstale, if_true]⟩
    | false =>
      by_cases hsame : carried ns object stored = stored ∧
          ¬(k = .app ∧ s.clearedStatuses.contains ⟨ns, object.name⟩)
      · refine .inr (.inl ⟨rfl, hsame.1, ?_⟩)
        simp only [replace, hget, hstale, Bool.false_eq_true, if_false]
        exact if_pos hsame
      · refine .inr (.inr ⟨if k = .app then s.clearedStatuses.erase ⟨ns, object.name⟩
          else s.clearedStatuses, rfl, fun hcontent => hsame ?_, ?_⟩)
        · rw [content?_written, content?, hget, Option.map_some, Option.some.injEq,
            Prod.mk.injEq] at hcontent
          obtain ⟨hobject, hmark⟩ := hcontent
          refine ⟨Object.eq_of_unversioned hobject rfl, fun ⟨happ, hcleared⟩ => ?_⟩
          rw [OrdMap.contains] at hcleared
          simp [happ, OrdMap.contains, Option.isSome_iff_ne_none.mp hcleared] at hmark
        · simp only [replace, hget, hstale, Bool.false_eq_true, if_false]
          exact if_neg hsame

theorem replaceStatus_cases (s : Store) (app : App) :
    (s.objects.get? .app app.key = none ∧
      s.replaceStatus app = (.error (missingError .app app.instanceName), s)) ∨
    (∃ stored, s.objects.get? .app app.key = some stored ∧
      ((isStale app.metadata stored.metadata = true ∧
          s.replaceStatus app = (.error (staleError .app app.instanceName), s)) ∨
        (isStale app.metadata stored.metadata = false ∧
          app.content.status = stored.content.status ∧ s.replaceStatus app = (.ok stored, s)) ∨
        (∃ cleared, isStale app.metadata stored.metadata = false ∧
          app.content.status ≠ stored.content.status ∧
          s.replaceStatus app =
            (.ok (numbered (withStatus stored app.content.status) (s.version + 1)),
              s.written app.key (numbered (withStatus stored app.content.status) (s.version + 1))
                cleared)))) := by
  unfold App.key App.space App.instanceName
  cases hget : s.objects.get? .app ⟨app.metadata.space, app.metadata.anyName⟩ with
  | none => exact .inl ⟨rfl, by simp only [replaceStatus, hget]⟩
  | some stored =>
    refine .inr ⟨stored, rfl, ?_⟩
    cases hstale : isStale app.metadata stored.metadata with
    | true => exact .inl ⟨rfl, by simp only [replaceStatus, hget, hstale, if_true]⟩
    | false =>
      by_cases hsame : app.content.status = stored.content.status
      · refine .inr (.inl ⟨rfl, hsame, ?_⟩)
        simp only [replaceStatus, hget, hstale, Bool.false_eq_true, if_false]
        exact if_pos hsame
      · refine .inr (.inr ⟨if app.content.status.isNone then s.clearedStatuses.insert app.key ()
          else s.clearedStatuses.erase app.key, rfl, hsame, ?_⟩)
        simp only [replaceStatus, hget, hstale, Bool.false_eq_true, if_false]
        exact if_neg hsame

/-- A performed request leaves the store alone, or puts its object in under the next version, or
takes it away. It does not fail when the store changes. -/
theorem perform_cases (s : Store) (r : Request) :
    (s.perform r).2 = s ∨
    (∃ k key object cleared v, r.target? = some (k, key) ∧ (s.perform r).1 = .ok v ∧
      (s.perform r).2 = s.written (k := k) key (numbered object (s.version + 1)) cleared) ∨
    (∃ k key cleared v, r.target? = some (k, key) ∧ (s.perform r).1 = .ok v ∧
      (s.perform r).2 = s.without k key cleared) := by
  cases r with
  | get => exact .inl rfl
  | list => exact .inl rfl
  | create k ns object =>
    rcases create_cases s ns object with ⟨taken, message, -, h⟩ | ⟨cleared, -, h⟩
    · exact .inl (by rw [perform, h])
    · refine .inr (.inl ⟨k, _, stamp object ⟨ns, object.name⟩ (s.version + 1), cleared, _, rfl,
        by rw [perform, h], ?_⟩)
      rw [perform, h]
      rfl
  | replace k ns object =>
    rcases replace_cases s ns object with
      ⟨-, h⟩ | ⟨stored, -, ⟨-, h⟩ | ⟨-, -, h⟩ | ⟨cleared, -, -, h⟩⟩
    · exact .inl (by rw [perform, h])
    · exact .inl (by rw [perform, h])
    · exact .inl (by rw [perform, h])
    · exact .inr (.inl ⟨k, _, _, cleared, _, rfl, by rw [perform, h], by rw [perform, h]⟩)
  | delete k ns name => exact .inr (.inr ⟨k, _, _, _, rfl, rfl, rfl⟩)
  | replaceStatus app =>
    rcases replaceStatus_cases s app with
      ⟨-, h⟩ | ⟨stored, -, ⟨-, h⟩ | ⟨-, -, h⟩ | ⟨cleared, -, -, h⟩⟩
    · exact .inl (by rw [perform, h])
    · exact .inl (by rw [perform, h])
    · exact .inl (by rw [perform, h])
    · exact .inr (.inl ⟨.app, _, _, cleared, _, rfl, by rw [perform, h], by rw [perform, h]⟩)

/-! ## What stays -/

theorem serve_told (s : Store) (r : Request) :
    (s.serve r).2.refusals = s.refusals ∧ (s.serve r).2.calls = s.calls ++ [r.call] := by
  rcases serve_cases s r with ⟨e, h⟩ | ⟨-, h⟩ <;> rw [h]
  · exact ⟨rfl, rfl⟩
  · rcases perform_cases (s.recording r) r with hp | ⟨k, key, object, cleared, v, -, -, hp⟩ |
      ⟨k, key, cleared, v, -, -, hp⟩ <;> rw [hp] <;> exact ⟨rfl, rfl⟩

@[simp] theorem serve_refusals (s : Store) (r : Request) :
    (s.serve r).2.refusals = s.refusals :=
  (s.serve_told r).1

@[simp] theorem serve_calls (s : Store) (r : Request) :
    (s.serve r).2.calls = s.calls ++ [r.call] :=
  (s.serve_told r).2

theorem serve_version_le (s : Store) (r : Request) : s.version ≤ (s.serve r).2.version := by
  rcases serve_cases s r with ⟨e, h⟩ | ⟨-, h⟩ <;> rw [h]
  · exact Nat.le_refl _
  · rcases perform_cases (s.recording r) r with hp | ⟨k, key, object, cleared, v, -, -, hp⟩ |
      ⟨k, key, cleared, v, -, -, hp⟩ <;> rw [hp]
    · exact Nat.le_refl _
    · exact Nat.le_succ _
    · exact Nat.le_refl _

theorem serve_table (s : Store) {r : Request} (h : r.changes? ≠ some k) :
    (s.serve r).2.objects.table k = s.objects.table k := by
  rcases serve_cases s r with ⟨e, hs⟩ | ⟨-, hs⟩ <;> rw [hs]
  · rfl
  · rcases perform_cases (s.recording r) r with hp | ⟨k', key, object, cleared, v, hk, -, hp⟩ |
      ⟨k', key, cleared, v, hk, -, hp⟩ <;> rw [hp]
    · rfl
    · exact Objects.table_setTable_of_ne _ (fun he => h (by rw [r.changes?_eq, hk, he]; rfl)) _
    · exact Objects.table_setTable_of_ne _ (fun he => h (by rw [r.changes?_eq, hk, he]; rfl)) _

/-- A request changes its object only. -/
theorem serve_elsewhere (s : Store) {r : Request} {key : ObjectKey} (h : r.target? ≠ some (k, key)) :
    (s.serve r).2.objects.get? k key = s.objects.get? k key := by
  rcases serve_cases s r with ⟨e, hs⟩ | ⟨-, hs⟩ <;> rw [hs]
  · rfl
  · rcases perform_cases (s.recording r) r with hp |
      ⟨k', key', object, cleared, v, ht, -, hp⟩ | ⟨k', key', cleared, v, ht, -, hp⟩ <;> rw [hp]
    · rfl
    · exact Objects.get?_put_elsewhere _ _ fun hsame => h (by rw [ht, hsame])
    · exact Objects.get?_erase_elsewhere _ fun hsame => h (by rw [ht, hsame])

/-! ## Reading -/

theorem serve_reading (s : Store) {r : Request} (h : r.changes? = none) :
    (s.serve r).2 = s.recording r := by
  rcases serve_cases s r with ⟨e, hs⟩ | ⟨-, hs⟩ <;> rw [hs]
  cases r <;> first | rfl | cases h

theorem serve_get_granted {ns name : String} (h : ¬ s.Refuses (.get k ns name)) :
    s.serve (.get k ns name) =
      (.ok (s.objects.get? k ⟨ns, name⟩), s.recording (.get k ns name)) :=
  serve_granted h

theorem serve_get_ok {ns name : String} {found : Option (Object k)}
    (h : (s.serve (.get k ns name)).1 = .ok found) : s.objects.get? k ⟨ns, name⟩ = found := by
  rcases serve_cases s (.get k ns name) with ⟨e, hs⟩ | ⟨-, hs⟩ <;> rw [hs] at h
  · cases h
  · exact Except.ok.inj h

theorem executes_get {others : Store → Store → Prop} {role : Role} {operation : Operation}
    {name ns key : String} {log : List Event} {result : Except Failure (Option (Object k))} {t : Store}
    (h : (Attempt.request role operation name (Program.get k ns key)).run.Executes others s log result
      t) :
    ∃ u, others s u ∧ log = [⟨u, .get k ns key⟩] ∧ t = u.recording (.get k ns key) ∧
      ((∃ cause, (u.serve (.get k ns key)).1 = .error cause ∧
          result = .error (.store role operation name cause)) ∨
        result = .ok (u.objects.get? k ⟨ns, key⟩)) := by
  obtain ⟨u, hu, rfl, rfl, rfl⟩ := Attempt.executes_request h
  refine ⟨u, hu, rfl, serve_reading u rfl, ?_⟩
  cases hanswer : (u.serve (.get k ns key)).1 with
  | error cause => exact .inl ⟨cause, rfl, rfl⟩
  | ok found => exact .inr (by rw [serve_get_ok hanswer]; rfl)

/-! ## Creating, deleting and replacing -/

theorem serve_create_ok {ns : String} {object stored : Object k}
    (h : (s.serve (.create k ns object)).1 = .ok stored) :
    stored = stamp object ⟨ns, object.name⟩ (s.version + 1) ∧
      ∀ key, (s.serve (.create k ns object)).2.objects.get? k key =
        if key = ⟨ns, object.name⟩ then some stored else s.objects.get? k key := by
  rcases serve_cases s (.create k ns object) with ⟨e, hs⟩ | ⟨-, hs⟩ <;> rw [hs] at h ⊢
  · cases h
  rw [perform] at h ⊢
  rcases create_cases (s.recording (.create k ns object)) ns object with
    ⟨taken, message, -, hp⟩ | ⟨cleared, -, hp⟩ <;> rw [hp] at h ⊢
  · cases h
  · cases h
    exact ⟨rfl, fun key => Objects.get?_put_self ..⟩

theorem serve_create_conflict {ns message : String} {object : Object k}
    (h : (s.serve (.create k ns object)).1 = .error (.conflict message)) :
    (s.objects.get? k ⟨ns, object.name⟩).isSome := by
  by_cases hrefused : s.Refuses (.create k ns object)
  · rw [serve_refused hrefused] at h
    cases h
  · rw [serve_granted hrefused, perform] at h
    rcases create_cases (s.recording (.create k ns object)) ns object with
      ⟨taken, message, htaken, hp⟩ | ⟨cleared, -, hp⟩ <;> rw [hp] at h
    · exact Option.isSome_of_eq_some htaken
    · cases h

theorem serve_delete_ok {ns name : String} {done : Unit}
    (h : (s.serve (.delete k ns name)).1 = .ok done) :
    (s.serve (.delete k ns name)).2.objects = s.objects.erase k ⟨ns, name⟩ := by
  rcases serve_cases s (.delete k ns name) with ⟨e, hs⟩ | ⟨-, hs⟩ <;> rw [hs] at h ⊢
  · cases h
  · rfl

theorem serve_replace_ok {ns : String} {object stored : Object k}
    (h : (s.serve (.replace k ns object)).1 = .ok stored) :
    ∃ old, s.objects.get? k ⟨ns, object.name⟩ = some old ∧
      isStale object.metadata old.metadata = false ∧ stored.content = object.content ∧
      stored.metadata =
        { object.metadata with
          resourceVersion := stored.metadata.resourceVersion
          uid := old.metadata.uid
          ns := some ns } ∧
      ∀ key, (s.serve (.replace k ns object)).2.objects.get? k key =
        if key = ⟨ns, object.name⟩ then some stored else s.objects.get? k key := by
  rcases serve_cases s (.replace k ns object) with ⟨e, hs⟩ | ⟨-, hs⟩ <;> rw [hs] at h ⊢
  · cases h
  rw [perform] at h ⊢
  rcases replace_cases (s.recording (.replace k ns object)) ns object with
    ⟨-, hp⟩ | ⟨old, hget, ⟨-, hp⟩ | ⟨hstale, hsame, hp⟩ | ⟨cleared, hstale, -, hp⟩⟩ <;>
    rw [hp] at h ⊢
  · cases h
  · cases h
  · cases h
    refine ⟨_, hget, hstale, ?_, ?_, fun key => ?_⟩
    · rw [← hsame]
      rfl
    · conv => lhs; rw [← hsame]
      rfl
    · split
      · rename_i hkey
        rw [hkey, hget]
      · rfl
  · cases h
    exact ⟨old, hget, hstale, rfl, rfl, fun key => Objects.get?_put_self ..⟩

theorem serve_replace_granted {ns : String} {object old : Object k}
    (hget : s.objects.get? k ⟨ns, object.name⟩ = some old)
    (hversion : object.metadata.resourceVersion = old.metadata.resourceVersion)
    (h : ¬ s.Refuses (.replace k ns object)) :
    ∃ stored, (s.serve (.replace k ns object)).1 = .ok stored := by
  have hcurrent : isStale object.metadata old.metadata = false := by simp [isStale, hversion]
  rw [serve_granted h, perform]
  rcases replace_cases (s.recording (.replace k ns object)) ns object with
    ⟨hnone, hp⟩ | ⟨old', hsome, ⟨hstale, hp⟩ | ⟨-, -, hp⟩ | ⟨cleared, -, -, hp⟩⟩
  · rw [recording_objects, hget] at hnone
    cases hnone
  · rw [recording_objects, hget] at hsome
    cases hsome
    rw [hcurrent] at hstale
    cases hstale
  · exact ⟨_, by rw [hp]⟩
  · exact ⟨_, by rw [hp]⟩

/-! ## Writing a status -/

theorem serve_status_ok {app stored : App} (h : (s.serve (.replaceStatus app)).1 = .ok stored) :
    ∃ old, s.objects.get? .app app.key = some old ∧ isStale app.metadata old.metadata = false ∧
      stored.metadata =
        { old.metadata with resourceVersion := stored.metadata.resourceVersion } ∧
      stored.content = { old.content with status := app.content.status } ∧
      ∀ key, (s.serve (.replaceStatus app)).2.objects.get? .app key =
        if key = app.key then some stored else s.objects.get? .app key := by
  rcases serve_cases s (.replaceStatus app) with ⟨e, hs⟩ | ⟨-, hs⟩ <;> rw [hs] at h ⊢
  · cases h
  rw [perform] at h ⊢
  rcases replaceStatus_cases (s.recording (.replaceStatus app)) app with
    ⟨-, hp⟩ | ⟨old, hget, ⟨-, hp⟩ | ⟨hstale, hsame, hp⟩ | ⟨cleared, hstale, -, hp⟩⟩ <;>
    rw [hp] at h ⊢
  · cases h
  · cases h
  · cases h
    refine ⟨_, hget, hstale, rfl, by rw [hsame], fun key => ?_⟩
    split
    · rename_i hkey
      rw [hkey, hget]
    · rfl
  · cases h
    exact ⟨old, hget, hstale, rfl, rfl, fun key => Objects.get?_put_self ..⟩

theorem serve_status_granted {app old : App} (hget : s.objects.get? .app app.key = some old)
    (hversion : app.metadata.resourceVersion = old.metadata.resourceVersion)
    (h : ¬ s.Refuses (.replaceStatus app)) :
    ∃ stored, (s.serve (.replaceStatus app)).1 = .ok stored := by
  have hstale : isStale app.metadata old.metadata = false := by simp [isStale, hversion]
  rw [serve_granted h, perform]
  rcases replaceStatus_cases (s.recording (.replaceStatus app)) app with
    ⟨hnone, hp⟩ | ⟨old', hsome, ⟨hstale', hp⟩ | ⟨-, -, hp⟩ | ⟨cleared, -, -, hp⟩⟩
  · rw [recording_objects, hget] at hnone
    cases hnone
  · rw [recording_objects, hget] at hsome
    cases hsome
    rw [hstale] at hstale'
    cases hstale'
  · exact ⟨_, by rw [hp]⟩
  · exact ⟨_, by rw [hp]⟩

/-! ## Failing -/

theorem not_refuses_of_ok {value : r.Value} (h : (s.serve r).1 = .ok value) : ¬ s.Refuses r := by
  intro hrefused
  rw [serve_refused hrefused] at h
  cases h

theorem serve_error {e : StoreError} (h : (s.serve r).1 = .error e) :
    (s.serve r).2 = s.recording r := by
  rcases serve_cases s r with ⟨e, hs⟩ | ⟨-, hs⟩
  · rw [hs]
  · rw [hs] at h ⊢
    rcases perform_cases (s.recording r) r with hp | ⟨k, key, object, cleared, v, -, hv, -⟩ |
      ⟨k, key, cleared, v, -, hv, -⟩
    · exact hp
    · rw [hv] at h; cases h
    · rw [hv] at h; cases h

end Store

end OdooKeeper
