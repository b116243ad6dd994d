import OdooKeeper.App.Sample
import OdooKeeper.Proofs.Undisturbed
import OdooKeeper.Proofs.WellFormed

/-! # Runs of passes

A run is a sequence of passes over one app that do not overlap. Between two of them others may change
the store, within what is said of them. -/

namespace OdooKeeper

/-- One pass of a run: how it was called, the store it began with, its requests and the store it
left. -/
structure Round where
  settings : PassSettings
  now : Timestamp
  fresh : String
  start : Store
  log : List Event
  stop : Store

/-- The round is a pass over the app with a key, and nobody disturbs it. -/
def Round.Passes (round : Round) (key : ObjectKey) : Prop :=
  ∃ result, (reconcile round.settings round.now round.fresh key.ns key.name).run.Executes Eq
    round.start round.log result round.stop

def Round.play (settings : PassSettings) (now : Timestamp) (fresh : String) (key : ObjectKey)
    (start : Store) : Round :=
  let played := (reconcile settings now fresh key.ns key.name).run.play [] start
  { settings, now, fresh, start, log := played.1, stop := played.2.2 }

@[simp] theorem Round.play_start (settings : PassSettings) (now : Timestamp) (fresh : String)
    (key : ObjectKey) (start : Store) : (play settings now fresh key start).start = start := rfl

theorem Round.passes_play (settings : PassSettings) (now : Timestamp) (fresh : String)
    (key : ObjectKey) (start : Store) : (play settings now fresh key start).Passes key :=
  ⟨_, Program.executes_play (fun _ => rfl) [] (by simp) _ start⟩

theorem Round.Passes.wellFormed {round : Round} {key : ObjectKey} (h : round.Passes key)
    (hstart : round.start.WellFormed) : round.stop.WellFormed := by
  obtain ⟨result, hpass⟩ := h
  exact hpass.wellFormed_alone hstart

/-- The runs from a store on: the rounds so far and the store they leave. `between` is what others
may do before a round. -/
inductive Run (between : Store → Store → Prop) (key : ObjectKey) (first : Store) :
    List Round → Store → Prop where
  | nil : Run between key first [] first
  | snoc {rounds : List Round} {s : Store} {round : Round} (before : Run between key first rounds s)
      (others : between s round.start) (pass : round.Passes key) :
      Run between key first (rounds ++ [round]) round.stop

section Run

variable {between : Store → Store → Prop} {key : ObjectKey} {first s : Store} {rounds : List Round}

theorem Run.mono {between' : Store → Store → Prop} (h : Run between key first rounds s)
    (himp : ∀ s s', between s s' → between' s s') : Run between' key first rounds s := by
  induction h with
  | nil => exact .nil
  | snoc before others pass ih => exact .snoc ih (himp _ _ others) pass

theorem Run.cut (h : Run between key first rounds s) {earlier later : List Round} {round : Round}
    (hrounds : rounds = earlier ++ round :: later) :
    ∃ s', Run between key first earlier s' ∧ between s' round.start ∧ round.Passes key := by
  induction h generalizing later with
  | nil => simp at hrounds
  | snoc before others pass ih =>
    -- The round is the last one, or one of those before it.
    rcases List.eq_nil_or_concat later with rfl | ⟨later, last, rfl⟩
    · obtain ⟨rfl, hround⟩ := List.append_inj' hrounds rfl
      cases hround
      exact ⟨_, before, others, pass⟩
    · rw [List.concat_eq_append, ← List.cons_append, ← List.append_assoc] at hrounds
      exact ih (List.append_inj' hrounds rfl).1

section Invariant

variable {holds : List (List Event) → Store → Prop} (start : holds [] first)
  (others : ∀ logs s s', holds logs s → between s s' → holds logs s')
  (pass : ∀ logs (round : Round), holds logs round.start → round.Passes key →
    holds (logs ++ [round.log]) round.stop)
include start others pass

theorem Run.invariant (h : Run between key first rounds s) : holds (rounds.map Round.log) s := by
  induction h with
  | nil => exact start
  | snoc before between run ih =>
    rw [List.map_append]
    exact pass _ _ (others _ _ _ ih between) run

theorem Run.invariant_cut (h : Run between key first rounds s) {earlier later : List Round}
    {round : Round} (hrounds : rounds = earlier ++ round :: later) :
    holds (earlier.map Round.log) round.start ∧ round.Passes key := by
  obtain ⟨s', hbefore, hbetween, hpass⟩ := h.cut hrounds
  exact ⟨others _ _ _ (hbefore.invariant start others pass) hbetween, hpass⟩

end Invariant

end Run

/-! ## What others may do -/

/-- The app stays, under its key and with its status. -/
def Store.KeepsStatus (key : ObjectKey) (s s' : Store) : Prop :=
  ∀ app : App, s.objects.get? .app key = some app →
    ∃ app' : App, s'.objects.get? .app key = some app' ∧ app'.key = key ∧
      app'.content.status = app.content.status

/-- No job is new, and none has another pod template. -/
def Store.KeepsTemplates (s s' : Store) : Prop :=
  ∀ key, ∀ job' : Job, s'.objects.get? .job key = some job' →
    ∃ job : Job, s.objects.get? .job key = some job ∧
      job'.content.spec.map Job.Spec.template = job.content.spec.map Job.Spec.template

/-- The app is stored under its key and has no status yet. -/
def Store.Untouched (s : Store) (key : ObjectKey) : Prop :=
  ∃ app : App, s.objects.get? .app key = some app ∧ app.key = key ∧ app.content.status = none

section Others

variable {s s' : Store} {key : ObjectKey} {spec : App.Spec} {p : Progress}

theorem Store.Untouched.holds (h : s.Untouched key) : ∃ spec, s.Holds key spec {} := by
  obtain ⟨app, happ, hkey, hstatus⟩ := h
  refine ⟨app.content.spec, app, happ, hkey, rfl, ?_⟩
  rw [App.progress, hstatus]
  rfl

theorem Store.KeepsStatus.holds (h : s.KeepsStatus key s') (hs : s.Holds key spec p) :
    ∃ spec', s'.Holds key spec' p := by
  obtain ⟨app, happ, -, -, hp⟩ := hs
  obtain ⟨app', happ', hkey', hstatus⟩ := h app happ
  refine ⟨app'.content.spec, app', happ', hkey', rfl, ?_⟩
  rw [App.progress, hstatus]
  exact hp

theorem Store.keepsStatus_of_table (hkey : (s.objects.get? .app key).all fun app : App => app.key = key)
    (h : s'.objects.table .app = s.objects.table .app) : s.KeepsStatus key s' := by
  intro app happ
  rw [happ] at hkey
  refine ⟨app, ?_, by simpa using hkey, rfl⟩
  rw [Objects.get?, h]
  exact happ

theorem Store.keepsTemplates_of_table (h : s'.objects.table .job = s.objects.table .job) :
    s.KeepsTemplates s' := by
  intro key job hjob
  rw [Objects.get?, h] at hjob
  exact ⟨job, hjob, rfl⟩

theorem Store.modify_table {k k' : Kind} (hk : k' ≠ k) (s : Store) (ns name : String)
    (change : Object k → Object k) :
    (s.modify k ns name change).objects.table k' = s.objects.table k' := by
  unfold Store.modify
  cases s.object? k ns name with
  | none => rfl
  | some object => exact Objects.table_setTable_of_ne _ hk _

theorem Store.get?_modify {k : Kind} (s : Store) (ns name : String) (change : Object k → Object k)
    (key : ObjectKey) :
    (s.modify k ns name change).objects.get? k key =
      if key = ⟨ns, name⟩ then
        (s.objects.get? k key).map fun object => stamp (change object) key (s.version + 1)
      else s.objects.get? k key := by
  unfold Store.modify Store.object?
  cases hget : s.objects.get? k ⟨ns, name⟩ with
  | none =>
    simp only
    split
    · rename_i hkey
      rw [hkey, hget]
      rfl
    · rfl
  | some object =>
    simp only [Store.putStamped, Objects.get?_put_self]
    split
    · rename_i hkey
      rw [hkey, hget]
      rfl
    · rfl

theorem Store.keepsTemplates_modify (s : Store) (ns name : String) {change : Job → Job}
    (h : ∀ job, (change job).content.spec = job.content.spec) :
    s.KeepsTemplates (s.modify .job ns name change) := by
  intro key job' hjob'
  rw [Store.get?_modify] at hjob'
  split at hjob'
  · obtain ⟨job, hjob, rfl⟩ := Option.map_eq_some_iff.mp hjob'
    exact ⟨job, hjob, by rw [← h job]; rfl⟩
  · exact ⟨job', hjob', rfl⟩

end Others

/-! ## A sample run -/

namespace Sample

def key : ObjectKey := ⟨"web", "shop"⟩

/-- A store with the sample app, without a status, and the secret that it reads. -/
def store : Store :=
  (({} : Store).insert (App.sample key.name key.ns)).insert
    (Secret.ofTexts key.ns "db-creds" [("password", "hunter2")])

def finish (job : Job) : Job :=
  { job with content := { job.content with status := some { succeeded := some 1 } } }

def starting : Round := .play {} (.ofUnix 0) "fresh" key store

def recording : Round :=
  .play {} (.ofUnix 60) "fresh" key (starting.stop.modify .job key.ns "shop-init" finish)

def serving : Round := .play {} (.ofUnix 120) "fresh" key recording.stop

theorem untouched : store.Untouched key :=
  ⟨_, rfl, rfl, rfl⟩

theorem recording_wellFormed : recording.start.WellFormed := by
  have hstore : store.WellFormed := (Store.wellFormed_empty.insert _).insert _
  have hstarting : starting.Passes key := Round.passes_play ..
  rw [recording, Round.play_start]
  exact (hstarting.wellFormed hstore).modify ..

theorem serving_wellFormed : serving.start.WellFormed := by
  have hrecording : recording.Passes key := Round.passes_play ..
  rw [serving, Round.play_start]
  exact hrecording.wellFormed recording_wellFormed

/-- The three passes, between which nothing happens but that the job succeeds. -/
theorem run : Run (fun s s' => s.KeepsStatus key s' ∧ s.KeepsTemplates s') key store
    [starting, recording, serving] serving.stop := by
  have hstarting : Run (fun s s' => s.KeepsStatus key s' ∧ s.KeepsTemplates s') key store
      [starting] starting.stop := by
    refine .snoc .nil ?_ (Round.passes_play ..)
    rw [starting, Round.play_start]
    exact ⟨Store.keepsStatus_of_table (by decide +kernel) rfl, Store.keepsTemplates_of_table rfl⟩
  have hrecording : Run (fun s s' => s.KeepsStatus key s' ∧ s.KeepsTemplates s') key store
      [starting, recording] recording.stop := by
    refine .snoc hstarting ?_ (Round.passes_play ..)
    rw [recording, Round.play_start]
    refine ⟨?_, Store.keepsTemplates_modify _ _ _ fun _ => rfl⟩
    exact Store.keepsStatus_of_table (by decide +kernel) (Store.modify_table (by simp) ..)
  refine .snoc hrecording ?_ (Round.passes_play ..)
  rw [serving, Round.play_start]
  exact ⟨Store.keepsStatus_of_table (by decide +kernel) rfl, Store.keepsTemplates_of_table rfl⟩

end Sample

end OdooKeeper
