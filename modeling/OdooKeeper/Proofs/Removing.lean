import OdooKeeper.Proofs.Effects
import OdooKeeper.Proofs.Selecting
import OdooKeeper.Proofs.Tracker

/-! # What is removed with a job

The pods of a job are found by a label that bears its name. The tracker changes no job but the one
that is recorded and the app's own, and no pods but theirs. -/

namespace OdooKeeper

/-! ## Names in selectors -/

namespace Text

/-- The text has no comma, and no blank at either end. -/
structure IsPlain (text : String) : Prop where
  comma : ',' ∉ text.toList
  first : ∀ c, text.toList.head? = some c → isBlank c = false
  last : ∀ c, text.toList.getLast? = some c → isBlank c = false

theorem isPlain_iff {text : String} : IsPlain text ↔ ',' ∉ text.toList ∧
    (text.toList.head?.all fun c => !isBlank c) = true ∧
    (text.toList.getLast?.all fun c => !isBlank c) = true := by
  simp only [Option.all_eq_true, Bool.not_eq_true']
  exact ⟨fun h => ⟨h.comma, h.first, h.last⟩, fun h => ⟨h.1, h.2.1, h.2.2⟩⟩

instance (text : String) : Decidable (IsPlain text) := decidable_of_iff _ isPlain_iff.symm

namespace IsPlain

variable {text rest : String}

theorem append (h : IsPlain text) (hrest : IsPlain rest) : IsPlain (text ++ rest) := by
  refine ⟨?_, fun c hc => ?_, fun c hc => ?_⟩
  · rw [String.toList_append, List.mem_append, not_or]
    exact ⟨h.comma, hrest.comma⟩
  · rw [String.toList_append, List.head?_append, Option.or_eq_some_iff] at hc
    exact hc.elim (h.first c) fun hc => hrest.first c hc.2
  · rw [String.toList_append, List.getLast?_append, Option.or_eq_some_iff] at hc
    exact hc.elim (hrest.last c) fun hc => h.last c hc.2

theorem trimmed (h : IsPlain text) : Trimmed text.toList := ⟨h.first, h.last⟩

end IsPlain

end Text

theorem Selector.parse_job {job : String} (h : Text.IsPlain job) :
    parse ("job-name=" ++ job) = [("job-name", job)] := by
  have hwrites : Writes ("job-name=" ++ job) ("job-name", job) :=
    ⟨"job-name".toList, job.toList, by simp [String.toList_append], .refl _, .refl _⟩
  have hkey : Text.Trimmed "job-name".toList ∧ ',' ∉ "job-name".toList ∧
      '=' ∉ "job-name".toList := by decide
  have hselectable : Selectable ("job-name", job) :=
    ⟨hkey.1, h.trimmed, hkey.2.1, h.comma, hkey.2.2⟩
  exact parse_of_spells (.label hwrites .nil) (by simpa using hselectable)

/-! ## Lists -/

namespace Store

theorem mem_of_serve_list {s : Store} {k : Kind} {ns selector : String} {objects : List (Object k)}
    (h : (s.serve (.list k ns selector)).1 = .ok objects) {object : Object k} :
    object ∈ objects ↔
      ∃ key, s.objects.get? k key = some object ∧ key.ns = ns ∧ hasLabels selector object = true := by
  rcases serve_cases s (.list k ns selector) with ⟨e, hs⟩ | ⟨-, hs⟩ <;> rw [hs] at h
  · cases h
  cases h
  constructor
  · intro hobject
    obtain ⟨⟨key, stored⟩, hmem, hsome⟩ := List.mem_filterMap.mp hobject
    simp only [Option.ite_none_right_eq_some, Option.some.injEq] at hsome
    obtain ⟨⟨hns, hlabels⟩, rfl⟩ := hsome
    exact ⟨key, OrdMap.get?_of_mem hmem, hns, hlabels⟩
  · rintro ⟨key, hstored, hns, hlabels⟩
    exact List.mem_filterMap.mpr ⟨(key, object), OrdMap.mem_entries.mpr hstored,
      if_pos ⟨hns, hlabels⟩⟩

theorem hasLabels_job {job : String} (hjob : Text.IsPlain job) (pod : Pod) :
    hasLabels ("job-name=" ++ job) pod = true ↔ pod.metadata.label? "job-name" = some job := by
  rw [hasLabels, Selector.parse_job hjob]
  simp

end Store

/-! ## Jobs with their pods -/

namespace Objects

/-- Every pod bears the name that it is stored under. -/
def NamesPods (o : Objects) : Prop :=
  ∀ key, ∀ pod : Pod, o.get? .pod key = some pod → pod.metadata.name = some key.name

/-- A job and the pods in its namespace that bear its name as a label. -/
inductive PartOfJob (o : Objects) (job : ObjectKey) : Kind → ObjectKey → Prop where
  | job : PartOfJob o job .job job
  | pod {key : ObjectKey} {pod : Pod} (stored : o.get? .pod key = some pod)
      (ns : key.ns = job.ns) (label : pod.metadata.label? "job-name" = some job.name) :
      PartOfJob o job .pod key

variable {o o' : Objects}

theorem partOfJob_iff {job key : ObjectKey} {k : Kind} : o.PartOfJob job k key ↔
    k = .job ∧ key = job ∨ k = .pod ∧ key.ns = job.ns ∧
      (o.get? .pod key).any fun pod : Pod => pod.metadata.label? "job-name" = some job.name := by
  constructor
  · rintro (_ | ⟨stored, ns, label⟩)
    · exact .inl ⟨rfl, rfl⟩
    · exact .inr ⟨rfl, ns, by rw [stored]; exact decide_eq_true label⟩
  · rintro (⟨rfl, rfl⟩ | ⟨rfl, ns, hlabel⟩)
    · exact .job
    · obtain ⟨pod, stored, label⟩ := (Option.any_eq_true ..).mp hlabel
      exact .pod stored ns (of_decide_eq_true label)

instance (o : Objects) (job key : ObjectKey) (k : Kind) : Decidable (o.PartOfJob job k key) :=
  decidable_of_iff _ partOfJob_iff.symm

theorem NamesPods.of_table (h : o.NamesPods) (hsame : o'.table .pod = o.table .pod) :
    o'.NamesPods := by
  unfold NamesPods get?
  rw [hsame]
  exact h

theorem NamesPods.insert {s : Store} {k : Kind} {object : Object k} (h : s.objects.NamesPods)
    (hnamed : k = .pod → object.metadata.name.isSome) : (s.insert object).objects.NamesPods := by
  intro key pod hpod
  rcases get?_put_some hpod with hpod | ⟨rfl, ⟨⟩⟩
  · exact h key pod hpod
  · obtain ⟨name, hname⟩ := Option.isSome_iff_exists.mp (hnamed rfl)
    rw [Object.name, hname]
    exact hname

theorem PartOfJob.of_table {job key : ObjectKey} {k : Kind} (h : o.PartOfJob job k key)
    (hsame : o'.table .pod = o.table .pod) : o'.PartOfJob job k key := by
  cases h with
  | job => exact .job
  | pod stored ns label =>
    refine .pod ?_ ns label
    rw [get?, hsame]
    exact stored

theorem NamesPods.listed_iff {s : Store} (h : s.objects.NamesPods) {ns job : String}
    (hjob : Text.IsPlain job) {pods : List Pod}
    (hlist : (s.serve (.list .pod ns ("job-name=" ++ job))).1 = .ok pods) {key : ObjectKey} :
    s.objects.PartOfJob ⟨ns, job⟩ .pod key ↔ ∃ pod ∈ pods, key = ⟨ns, pod.metadata.anyName⟩ := by
  have hkey : ∀ {key : ObjectKey} {pod : Pod}, s.objects.get? .pod key = some pod → key.ns = ns →
      key = ⟨ns, pod.metadata.anyName⟩ := by
    intro key pod hstored hns
    unfold Metadata.anyName
    rw [h key pod hstored, ← hns]
    rfl
  constructor
  · rintro (_ | ⟨hstored, hns, hlabel⟩)
    exact ⟨_, (Store.mem_of_serve_list hlist).mpr
      ⟨key, hstored, hns, (Store.hasLabels_job hjob _).mpr hlabel⟩, hkey hstored hns⟩
  · rintro ⟨pod, hpod, rfl⟩
    obtain ⟨key, hstored, hns, hlabels⟩ := (Store.mem_of_serve_list hlist).mp hpod
    rw [← hkey hstored hns]
    exact .pod hstored hns ((Store.hasLabels_job hjob pod).mp hlabels)

end Objects

/-! ## The tracker -/

namespace InitJob

variable {s u : Store} {app : App} {status : App.Status}

theorem remove_within (ns : String) {job : String} (hpods : s.objects.NamesPods)
    (hjob : Text.IsPlain job) :
    (remove ns job).run.Meets Eq s
      fun log _ _ => ∀ e ∈ log, e.Within (s.objects.PartOfJob ⟨ns, job⟩) := by
  unfold remove
  refine Attempt.meets_bind (Attempt.meets_request fun s' hs' => ?_)
  subst hs'
  cases hlist : (s.serve (.list .pod ns ("job-name=" ++ job))).1 with
  | error cause => exact List.forall_mem_singleton.mpr (Event.within_of_reads rfl)
  | ok pods =>
    intro log result t hexecutes
    refine List.forall_mem_append.mpr
      ⟨List.forall_mem_singleton.mpr (Event.within_of_reads rfl), ?_⟩
    have hpod : ∀ pod ∈ pods, (Request.delete .pod ns pod.metadata.anyName).Targets
        (s.objects.PartOfJob ⟨ns, job⟩) := by
      rintro pod hpod _ _ ⟨⟩
      exact (hpods.listed_iff hjob hlist).mpr ⟨pod, hpod, rfl⟩
    have hself : (Request.delete .job ns job).Targets (s.objects.PartOfJob ⟨ns, job⟩) := by
      rintro _ _ ⟨⟩
      exact .job
    have hasks : (pods.forM (fun pod : Pod => Attempt.request .initJobPod .delete
        pod.metadata.anyName (Program.delete .pod ns pod.metadata.anyName)) >>= fun _ =>
          Attempt.request .initJob .delete job (Program.delete .job ns job)).Asks
        (Request.Targets (s.objects.PartOfJob ⟨ns, job⟩)) fun _ => True :=
      Attempt.asks_bind ((Attempt.asks_forM fun pod hmem => Attempt.asks_request (hpod pod hmem)
        fun _ => trivial).mono fun _ _ => Attempt.asks_request hself fun _ => trivial)
    exact fun e he => .inr ((hexecutes.asked hasks).1 e he)

theorem reusable_within (ns : String) {name : String} (modules : List String)
    (hpods : s.objects.NamesPods) (hname : Text.IsPlain name) :
    (reusable ns name modules).run.Meets Eq s
      fun log _ _ => ∀ e ∈ log, e.Within (s.objects.PartOfJob ⟨ns, name⟩) := by
  have hread : ∀ u : Store, Event.Within (s.objects.PartOfJob ⟨ns, name⟩) ⟨u, .get .job ns name⟩ :=
    fun u => Event.within_of_reads rfl
  refine reusable_cases (fun u _ _ => List.forall_mem_singleton.mpr (hread u))
    (fun u _ _ => List.forall_mem_singleton.mpr (hread u))
    (fun u _ _ _ _ _ => List.forall_mem_singleton.mpr (hread u)) ?_
  rintro u job rfl - -
  have hremove := remove_within (s := s.recording (.get .job ns name)) ns hpods hname
  exact hremove.mono fun log _ _ hlog => List.forall_mem_cons.mpr ⟨hread s, hlog⟩

theorem startIfNeeded_within (poll : Nat) (installed : List String) (updates : List StatusUpdate)
    (hpods : s.objects.NamesPods) (hname : Text.IsPlain app.initJobName) :
    (startIfNeeded poll app installed updates).Meets Eq s
      fun log _ _ => ∀ e ∈ log, e.Within (s.objects.PartOfJob app.initJobKey) := by
  have hcreate : ∀ u : Store,
      Event.Within (s.objects.PartOfJob app.initJobKey) ⟨u, app.initJobRequest⟩ := by
    refine fun u => .inr fun k key htarget => ?_
    cases htarget
    rw [Object.ensureOwner_name]
    exact .job
  refine startIfNeeded_cases (by simp) (fun _ u _ _ => List.forall_mem_singleton.mpr (hcreate u))
    (fun _ u _ _ _ _ _ => List.forall_mem_singleton.mpr (hcreate u)) ?_
  rintro - u rfl -
  have hreusable := reusable_within (s := s.recording app.initJobRequest) app.space
    app.content.spec.modules hpods hname
  refine hreusable.mono fun log result t hlog => ?_
  have hall := List.forall_mem_cons.mpr ⟨hcreate s, hlog⟩
  split
  · exact hall
  · exact fun _ => hall
  · exact hall

theorem advance_within (poll : Nat) (ns : String) {record : JobRecord} (job : Job)
    (hpods : s.objects.NamesPods) (hname : Text.IsPlain record.name) :
    (advance poll ns record job).Meets Eq s
      fun log _ _ => ∀ e ∈ log, e.Within (s.objects.PartOfJob ⟨ns, record.name⟩) :=
  advance_cases (by simp) fun _ _ _ => remove_within ns hpods hname

/-- The tracker changes the app's own job, the one that is recorded, and their pods. -/
theorem track_within (poll : Nat) (hpods : s.objects.NamesPods) (hown : Text.IsPlain app.initJobName)
    (hrecorded : Text.IsPlain status.initJob.name) :
    (track poll app status).Meets Eq s fun log _ _ => ∀ e ∈ log, e.Within fun k key =>
      s.objects.PartOfJob app.initJobKey k key ∨
        status.initJob.isIdle = false ∧ s.objects.PartOfJob (recordedKey app status.initJob) k key := by
  cases hrecord : status.initJob.isIdle with
  | true =>
    rw [track_unrecorded hrecord]
    exact (startIfNeeded_within poll _ _ hpods hown).mono fun log _ _ hlog e he =>
      (hlog e he).mono fun k key hpart => .inl hpart
  | false =>
    refine track_recorded hrecord (fun e _ _ hreads => ?_) (fun e hbefore hreads _ => ?_)
      fun e job hbefore hfound => ?_
    · exact List.forall_mem_singleton.mpr (Event.within_of_reads hreads)
    · have hafter : e.after.objects = s.objects := by rw [e.after_of_reads hreads, hbefore]
      refine (startIfNeeded_within poll _ _ (hafter ▸ hpods) hown).mono fun log _ _ hlog => ?_
      rw [hafter] at hlog
      refine List.forall_mem_cons.mpr ⟨Event.within_of_reads hreads, fun e' he' => ?_⟩
      exact (hlog e' he').mono fun k key hpart => .inl hpart
    · have hafter : e.after.objects = s.objects := by rw [e.after_of_reads hfound.reads, hbefore]
      refine (advance_within poll _ job (hafter ▸ hpods) hrecorded).mono fun log _ _ hlog => ?_
      rw [hafter] at hlog
      refine List.forall_mem_cons.mpr ⟨Event.within_of_reads hfound.reads, fun e' he' => ?_⟩
      exact (hlog e' he').mono fun k key hpart => .inr ⟨rfl, hpart⟩

end InitJob

end OdooKeeper
