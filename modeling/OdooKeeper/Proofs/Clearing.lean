import OdooKeeper.Proofs.Leaking
import OdooKeeper.Proofs.Removing

/-! # Clearing a job away

Removing a job takes its pods away, then the job, and nothing else. Where the store refuses a part of
that, some of the pods may have gone, but the job has not. -/

namespace OdooKeeper

/-! ## Losses -/

namespace Objects

/-- All objects are as they were, but for some that are gone from some places. -/
def Loses (o : Objects) (places : Kind → ObjectKey → Prop) (o' : Objects) : Prop :=
  ∀ k key, o'.get? k key = o.get? k key ∨ places k key ∧ o'.get? k key = none

variable {o o' o'' : Objects} {places places' : Kind → ObjectKey → Prop} {k : Kind} {key : ObjectKey}

theorem Loses.refl (o : Objects) (places : Kind → ObjectKey → Prop) : o.Loses places o :=
  fun _ _ => .inl rfl

theorem Loses.trans (h : o.Loses places o') (h' : o'.Loses places o'') : o.Loses places o'' := by
  intro k key
  rcases h' k key with hsame | hgone
  · rw [hsame]
    exact h k key
  · exact .inr hgone

theorem Loses.mono (h : o.Loses places o') (himp : ∀ k key, places k key → places' k key) :
    o.Loses places' o' :=
  fun k key => (h k key).imp_right fun ⟨hplace, hgone⟩ => ⟨himp k key hplace, hgone⟩

theorem Loses.kept (h : o.Loses places o') (hplace : ¬ places k key) :
    o'.get? k key = o.get? k key :=
  (h k key).resolve_right fun ⟨hlost, _⟩ => hplace hlost

theorem Loses.gone (h : o.Loses places o') (hgone : o.get? k key = none) : o'.get? k key = none := by
  rcases h k key with hsame | ⟨-, hnone⟩
  · rw [hsame, hgone]
  · exact hnone

theorem loses_erase (o : Objects) (hplace : places k key) : o.Loses places (o.erase k key) := by
  intro k' key'
  by_cases hsame : (k, key) = (k', key')
  · cases hsame
    exact .inr ⟨hplace, (get?_erase_self ..).trans (if_pos rfl)⟩
  · exact .inl (get?_erase_elsewhere o hsame)

end Objects

/-! ## Deletions -/

section Deletions

variable {others : Store → Store → Prop} {s t : Store} {log : List Event} {k : Kind} {ns : String}
  {role : Role}

-- Nobody else changes objects, though the store may refuse one request and grant the next.
variable (hothers : ∀ s s', others s s' → s'.objects = s.objects)
include hothers

theorem Attempt.executes_read {r : Request} {operation : Operation} {name : String}
    {result : Except Failure r.Value} (hr : r.changes? = none)
    (h : (request role operation name (Program.ask r)).run.Executes others s log result t) :
    t.objects = s.objects := by
  obtain ⟨u, hu, -, -, rfl⟩ := executes_request h
  rw [Store.serve_reading u hr, Store.recording_objects, hothers s u hu]

theorem Attempt.executes_delete {name : String} {result : Except Failure Unit}
    (h : (request role .delete name (Program.delete k ns name)).run.Executes others s log result t) :
    (∃ failure, result = .error failure) ∧ t.objects = s.objects ∨
      result = .ok () ∧ t.objects = s.objects.erase k ⟨ns, name⟩ := by
  obtain ⟨u, hu, -, rfl, rfl⟩ := executes_request h
  cases hanswer : (u.serve (.delete k ns name)).1 with
  | error cause =>
    refine .inl ⟨⟨_, rfl⟩, ?_⟩
    rw [Store.serve_error hanswer, Store.recording_objects, hothers s u hu]
  | ok done =>
    refine .inr ⟨rfl, ?_⟩
    rw [Store.serve_delete_ok hanswer, hothers s u hu]

theorem Attempt.deletes_each {β : Type} {name : β → String} {l : List β}
    {result : Except Failure PUnit}
    (h : (l.forM fun b => request role .delete (name b) (Program.delete k ns (name b))).run.Executes
      others s log result t) :
    s.objects.Loses (fun k' key => k' = k ∧ ∃ b ∈ l, key = ⟨ns, name b⟩) t.objects ∧
      (result = .ok () → ∀ b ∈ l, t.objects.get? k ⟨ns, name b⟩ = none) := by
  induction l generalizing s log with
  | nil =>
    cases h
    exact ⟨.refl _ _, fun _ b hb => absurd hb List.not_mem_nil⟩
  | cons first rest ih =>
    have hplace : ∃ b ∈ first :: rest, (⟨ns, name first⟩ : ObjectKey) = ⟨ns, name b⟩ :=
      ⟨first, List.mem_cons_self, rfl⟩
    rcases executes_bind h with ⟨failure, hfirst, rfl⟩ | ⟨log₁, log₂, done, u, rfl, hfirst, hrest⟩
    · rcases executes_delete hothers hfirst with ⟨-, hsame⟩ | ⟨hok, -⟩
      · exact ⟨hsame ▸ .refl _ _, fun hok => by cases hok⟩
      · cases hok
    · rcases executes_delete hothers hfirst with ⟨⟨failure, hfails⟩, -⟩ | ⟨-, herased⟩
      · cases hfails
      obtain ⟨hloses, hgone⟩ := ih hrest
      have herase : s.objects.Loses
          (fun k' key => k' = k ∧ ∃ b ∈ first :: rest, key = ⟨ns, name b⟩) u.objects := by
        rw [herased]
        exact s.objects.loses_erase ⟨rfl, hplace⟩
      refine ⟨herase.trans (hloses.mono ?_), fun hok => List.forall_mem_cons.mpr ⟨?_, hgone hok⟩⟩
      · rintro _ key ⟨rfl, b, hb, rfl⟩
        exact ⟨rfl, b, List.mem_cons_of_mem first hb, rfl⟩
      · refine hloses.gone ?_
        rw [herased, Objects.get?_erase_self, if_pos rfl]

end Deletions

/-! ## Jobs -/

namespace InitJob

variable {others : Store → Store → Prop} {s t : Store} {ns job : String} {log : List Event}

section Remove

variable (hothers : ∀ s s', others s s' → s'.objects = s.objects) (hpods : s.objects.NamesPods)
  (hjob : Text.IsPlain job)
include hothers hpods hjob

theorem executes_list {pods : List Pod}
    (h : (Attempt.request .initJobPod .list job
      (Program.list .pod ns ("job-name=" ++ job))).run.Executes others s log (.ok pods) t)
    (key : ObjectKey) : s.objects.PartOfJob ⟨ns, job⟩ .pod key ↔
      ∃ pod ∈ pods, key = ⟨ns, pod.metadata.anyName⟩ := by
  obtain ⟨u, hu, -, hanswer, -⟩ := Attempt.executes_request h
  rw [← hothers s u hu] at hpods ⊢
  exact hpods.listed_iff hjob (Except.mapError_eq_ok_iff.mp hanswer.symm)

/-- Removing a job loses none but its pods, all of them if it succeeds, and the job only after
that. -/
theorem remove_loses {result : Except Failure Unit}
    (h : (remove ns job).run.Executes others s log result t) :
    ∃ o, s.objects.Loses (fun k key => k = .pod ∧ s.objects.PartOfJob ⟨ns, job⟩ k key) o ∧
      ((∃ failure, result = .error failure) ∧ t.objects = o ∨
        result = .ok () ∧ t.objects = o.erase .job ⟨ns, job⟩ ∧
          ∀ key, s.objects.PartOfJob ⟨ns, job⟩ .pod key → o.get? .pod key = none) := by
  unfold remove at h
  rcases Attempt.executes_bind h with ⟨failure, hlist, rfl⟩ | ⟨log₁, log₂, pods, v, rfl, hlist, h⟩
  · exact ⟨s.objects, .refl _ _, .inl ⟨⟨failure, rfl⟩, Attempt.executes_read hothers rfl hlist⟩⟩
  have hread : v.objects = s.objects := Attempt.executes_read hothers rfl hlist
  have hlisted := executes_list hothers hpods hjob hlist
  -- What the deletions of the pods lose is what has been listed.
  have hpods_lost : ∀ {o : Objects}, v.objects.Loses
      (fun k key => k = .pod ∧ ∃ pod ∈ pods, key = ⟨ns, pod.metadata.anyName⟩) o →
      s.objects.Loses (fun k key => k = .pod ∧ s.objects.PartOfJob ⟨ns, job⟩ k key) o := by
    rw [hread]
    refine fun hloses => hloses.mono ?_
    rintro _ key ⟨rfl, hpod⟩
    exact ⟨rfl, (hlisted key).mpr hpod⟩
  rcases Attempt.executes_bind h with ⟨failure, heach, rfl⟩ | ⟨log₃, log₄, done, w, rfl, heach, hlast⟩
  · exact ⟨t.objects, hpods_lost (Attempt.deletes_each hothers heach).1, .inl ⟨⟨failure, rfl⟩, rfl⟩⟩
  · obtain ⟨hloses, hgone⟩ := Attempt.deletes_each hothers heach
    refine ⟨w.objects, hpods_lost hloses, (Attempt.executes_delete hothers hlast).imp_right ?_⟩
    rintro ⟨hok, herased⟩
    refine ⟨hok, herased, fun key hpart => ?_⟩
    obtain ⟨pod, hpod, rfl⟩ := (hlisted key).mp hpart
    exact hgone rfl pod hpod

end Remove

/-- When a job has been removed, exactly its pods and the job itself are gone. When that has failed,
the store has refused a part of it: nothing but pods of the job is gone. -/
theorem remove_exact (hothers : ∀ s s', others s s' → s'.objects = s.objects)
    (hpods : s.objects.NamesPods) (hjob : Text.IsPlain job) {result : Except Failure Unit}
    (h : (remove ns job).run.Executes others s log result t) :
    (result = .ok () → ∀ k key,
      (s.objects.PartOfJob ⟨ns, job⟩ k key → t.objects.get? k key = none) ∧
      (¬ s.objects.PartOfJob ⟨ns, job⟩ k key → t.objects.get? k key = s.objects.get? k key)) ∧
    ∀ failure, result = .error failure →
      t.objects.get? .job ⟨ns, job⟩ = s.objects.get? .job ⟨ns, job⟩ ∧
      s.objects.Loses (fun k key => k = .pod ∧ s.objects.PartOfJob ⟨ns, job⟩ k key) t.objects ∧
      ∃ e ∈ log, e.Refused := by
  obtain ⟨o, hloses, ⟨⟨failure, rfl⟩, rfl⟩ | ⟨rfl, herased, hgone⟩⟩ :=
    remove_loses hothers hpods hjob h
  · refine ⟨nofun, fun _ _ => ⟨hloses.kept ?_, hloses, remove_refused h⟩⟩
    rintro ⟨⟨⟩, -⟩
  · refine ⟨fun _ k key => ⟨fun hpart => ?_, fun hapart => ?_⟩, nofun⟩ <;> rw [herased]
    · cases hpart with
      | job => rw [Objects.get?_erase_self, if_pos rfl]
      | pod stored hns label =>
        rw [Objects.get?_erase_of_ne o (by decide)]
        exact hgone key (.pod stored hns label)
    · have hlast : o.Loses (fun k key => k = .job ∧ key = ⟨ns, job⟩)
          (o.erase .job ⟨ns, job⟩) := o.loses_erase ⟨rfl, rfl⟩
      rw [← hloses.kept fun hpod => hapart hpod.2]
      refine hlast.kept ?_
      rintro ⟨rfl, rfl⟩
      exact hapart .job

end InitJob

namespace Sample

def podOf (job name : String) : Pod where
  metadata :=
    { name := some name
      ns := some "erp"
      labels := some (OrdMap.singleton "job-name" job) }
  content := {}

/-- A job with two pods, and a pod of another one. -/
def neighbours : Store :=
  ((((({} : Store).insert (podOf "shop-init" "shop-init-0")).insert
    (podOf "shop-init" "shop-init-1")).insert (podOf "blog-init" "blog-init-0")).insert
      (App.sample "shop" "erp").initJob)

/-- Removing the job when the store deletes one pod and then no more. -/
def halfway : List Event × Except Failure Unit × Store :=
  (InitJob.remove "erp" "shop-init").run.play [id, id, fun s => s.refuse .delete .pod] neighbours

theorem neighbours_namesPods : neighbours.objects.NamesPods := by
  have hempty : ({} : Store).objects.NamesPods := fun _ _ hpod => by cases hpod
  exact (((hempty.insert fun _ => rfl).insert fun _ => rfl).insert fun _ => rfl).insert
    fun hkind => by cases hkind

end Sample

theorem InitJob.remove_exact_neighbours :
    (∃ log t, (remove "erp" "shop-init").run.Executes Eq Sample.neighbours log (.ok ()) t ∧
      t.objects.get? .pod ⟨"erp", "shop-init-1"⟩ = none ∧
      t.objects.get? .pod ⟨"erp", "blog-init-0"⟩ =
        Sample.neighbours.objects.get? .pod ⟨"erp", "blog-init-0"⟩) ∧
    ∃ log failure t, (remove "erp" "shop-init").run.Executes (fun s s' => s'.objects = s.objects)
        Sample.neighbours log (.error failure) t ∧
      t.objects.get? .pod ⟨"erp", "shop-init-0"⟩ = none ∧
      t.objects.get? .job ⟨"erp", "shop-init"⟩ =
        Sample.neighbours.objects.get? .job ⟨"erp", "shop-init"⟩ := by
  have hjob : Text.IsPlain "shop-init" := by decide
  constructor
  · obtain ⟨log, hexecutes⟩ :=
      Program.exists_executes_run (remove "erp" "shop-init").run Sample.neighbours
    have hok : ((remove "erp" "shop-init").run.run Sample.neighbours).1.toOption = some () := by
      decide +kernel
    rw [Except.eq_ok_of_toOption hok] at hexecutes
    obtain ⟨hexact, -⟩ := remove_exact (fun s s' => congrArg Store.objects ∘ Eq.symm)
      Sample.neighbours_namesPods hjob hexecutes
    refine ⟨log, _, hexecutes, (hexact rfl .pod _).1 ?_, (hexact rfl .pod _).2 ?_⟩ <;>
      decide +kernel
  · have hexecutes : (remove "erp" "shop-init").run.Executes (fun s s' => s'.objects = s.objects)
        Sample.neighbours Sample.halfway.1 Sample.halfway.2.1 Sample.halfway.2.2 := by
      refine Program.executes_play ?_ _ ?_ _ _
      · exact fun _ => rfl
      · simp [Store.refuse]
    have hfails : Sample.halfway.2.1.toOption = none := by decide +kernel
    cases hresult : Sample.halfway.2.1 with
    | ok done => rw [hresult] at hfails; cases hfails
    | error failure =>
      rw [hresult] at hexecutes
      obtain ⟨-, herror⟩ :=
        remove_exact (fun _ _ => id) Sample.neighbours_namesPods hjob hexecutes
      refine ⟨_, failure, _, hexecutes, ?_, (herror failure rfl).1⟩
      decide +kernel

end OdooKeeper
