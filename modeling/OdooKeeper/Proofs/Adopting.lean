import OdooKeeper.App.Sample
import OdooKeeper.Proofs.Idling
import OdooKeeper.Proofs.Tracker

/-! # Jobs that are taken over

A job that stands in the way of a new one is taken over when it is in flight and installs just what is
asked for. It does if it was made for the same modules, unless one of them is empty or has a comma. -/

namespace OdooKeeper

/-! ## What a job is made for -/

theorem App.initJob_modules? (app : App) :
    app.initJob.modules? = some (namedModules app.content.spec.modules) :=
  modules?_initJob rfl

theorem namedModules_eq_splitOn (modules : List String) : namedModules modules =
    (((",".intercalate modules).toList.splitOn ',').map String.ofList).filter fun m => m ≠ "" := by
  rw [namedModules, Text.segments, Text.segmentsOf_eq_splitOn]
  rfl

/-! ## Taking over -/

namespace InitJob

variable {s : Store} {ns name : String} {modules : List String} {job : Job}

theorem reusable_in_flight (hread : ¬ s.Refuses (.get .job ns name))
    (hstored : s.objects.get? .job ⟨ns, name⟩ = some job) (hflight : job.isInFlight = true) :
    (reusable ns name modules).run.run s =
      if job.modules? = some modules then (.ok true, s.recording (.get .job ns name))
      else
        let removed := (remove ns name).run.run (s.recording (.get .job ns name))
        (removed.1.map fun _ => false, removed.2) := by
  have hget := Attempt.get_granted hread .initJob
  rw [hstored] at hget
  unfold reusable
  rw [Attempt.run_bind_ok hget]
  by_cases hmodules : job.modules? = some modules
  · simp only [hflight, hmodules, decide_true, Bool.and_self, if_true]
    rfl
  · simp only [hflight, hmodules, decide_false, Bool.and_false, if_false, Bool.false_eq_true]
    rw [ExceptT.run_bind, Program.run_bind]
    cases ((remove ns name).run.run (s.recording (.get .job ns name))).1 <;> rfl

end InitJob

/-- A job of the app reads back as the modules that it installs if and only if no module is empty or
has a comma. Only then is it taken over while it is in flight. -/
theorem App.initJob_read_back (app : App) :
    app.initJob.modules? = some ((((",".intercalate app.content.spec.modules).toList.splitOn ',').map
      String.ofList).filter fun m => m ≠ "") ∧
    (app.initJob.modules? = some app.content.spec.modules ↔
      ∀ m ∈ app.content.spec.modules, m ≠ "" ∧ ',' ∉ m.toList) ∧
    ∀ (s : Store) (job : Job), ¬ s.Refuses (.get .job app.space app.initJobName) →
      s.objects.get? .job ⟨app.space, app.initJobName⟩ = some job →
      job.content.spec = app.initJob.content.spec → job.isInFlight = true →
      let read := s.recording (.get .job app.space app.initJobName)
      (InitJob.reusable app.space app.initJobName app.content.spec.modules).run.run s =
        if ∀ m ∈ app.content.spec.modules, m ≠ "" ∧ ',' ∉ m.toList then (.ok true, read)
        else
          let removed := (InitJob.remove app.space app.initJobName).run.run read
          (removed.1.map fun _ => false, removed.2) := by
  have hexact : app.initJob.modules? = some app.content.spec.modules ↔
      ∀ m ∈ app.content.spec.modules, m ≠ "" ∧ ',' ∉ m.toList := by
    rw [app.initJob_modules?, Option.some.injEq]
    exact namedModules_eq_iff
  refine ⟨?_, hexact, fun s job hread hstored hspec hflight => ?_⟩
  · rw [app.initJob_modules?, namedModules_eq_splitOn]
  · have hmodules := Job.modules?_congr (congrArg (Option.map Job.Spec.template) hspec)
    rw [InitJob.reusable_in_flight hread hstored hflight, hmodules]
    simp only [hexact]

namespace Sample

/-- The sample app with a module that is called like a flag. -/
def flagged : App :=
  let app := App.sample "shop" "erp"
  { app with
    content := { app.content with spec := { app.content.spec with modules := ["base", "--init"] } } }

def flaggedJob : Job := Store.stamp (flagged.initJob.ensureOwner flagged) ⟨"erp", "shop-init"⟩ 1

def blocked : Store := ({} : Store).insert (flagged.initJob.ensureOwner flagged)

end Sample

theorem App.initJob_read_back_flagged :
    Sample.flagged.initJob.modules? = some ["base", "--init"] ∧
    ¬ Sample.blocked.Refuses (.get .job "erp" "shop-init") ∧
    Sample.blocked.objects.get? .job ⟨"erp", "shop-init"⟩ = some Sample.flaggedJob ∧
    Sample.flaggedJob.content.spec = Sample.flagged.initJob.content.spec ∧
    Sample.flaggedJob.isInFlight = true ∧
    (InitJob.reusable "erp" "shop-init" ["base", "--init"]).run.run Sample.blocked =
      (.ok true, Sample.blocked.recording (.get .job "erp" "shop-init")) := by
  have hgranted : ¬ Sample.blocked.Refuses (.get .job "erp" "shop-init") :=
    Store.not_refuses rfl _
  have hstored : Sample.blocked.objects.get? .job ⟨"erp", "shop-init"⟩ = some Sample.flaggedJob := by
    decide +kernel
  have hflight : Sample.flaggedJob.isInFlight = true := by decide +kernel
  have hfit : ∀ m ∈ Sample.flagged.content.spec.modules, m ≠ "" ∧ ',' ∉ m.toList := by decide
  obtain ⟨-, hexact, htaken⟩ := Sample.flagged.initJob_read_back
  refine ⟨hexact.mpr hfit, hgranted, hstored, rfl, hflight, ?_⟩
  exact (htaken Sample.blocked Sample.flaggedJob hgranted hstored rfl hflight).trans (if_pos hfit)

end OdooKeeper
