import OdooKeeper.InitJob.Phase
import OdooKeeper.Proofs.Owning

/-! # The modules that a job installs

A job says in its command what it installs. The argument of the job of an app is read back as the
modules of the app, apart from how commas and empty names cut them. -/

namespace OdooKeeper

/-! ## Segments -/

namespace Text

variable {sep : Char}

theorem segmentsOf_eq_splitOn (sep : Char) (text : List Char) :
    segmentsOf sep text = text.splitOn sep := by
  induction text with
  | nil => rfl
  | cons c text ih =>
    obtain ⟨piece, others, hpieces⟩ := List.exists_cons_of_ne_nil (List.splitOn_ne_nil sep text)
    rw [List.splitOn_eq_splitOnP, List.splitOnP_cons_eq_if_modifyHead, ← List.splitOn_eq_splitOnP,
      segmentsOf, ih, hpieces]
    simp only [beq_iff_eq, List.modifyHead_cons]

theorem segmentsOf_append (first rest : List Char) :
    segmentsOf sep (first ++ sep :: rest) = segmentsOf sep first ++ segmentsOf sep rest := by
  simp only [segmentsOf_eq_splitOn, List.splitOn_append_cons_self]

theorem segmentsOf_self {text : List Char} (h : sep ∉ text) : segmentsOf sep text = [text] := by
  rw [segmentsOf_eq_splitOn, List.splitOn_eq_singleton h]

theorem segmentsOf_intercalate {pieces : List (List Char)} (hne : pieces ≠ [])
    (h : ∀ piece ∈ pieces, sep ∉ piece) :
    segmentsOf sep ([sep].intercalate pieces) = pieces := by
  rw [segmentsOf_eq_splitOn, List.splitOn_intercalate sep h hne]

theorem sep_not_mem_segmentsOf {text piece : List Char} (h : piece ∈ segmentsOf sep text) :
    sep ∉ piece := by
  induction text generalizing piece with
  | nil =>
    rw [segmentsOf, List.mem_singleton] at h
    simp [h]
  | cons c text ih =>
    rw [segmentsOf] at h
    split at h
    · rcases List.mem_cons.mp h with rfl | h
      · simp
      · exact ih h
    · rename_i hc
      split at h
      · rw [List.mem_singleton] at h
        simp [h, Ne.symm hc]
      · rename_i first others hothers
        rcases List.mem_cons.mp h with rfl | h
        · have hfirst : sep ∉ first := ih (hothers ▸ List.mem_cons_self)
          simp [Ne.symm hc, hfirst]
        · exact ih (hothers ▸ List.mem_cons_of_mem _ h)

theorem sep_not_mem_segments {text piece : String} (h : piece ∈ segments sep text) :
    sep ∉ piece.toList := by
  obtain ⟨chars, hchars, rfl⟩ := List.mem_map.mp h
  simpa using sep_not_mem_segmentsOf hchars

end Text

/-! ## Modules -/

/-- The modules that an argument made of some modules names: its segments that are not empty. -/
def namedModules (modules : List String) : List String :=
  (Text.segments ',' (App.modulesArgument modules)).filter fun m => m ≠ ""

theorem segments_modulesArgument {modules : List String} (hne : modules ≠ [])
    (h : ∀ m ∈ modules, ',' ∉ m.toList) : Text.segments ',' (App.modulesArgument modules) = modules := by
  unfold Text.segments App.modulesArgument
  have hcomma : ",".toList = [','] := by decide
  rw [String.toList_intercalate, hcomma, Text.segmentsOf_intercalate]
  · simp
  · simpa using hne
  · intro piece hpiece
    obtain ⟨m, hm, rfl⟩ := List.mem_map.mp hpiece
    exact h m hm

/-- An argument names the modules that it is made of, unless one is empty or has a comma. -/
theorem namedModules_eq_iff {modules : List String} :
    namedModules modules = modules ↔ ∀ m ∈ modules, m ≠ "" ∧ ',' ∉ m.toList := by
  constructor
  · intro h m hm
    rw [← h] at hm
    obtain ⟨hsegment, hfilled⟩ := List.mem_filter.mp hm
    exact ⟨of_decide_eq_true hfilled, Text.sep_not_mem_segments hsegment⟩
  · intro h
    unfold namedModules
    by_cases hnil : modules = []
    · rw [hnil]
      decide
    · rw [segments_modulesArgument hnil fun m hm => (h m hm).2]
      exact List.filter_eq_self.mpr fun m hm => decide_eq_true (h m hm).1

namespace Job

variable {job : Job} {modules : List String}

theorem modules?_congr {job' : Job}
    (h : job'.content.spec.map Job.Spec.template = job.content.spec.map Job.Spec.template) :
    job'.modules? = job.modules? := by
  have hbind : ∀ job : Job, job.modules? = (job.content.spec.map Job.Spec.template).bind
      fun template => Job.modules? ⟨{}, { spec := some { template } }⟩ := by
    intro job
    unfold Job.modules?
    cases job.content.spec <;> rfl
  rw [hbind job', hbind job, h]

theorem modules?_eq_some (h : job.modules? = some modules) :
    ∃ argument, modules = (Text.segments ',' argument).filter fun m => m ≠ "" := by
  simp only [modules?, Option.bind_eq_bind, Option.bind_eq_some_iff] at h
  obtain ⟨-, -, -, -, -, -, -, -, argument, -, h⟩ := h
  exact ⟨argument, (Option.some.inj h).symm⟩

theorem namedModules_of_modules? (h : job.modules? = some modules) :
    namedModules modules = modules := by
  obtain ⟨argument, rfl⟩ := modules?_eq_some h
  refine namedModules_eq_iff.mpr fun m hm => ?_
  obtain ⟨hsegment, hfilled⟩ := List.mem_filter.mp hm
  exact ⟨of_decide_eq_true hfilled, Text.sep_not_mem_segments hsegment⟩

end Job

/-! ## The job of an app -/

theorem argumentAfter_init (modules : List String) :
    Job.argumentAfter? "--init" (App.initCommand modules) = some (App.modulesArgument modules) := by
  have hconfig : configMount ++ "/" ++ configFileKey ≠ "--init" := by decide
  simp [App.initCommand, App.serveCommand, Job.argumentAfter?, hconfig]

theorem modules?_initJob {app : App} {job : Job} (h : job.content = app.initJob.content) :
    job.modules? = some (namedModules app.content.spec.modules) := by
  unfold Job.modules?
  rw [h]
  simp [App.initJob, App.initPodSpec, argumentAfter_init, namedModules]

end OdooKeeper
