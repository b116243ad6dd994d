import OdooKeeper.Proofs.Converging
import OdooKeeper.Proofs.Halting
import OdooKeeper.Proofs.Runs
import OdooKeeper.Proofs.Stages

/-! # The order of a pass

Every write of a pass belongs to one of its steps. The steps are taken in a fixed order, and the first
one that fails, or whose status is not stored, is the last one. -/

namespace OdooKeeper

/-! ## What a step writes -/

/-- The request writes the object of a step: it creates it under its name, or puts another in the
place of the one that has been read, unless the step never does that. -/
inductive Step.Writes (d : Step) (app : App) (work : List Event) : Request → Prop where
  | creates {object : Object d.kind} (name : object.name = d.dependent.name app) :
      Writes d app work (.create d.kind app.space object)
  | replaces {u : Store} {live object : Object d.kind} (read : ⟨u, d.dependent.reading app⟩ ∈ work)
      (found : u.objects.get? d.kind (d.dependent.place app) = some live)
      (name : object.name = live.name)
      (version : object.metadata.resourceVersion = live.metadata.resourceVersion)
      (changes : d.dependent.createOnly = false) :
      Writes d app work (.replace d.kind app.space object)

theorem Step.Writes.changes? {d : Step} {app : App} {work : List Event} {r : Request}
    (h : d.Writes app work r) : r.changes? = some d.kind := by
  cases h <;> rfl

/-- The request writes for the step of a role. -/
def Role.Writes (role : Role) (app : App) (work : List Event) (r : Request) : Prop :=
  (∃ d : Step, d.dependent.role = role ∧ d.Writes app work r) ∨ role = .initJob ∧ r.OnJobs

section Steps

variable {others : Store → Store → Prop} {settings : PassSettings} {now : Timestamp} {d : Step}
  {app : App} {r : Report} {role : Role} {s u : Store} {work : List Event} {outcome : Outcome}
  {result : Except Failure (Converged d.kind)}

theorem Step.converge_owns (h : (d.dependent.converge app).run.Executes others s work result u) :
    ∀ e ∈ work, e.request.changes? = none ∨ d.Writes app work e.request := by
  intro e he
  rcases d.converge_cases h he with hreads | ⟨object, hcreate, hname⟩ | hreplaces
  · exact .inl hreads
  · rw [hcreate]
    exact .inr (.creates hname)
  · cases hreplaces with
    | last before read desires meanwhile changes name version =>
      exact .inr (.replaces List.mem_cons_self read name version changes)

namespace Pass.Works

theorem executes (h : Works others settings r s role work outcome u) :
    ∃ (α : Type) (p : Program α) (a : α), p.Executes others s work a u := by
  cases h with
  | converged d run => exact ⟨_, _, _, run⟩
  | failed d run => exact ⟨_, _, _, run⟩
  | unusable password => exact ⟨_, _, _, .done () s⟩
  | tracked run => exact ⟨_, _, _, run⟩

theorem owns (h : Works others settings r s role work outcome u) (hr : r.About app) :
    ∀ e ∈ work, e.request.changes? = none ∨ role.Writes app work e.request := by
  cases h with
  | converged d run =>
    rw [hr.converge] at run
    exact fun e he => (d.converge_owns run e he).imp id fun hwrites => .inl ⟨d, rfl, hwrites⟩
  | failed d run =>
    rw [hr.converge] at run
    exact fun e he => (d.converge_owns run e he).imp id fun hwrites => .inl ⟨d, rfl, hwrites⟩
  | unusable password => simp
  | tracked run =>
    have hasks := InitJob.track_asks settings.requeueJobPoll r.app r.status
    exact fun e he => .inr (.inr ⟨rfl, (run.asked hasks).1 e he⟩)

theorem halts (h : Works others settings r s role work outcome u) :
    ∀ earlier e later cause, work = earlier ++ e :: later →
      (e.store.serve e.request).1 = .error cause →
      later = [] ∧ outcome.failure.isSome ∨ role = .initJob ∧ InitJob.Taken e.request cause := by
  intro earlier e later cause hcut hrefused
  cases h with
  | converged d run =>
    rcases run.halted (d.converge_halts r.app) hcut hrefused with ⟨-, hfailed⟩ | hspared
    · cases hfailed
    · exact hspared.elim
  | failed d run =>
    rcases run.halted (d.converge_halts r.app) hcut hrefused with ⟨hlast, -⟩ | hspared
    · exact .inl ⟨hlast, rfl⟩
    · exact hspared.elim
  | unusable password => simp at hcut
  | tracked run =>
    have htracks := InitJob.track_halts settings.requeueJobPoll r.app r.status
    exact (run.halted htracks hcut hrefused).imp id fun htaken => ⟨rfl, htaken⟩

end Pass.Works

end Steps

/-! ## The stages in order -/

namespace Pass

variable {others : Store → Store → Prop} {settings : PassSettings} {now : Timestamp}
  {roles : List Role} {app : App} {r : Report} {s t : Store} {stage : Stage} {stages : List Stage}
  {last : List Event} {result : Except Failure (Option Nat)}

theorem Made.about {stored : App} (h : Made others settings now r s stage) (hr : r.About app) :
    (stage.report.accepted stored).About app := by
  obtain ⟨version, status, happ⟩ := hr
  refine Report.About.accepted ⟨version, status, ?_⟩ stored
  rw [h.report, Report.ended_app, happ]

namespace Proceeds

theorem order (h : Proceeds others settings now roles r s stages last result t) :
    stages.map Stage.role <+: roles := by
  induction h with
  | stop made stops => simp
  | next made succeeded accepted rest ih => simpa using ih
  | wait seconds gate => simp
  | finish before refused told => simp

theorem made (h : Proceeds others settings now roles r s stages last result t) (hr : r.About app) :
    ∀ stage ∈ stages, ∃ r' s', r'.About app ∧ Made others settings now r' s' stage := by
  induction h with
  | stop made stops => exact List.forall_mem_singleton.mpr ⟨_, _, hr, made⟩
  | next made succeeded accepted rest ih =>
    exact List.forall_mem_cons.mpr ⟨⟨_, _, hr, made⟩, ih (made.about hr)⟩
  | wait seconds gate => simp
  | finish before refused told => simp

theorem passed (h : Proceeds others settings now roles r s stages last result t) :
    ∀ earlier stage later, stages = earlier ++ stage :: later →
      stage.Passed ∨ later = [] ∧ last = [] := by
  induction h with
  | stop made stops =>
    intro earlier stage later hcut
    cases earlier with
    | nil =>
      cases hcut
      exact .inr ⟨rfl, rfl⟩
    | cons _ earlier => simp at hcut
  | next made succeeded accepted rest ih =>
    intro earlier stage later hcut
    cases earlier with
    | nil =>
      cases hcut
      exact .inl ⟨succeeded, _, accepted⟩
    | cons _ earlier =>
      cases hcut
      exact ih earlier stage later rfl
  | wait seconds gate => simp
  | finish before refused told => simp

theorem last_eq (h : Proceeds others settings now roles r s stages last result t) :
    last = [] ∨ stages.map Stage.role = roles ∧ ∃ u sent, last = [⟨u, .replaceStatus sent⟩] := by
  induction h with
  | stop made stops => exact .inl rfl
  | next made succeeded accepted rest ih =>
    exact ih.imp id fun ⟨hroles, hlast⟩ => ⟨by rw [List.map_cons, hroles], hlast⟩
  | wait seconds gate => exact .inl rfl
  | finish before refused told => exact .inr ⟨rfl, _, _, rfl⟩

end Proceeds

/-- The stages and the last requests of a pass over the app that was found are those of steps that
are taken in order, and the first stage that does not pass is the last one. -/
structure Ordered (others : Store → Store → Prop) (settings : PassSettings) (now : Timestamp)
    (found : Option App) (stages : List Stage) (last : List Event) : Prop where
  order : stages.map Stage.role <+: order
  made : ∀ stage ∈ stages, ∃ app ∈ found, ∃ r s, r.About app ∧
    Made others settings now r s stage ∧
    ∀ e ∈ stage.work, e.request.changes? = none ∨ stage.role.Writes app stage.work e.request
  /-- A step ends at the first request that is refused, unless that is a job that exists. -/
  halts : ∀ stage ∈ stages, ∀ earlier e later cause, stage.work = earlier ++ e :: later →
    (e.store.serve e.request).1 = .error cause →
    later = [] ∧ stage.outcome.failure.isSome ∨
      stage.role = .initJob ∧ InitJob.Taken e.request cause
  passed : ∀ earlier stage later, stages = earlier ++ stage :: later →
    stage.Passed ∨ later = [] ∧ last = []
  last : last = [] ∨ stages.map Stage.role = Pass.order ∧
    ∃ u sent, last = [⟨u, .replaceStatus sent⟩]

theorem Ordered.of_proceeds
    (h : Proceeds others settings now Pass.order (Report.start app) s stages last result t) :
    Ordered others settings now (some app) stages last := by
  refine ⟨h.order, fun stage hstage => ?_, fun stage hstage => ?_, h.passed, h.last_eq⟩
  · obtain ⟨r, s', hr, hmade⟩ := h.made .start stage hstage
    obtain ⟨u, hworks, -⟩ := hmade.works
    exact ⟨app, rfl, r, s', hr, hmade, hworks.owns hr⟩
  · obtain ⟨r, s', hr, hmade⟩ := h.made .start stage hstage
    obtain ⟨u, hworks, -⟩ := hmade.works
    exact hworks.halts

theorem Ordered.nil (found : Option App) : Ordered others settings now found [] [] :=
  ⟨by simp, by simp, by simp, by simp, .inl rfl⟩

/-- A request that a pass can make: it reads, it writes a status, or it writes for a step. -/
def Allows (r : Request) : Prop :=
  r.changes? = none ∨ (∃ sent, r = .replaceStatus sent) ∨
    ∃ (role : Role) (app : App) (work : List Event), role.Writes app work r

theorem Ordered.allows {found : Option App} (h : Ordered others settings now found stages last) :
    ∀ e ∈ stages.flatMap Stage.log ++ last, Allows e.request := by
  refine List.forall_mem_append.mpr ⟨fun e he => ?_, fun e he => ?_⟩
  · obtain ⟨stage, hstage, he⟩ := List.mem_flatMap.mp he
    rcases List.mem_append.mp he with hwork | hwrite
    · obtain ⟨app, -, _, _, -, -, howns⟩ := h.made stage hstage
      exact (howns e hwork).imp id fun hwrites => .inr ⟨stage.role, app, stage.work, hwrites⟩
    · rw [List.mem_singleton.mp hwrite]
      exact .inr (.inl ⟨_, rfl⟩)
  · rcases h.last with rfl | ⟨-, u, sent, rfl⟩
    · cases he
    · rw [List.mem_singleton.mp he]
      exact .inr (.inl ⟨sent, rfl⟩)

end Pass

/-! ## The calls of a pass -/

theorem Program.Executes.calls {others : Store → Store → Prop} {α : Type} {p : Program α}
    {s t : Store} {log : List Event} {a : α} (h : p.Executes others s log a t)
    (hothers : ∀ u v, others u v → v.calls = u.calls) :
    t.calls = s.calls ++ log.map fun e => e.request.call := by
  induction h with
  | done a s => simp
  | call before rest ih =>
    rw [ih, Store.serve_calls, hothers _ _ before, List.map_cons, List.append_assoc]
    rfl

/-- A pass takes its steps in order, each of which writes its own objects only and is followed by
one write of the status, up to the first that fails. -/
theorem pass_ordered {others : Store → Store → Prop} {settings : PassSettings} {now : Timestamp}
    {fresh ns name : String} {s t : Store} {log : List Event} {result : Except Failure (Option Nat)}
    (h : (reconcile settings now fresh ns name).run.Executes others s log result t) :
    (∃ u stages last, log = ⟨u, .get .app ns name⟩ :: (stages.flatMap Stage.log ++ last) ∧
      Pass.Ordered others settings now (u.objects.get? .app ⟨ns, name⟩) stages last) ∧
    ((∀ u v, others u v → v.calls = u.calls) →
      t.calls = s.calls ++ log.map fun e => e.request.call) := by
  refine ⟨?_, h.calls⟩
  obtain ⟨u, rest, -, rfl, ⟨rfl, -, -⟩ | ⟨app, happ, stages, last, rfl, hproceeds⟩⟩ :=
    Pass.reconcile_onwards h
  · exact ⟨u, [], [], rfl, .nil _⟩
  · refine ⟨u, stages, last, rfl, ?_⟩
    rw [happ]
    exact .of_proceeds hproceeds

theorem pass_ordered_sample :
    ∃ u stages last,
      Sample.serving.log = ⟨u, .get .app Sample.key.ns Sample.key.name⟩ ::
        (stages.flatMap Stage.log ++ last) ∧
      Pass.Ordered Eq {} (.ofUnix 120) (u.objects.get? .app Sample.key) stages last ∧
      Sample.serving.stop.calls =
        Sample.serving.start.calls ++ Sample.serving.log.map fun e => e.request.call := by
  obtain ⟨result, hpass⟩ : Sample.serving.Passes Sample.key := Round.passes_play ..
  obtain ⟨⟨u, stages, last, hlog, hordered⟩, hcalls⟩ := pass_ordered hpass
  exact ⟨u, stages, last, hlog, hordered, hcalls fun _ _ h => by rw [h]⟩

end OdooKeeper
