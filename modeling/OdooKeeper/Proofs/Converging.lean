import OdooKeeper.Proofs.Resting

/-! # Converging among others

What a dependent asks for while others change the store: its object first, then what the app refers
to, and last at most one write. -/

namespace OdooKeeper

namespace Dependent

variable {others : Store → Store → Prop} {k : Kind} {d : Dependent k} {app : App} {s t : Store}
  {log : List Event} {result : Except Failure (Converged k)}

def reading (d : Dependent k) (app : App) : Request := .get k app.space (d.name app)

def creating (d : Dependent k) (app : App) (desired : Object k) : Request :=
  .create k app.space (d.withOwner app desired)

def replacing (d : Dependent k) (app : App) (live desired : Object k) : Request :=
  .replace k app.space (d.withOwner app (d.merge live desired))

/-- The executions of a dependent: what it asks for, what it comes to and the store it leaves. -/
inductive Converges (others : Store → Store → Prop) (d : Dependent k) (app : App) (s : Store) :
    List Event → Except Failure (Converged k) → Store → Prop where
  | unread {u : Store} {cause : StoreError} (before : others s u) :
      Converges others d app s [⟨u, d.reading app⟩]
        (.error (.store d.role .get (d.name app) cause)) (u.recording (d.reading app))
  | unknown {u v : Store} {found : Option (Object k)} {reads : List Event} {failure : Failure}
      (before : others s u) (read : u.objects.get? k (d.place app) = found)
      (desires : (d.desired app found).run.Executes others (u.recording (d.reading app)) reads
        (.error failure) v) :
      Converges others d app s (⟨u, d.reading app⟩ :: reads) (.error failure) v
  | left {u v : Store} {live desired : Object k} {reads : List Event}
      (before : others s u) (read : u.objects.get? k (d.place app) = some live)
      (desires : (d.desired app (some live)).run.Executes others (u.recording (d.reading app)) reads
        (.ok desired) v)
      (rests : (d.createOnly || !d.needsWrite app live desired) = true) :
      Converges others d app s (⟨u, d.reading app⟩ :: reads) (.ok ⟨live, .unchanged⟩) v
  | created {u v w : Store} {desired : Object k} {reads : List Event}
      (before : others s u) (read : u.objects.get? k (d.place app) = none)
      (desires : (d.desired app none).run.Executes others (u.recording (d.reading app)) reads
        (.ok desired) v)
      (meanwhile : others v w) :
      Converges others d app s (⟨u, d.reading app⟩ :: (reads ++ [⟨w, d.creating app desired⟩]))
        (((w.serve (d.creating app desired)).1.mapError (.store d.role .create (d.name app))).map
          fun object => ⟨object, .created⟩)
        (w.serve (d.creating app desired)).2
  | replaced {u v w : Store} {live desired : Object k} {reads : List Event}
      (before : others s u) (read : u.objects.get? k (d.place app) = some live)
      (desires : (d.desired app (some live)).run.Executes others (u.recording (d.reading app)) reads
        (.ok desired) v)
      (writes : d.createOnly = false) (meanwhile : others v w) :
      Converges others d app s (⟨u, d.reading app⟩ :: (reads ++ [⟨w, d.replacing app live desired⟩]))
        (((w.serve (d.replacing app live desired)).1.mapError
          (.store d.role .update (d.name app))).map fun object => ⟨object, .updated⟩)
        (w.serve (d.replacing app live desired)).2

theorem converge_converges (h : (d.converge app).run.Executes others s log result t) :
    d.Converges others app s log result t := by
  unfold converge at h
  rcases Attempt.executes_bind h with ⟨failure, hget, rfl⟩ | ⟨log₁, log₂, found, v, rfl, hget, h⟩
  · obtain ⟨u, hu, rfl, rfl, ⟨cause, -, hrefused⟩ | hfound⟩ := Store.executes_get hget
    · cases hrefused
      exact .unread hu
    · cases hfound
  obtain ⟨u, hu, rfl, rfl, ⟨cause, -, hrefused⟩ | hread⟩ := Store.executes_get hget
  · cases hrefused
  replace hread := (Except.ok.inj hread).symm
  rcases Attempt.executes_bind h with ⟨failure, hdesired, rfl⟩ |
    ⟨reads, log₃, desired, v, rfl, hdesired, h⟩
  · exact .unknown hu hread hdesired
  cases found with
  | none =>
    obtain ⟨w, hw, rfl, rfl, rfl⟩ := Attempt.executes_last h
    exact .created hu hread hdesired hw
  | some live =>
    simp only at h
    split at h
    · rename_i hrests
      cases h
      rw [List.append_nil]
      exact .left hu hread hdesired hrests
    · rename_i hwrites
      obtain ⟨w, hw, rfl, rfl, rfl⟩ := Attempt.executes_last h
      rw [Bool.or_eq_true, not_or, Bool.not_eq_true] at hwrites
      exact .replaced hu hread hdesired hwrites.1 hw

end Dependent

namespace Step

variable {others : Store → Store → Prop} {d : Step} {app : App} {s t : Store} {log : List Event}

theorem desired_reads {live : Option (Object d.kind)} {desired : Except Failure (Object d.kind)}
    (h : (d.dependent.desired app live).run.Executes others s log desired t) :
    ∀ e ∈ log, e.request.changes? = none :=
  (h.asked ((d.desired_asks app live).allow fun _ hr => hr.changes?)).1

/-- The event replaces the object that has been read first, and nothing follows it. -/
inductive Replaces (others : Store → Store → Prop) (d : Step) (app : App) (s : Store) :
    Event → List Event → Except Failure (Converged d.kind) → Store → Prop where
  | last {u v w : Store} {live desired object : Object d.kind} {reads : List Event}
      (before : others s u) (read : u.objects.get? d.kind (d.dependent.place app) = some live)
      (desires : (d.dependent.desired app (some live)).run.Executes others
        (u.recording (d.dependent.reading app)) reads (.ok desired) v)
      (meanwhile : others v w) (changes : d.dependent.createOnly = false)
      (name : object.name = live.name)
      (version : object.metadata.resourceVersion = live.metadata.resourceVersion) :
      Replaces others d app s ⟨w, .replace d.kind app.space object⟩
        (⟨u, d.dependent.reading app⟩ :: (reads ++ [⟨w, .replace d.kind app.space object⟩]))
        (((w.serve (.replace d.kind app.space object)).1.mapError
          (.store d.dependent.role .update (d.dependent.name app))).map fun stored =>
            ⟨stored, .updated⟩)
        (w.serve (.replace d.kind app.space object)).2

/-- A dependent reads, creates its object, or replaces the one that it has read. -/
theorem converge_cases {result : Except Failure (Converged d.kind)}
    (h : (d.dependent.converge app).run.Executes others s log result t) {e : Event} (he : e ∈ log) :
    e.request.changes? = none ∨
      (∃ object : Object d.kind, e.request = .create d.kind app.space object ∧
        object.name = d.dependent.name app) ∨
      d.Replaces others app s e log result t := by
  cases Dependent.converge_converges h with
  | unread before =>
    rw [List.mem_singleton.mp he]
    exact .inl rfl
  | unknown before read desires =>
    rcases List.mem_cons.mp he with rfl | he
    · exact .inl rfl
    · exact .inl (desired_reads desires e he)
  | left before read desires rests =>
    rcases List.mem_cons.mp he with rfl | he
    · exact .inl rfl
    · exact .inl (desired_reads desires e he)
  | created before read desires meanwhile =>
    rcases List.mem_cons.mp he with rfl | he
    · exact .inl rfl
    rcases List.mem_append.mp he with he | he
    · exact .inl (desired_reads desires e he)
    · rw [List.mem_singleton.mp he]
      refine .inr (.inl ⟨_, rfl, ?_⟩)
      rw [Dependent.withOwner_name]
      exact (desires.asked (d.desired_named app)).2 _ rfl
  | replaced before read desires writes meanwhile =>
    rcases List.mem_cons.mp he with rfl | he
    · exact .inl rfl
    rcases List.mem_append.mp he with he | he
    · exact .inl (desired_reads desires e he)
    · rw [List.mem_singleton.mp he]
      obtain ⟨hname, hversion⟩ := (desires.asked (d.next_keeps app _)).2 _ rfl
      exact .inr (.inr (.last before read desires meanwhile writes
        ((Dependent.withOwner_name _).trans hname)
        ((Dependent.withOwner_version _).trans hversion)))

end Step

end OdooKeeper
