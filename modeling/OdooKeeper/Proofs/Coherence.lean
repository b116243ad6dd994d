import OdooKeeper.Proofs.Statuses

/-! # Conditions that do not contradict each other

A status has at most one condition of each type, and the two about the passes always say opposite
things for the same reason. -/

namespace OdooKeeper

/-! ## Lists of conditions -/

namespace Condition

variable {u : Update} {now : Timestamp} {conditions : List Condition}

/-- At most one condition of each type, and none of a type that is not known. -/
structure Proper (conditions : List Condition) : Prop where
  distinct : (conditions.map Condition.type).Nodup
  known : ∀ c ∈ conditions, ∃ type : ConditionType, c.type = type.name

/-- One condition is true and the other false, and they say the same apart from that. -/
def Opposes (c d : Condition) : Prop :=
  (c.status = ConditionStatus.true.name ∧ d.status = ConditionStatus.false.name ∨
      c.status = ConditionStatus.false.name ∧ d.status = ConditionStatus.true.name) ∧
    c.reason = d.reason ∧ c.message = d.message ∧ c.observedGeneration = d.observedGeneration

/-- The conditions about the passes are there together, and contradict each other neither by their
number nor by what they say. -/
structure Coherent (conditions : List Condition) : Prop extends Proper conditions where
  opposite :
    find? .operatorDegraded conditions = none ∧ find? .operatorSucceeded conditions = none ∨
      ∃ degraded succeeded, find? .operatorDegraded conditions = some degraded ∧
        find? .operatorSucceeded conditions = some succeeded ∧ degraded.Opposes succeeded

theorem coherent_nil : Coherent [] where
  distinct := List.nodup_nil
  known := by simp
  opposite := .inl ⟨rfl, rfl⟩

theorem Proper.set (h : Proper conditions) (u : Update) (now : Timestamp) :
    Proper (Condition.set u now conditions) := by
  refine ⟨nodup_types_set h.distinct, fun c hc => ?_⟩
  rcases mem_types_set (List.mem_map_of_mem hc) with hnew | hold
  · exact ⟨u.type, hnew⟩
  · obtain ⟨old, hmem, hsame⟩ := List.mem_map.mp hold
    rw [← hsame]
    exact h.known old hmem

theorem Coherent.set (h : Coherent conditions) (hdegraded : u.type ≠ .operatorDegraded)
    (hsucceeded : u.type ≠ .operatorSucceeded) : Coherent (Condition.set u now conditions) where
  toProper := h.toProper.set u now
  opposite := by
    rw [find?_set_of_ne hdegraded, find?_set_of_ne hsucceeded]
    exact h.opposite

end Condition

/-! ## Reports -/

namespace Report

variable {r : Report} {now : Timestamp}

theorem setOutcome_coherent (h : Condition.Proper r.status.conditions) (degraded : Bool)
    (reason message : String) :
    Condition.Coherent (r.setOutcome now degraded reason message).status.conditions where
  toProper := (h.set _ now).set _ now
  opposite := by
    have hdegraded : (r.setOutcome now degraded reason message).Says .operatorDegraded
        (if degraded then .true else .false) reason message :=
      Says.setCondition_of_ne says_setCondition (by simp)
    have hsucceeded : (r.setOutcome now degraded reason message).Says .operatorSucceeded
        (if !degraded then .true else .false) reason message :=
      says_setCondition (r := r.setCondition now _ _ _ _)
    obtain ⟨since, hdegraded⟩ := hdegraded
    obtain ⟨since', hsucceeded⟩ := hsucceeded
    refine .inr ⟨_, _, hdegraded, hsucceeded, ?_, rfl, rfl, rfl⟩
    cases degraded
    · exact .inr ⟨rfl, rfl⟩
    · exact .inl ⟨rfl, rfl⟩

theorem moved_coherent (h : Condition.Coherent r.status.conditions) (outcome : Outcome) :
    Condition.Coherent (r.moved now outcome).status.conditions := by
  have happlied : Condition.Coherent (r.apply outcome.updates).status.conditions := by
    rw [apply, StatusUpdate.applyAll_conditions]
    exact h
  unfold moved
  split
  · exact happlied.set (by simp) (by simp)
  · exact happlied

theorem ended_coherent (h : Condition.Coherent r.status.conditions) (role : Role)
    (outcome : Outcome) : Condition.Coherent (r.ended now role outcome).status.conditions := by
  unfold ended
  split
  · exact setOutcome_coherent (moved_coherent h outcome).toProper ..
  · exact moved_coherent h outcome

end Report

/-! ## Runs -/

theorem Pass.keeps_coherent (key : ObjectKey) :
    Keeps key fun status => Condition.Coherent status.conditions where
  unset := Condition.coherent_nil
  works := fun _ h _ => Report.ended_coherent h _ _
  finish := fun h => Report.setOutcome_coherent h.toProper ..

/-- Passes over an app that has no status at first go on while others change anything but its status.
The conditions of every status that is ever stored are coherent. -/
theorem conditions_coherent {key : ObjectKey} {first s : Store} {rounds : List Round}
    (hfirst : ∀ status, ¬ first.HasStatus key status)
    (hrun : SharedRun (Store.SparesStatus key) key first rounds s) :
    (∀ round ∈ rounds, ∀ t, round.Visits t → ∀ status, t.HasStatus key status →
        Condition.Coherent status.conditions) ∧
      ∀ status, s.HasStatus key status → Condition.Coherent status.conditions :=
  hrun.statuses (Pass.keeps_coherent key) hfirst

theorem conditions_coherent_sample : ∃ status, Sample.serving.stop.HasStatus Sample.key status ∧
    status.conditions ≠ [] ∧ Condition.Coherent status.conditions := by
  have hconditions : ((Sample.serving.stop.objects.get? .app Sample.key).bind fun app =>
      app.content.status.map fun status => status.conditions.isEmpty) = some false := by
    decide +kernel
  obtain ⟨app, happ, hstatus⟩ := Option.bind_eq_some_iff.mp hconditions
  obtain ⟨status, hstatus, hsome⟩ := Option.map_eq_some_iff.mp hstatus
  refine ⟨status, ⟨app, happ, hstatus⟩, by simpa using hsome, ?_⟩
  exact (conditions_coherent Sample.untouched.no_status Sample.run_shared).2 status
    ⟨app, happ, hstatus⟩

end OdooKeeper
