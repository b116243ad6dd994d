import OdooKeeper.Proofs.Reporting

/-! # Conditions that are set already

Setting a condition again that says the same changes nothing, not even its time, and setting one
leaves those of other types alone. -/

namespace OdooKeeper

theorem ConditionType.name_inj {a b : ConditionType} (h : a.name = b.name) : a = b := by
  revert h
  cases a <;> cases b <;> decide

theorem ConditionStatus.name_inj {a b : ConditionStatus} (h : a.name = b.name) : a = b := by
  revert h
  cases a <;> cases b <;> decide

namespace Condition

variable {u u' : Update} {now now' : Timestamp} {conditions : List Condition} {c : Condition}

theorem find?_cons (type : ConditionType) (c : Condition) (rest : List Condition) :
    find? type (c :: rest) = if c.type = type.name then some c else find? type rest := by
  unfold find?
  rw [List.find?_cons]
  by_cases h : c.type = type.name <;> simp [h]

theorem find?_set_self (u : Update) (now : Timestamp) (conditions : List Condition) :
    find? u.type (set u now conditions) =
      some (((find? u.type conditions).map (u.revise now)).getD (u.fresh now)) := by
  induction conditions with
  | nil =>
    rw [set, find?_cons]
    exact if_pos rfl
  | cons c rest ih =>
    rw [set]
    by_cases h : c.type = u.type.name
    · rw [if_pos h, find?_cons, find?_cons, if_pos h]
      exact if_pos rfl
    · rw [if_neg h, find?_cons, if_neg h, find?_cons, if_neg h]
      exact ih

theorem find?_set_of_ne {type : ConditionType} (h : u.type ≠ type) :
    find? type (set u now conditions) = find? type conditions := by
  have hname : u.type.name ≠ type.name := fun hname => h (ConditionType.name_inj hname)
  induction conditions with
  | nil =>
    rw [set, find?_cons]
    exact if_neg hname
  | cons c rest ih =>
    rw [set, find?_cons]
    by_cases hc : c.type = u.type.name
    · have hother : c.type ≠ type.name := fun htype => hname (hc.symm.trans htype)
      rw [if_pos hc, if_neg hother, find?_cons]
      exact if_neg hname
    · rw [if_neg hc, find?_cons, ih]

/-! ## Types -/

theorem set_types (u : Update) (now : Timestamp) (conditions : List Condition) :
    (set u now conditions).map Condition.type =
      if u.type.name ∈ conditions.map Condition.type then conditions.map Condition.type
      else conditions.map Condition.type ++ [u.type.name] := by
  induction conditions with
  | nil => rfl
  | cons c rest ih =>
    rw [set]
    by_cases hc : c.type = u.type.name
    · rw [if_pos hc, if_pos (by simp [hc]), List.map_cons, List.map_cons, hc]
      rfl
    · rw [if_neg hc, List.map_cons, List.map_cons, ih]
      have hmem : u.type.name ∈ c.type :: rest.map Condition.type ↔
          u.type.name ∈ rest.map Condition.type := by simp [Ne.symm hc]
      simp only [hmem]
      split <;> rfl

theorem mem_types_set {type : String} (h : type ∈ (set u now conditions).map Condition.type) :
    type = u.type.name ∨ type ∈ conditions.map Condition.type := by
  rw [set_types] at h
  split at h
  · exact .inr h
  · exact (List.mem_append.mp h).symm.imp List.mem_singleton.mp id

theorem nodup_types_set (h : (conditions.map Condition.type).Nodup) :
    ((set u now conditions).map Condition.type).Nodup := by
  rw [set_types]
  split
  · exact h
  · rename_i hnew
    refine List.nodup_append.mpr ⟨h, by simp, ?_⟩
    rintro type htype _ hsingle rfl
    rw [List.mem_singleton.mp hsingle] at htype
    exact hnew htype

/-! ## Standing updates -/

/-- The condition of an update's type says what the update says, since whenever. -/
def Update.Stands (u : Update) (conditions : List Condition) : Prop :=
  ∃ since, find? u.type conditions = some (u.fresh since)

theorem Update.revise_fresh (u : Update) (now since : Timestamp) :
    u.revise now (u.fresh since) = u.fresh since := by
  simp [revise, fresh]

theorem Update.stands_set (u : Update) (now : Timestamp) (conditions : List Condition) :
    u.Stands (set u now conditions) := by
  unfold Stands
  rw [find?_set_self]
  cases find? u.type conditions with
  | none => exact ⟨now, rfl⟩
  | some c => exact ⟨_, rfl⟩

theorem Update.Stands.set_of_ne (h : u.Stands conditions) (hne : u'.type ≠ u.type) :
    u.Stands (set u' now conditions) := by
  unfold Stands
  rw [find?_set_of_ne hne]
  exact h

theorem Update.Stands.set_eq (h : u.Stands conditions) : set u now conditions = conditions := by
  obtain ⟨since, hfind⟩ := h
  induction conditions with
  | nil => cases hfind
  | cons c rest ih =>
    rw [find?_cons] at hfind
    rw [set]
    by_cases hc : c.type = u.type.name
    · rw [if_pos hc, Option.some.injEq] at hfind
      rw [if_pos hc, hfind, revise_fresh]
    · rw [if_neg hc] at hfind
      rw [if_neg hc, ih hfind]

end Condition

/-! ## Reports -/

namespace Report

variable {r : Report} {now : Timestamp} {type other : ConditionType}
  {status status' : ConditionStatus} {reason reason' message message' : String}

def update (r : Report) (type : ConditionType) (status : ConditionStatus) (reason message : String) :
    Condition.Update :=
  { type, status, reason, message, generation := r.app.metadata.generation }

def Says (r : Report) (type : ConditionType) (status : ConditionStatus) (reason message : String) :
    Prop :=
  (r.update type status reason message).Stands r.status.conditions

theorem says_setCondition : (r.setCondition now type status reason message).Says type status reason
    message :=
  Condition.Update.stands_set ..

theorem Says.setCondition_of_ne (h : r.Says type status reason message) (hne : other ≠ type) :
    (r.setCondition now other status' reason' message').Says type status reason message :=
  Condition.Update.Stands.set_of_ne h hne

theorem Says.setCondition_eq (h : r.Says type status reason message) :
    r.setCondition now type status reason message = r := by
  have hset : Condition.set (r.update type status reason message) now r.status.conditions =
      r.status.conditions := h.set_eq
  exact congrArg (fun conditions => { r with status := { r.status with conditions } }) hset

theorem succeed_succeed {stored : App} (now' : Timestamp) :
    ((r.succeed now).accepted stored).succeed now' = (r.succeed now).accepted stored := by
  have hsucceeded : ((r.succeed now).accepted stored).Says .operatorSucceeded .true
      "ReconcileSucceeded" "" := says_setCondition (r := r.setCondition now _ _ _ _)
  have hdegraded : ((r.succeed now).accepted stored).Says .operatorDegraded .false
      "ReconcileSucceeded" "" := Says.setCondition_of_ne says_setCondition (by decide)
  change (setCondition _ now' .operatorDegraded .false _ _).setCondition now' .operatorSucceeded .true
    _ _ = _
  rw [hdegraded.setCondition_eq, hsucceeded.setCondition_eq]

end Report

end OdooKeeper
