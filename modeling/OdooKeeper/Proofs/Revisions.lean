import Mathlib.Data.List.Induction
import OdooKeeper.Proofs.Conditions

/-! # Conditions after a history

Conditions are set again and again, those of several types in turn. What a condition says is what it
was last set to. Its time is that of the first of the updates, since when its status has not
changed. -/

namespace OdooKeeper

namespace Condition

variable {u : Update} {now : Timestamp} {conditions : List Condition} {c : Condition}
  {type : ConditionType}

/-! ## Histories -/

def setAll (history : List (Update × Timestamp)) (conditions : List Condition) : List Condition :=
  history.foldl (fun conditions e => set e.1 e.2 conditions) conditions

def ofType (type : ConditionType) (history : List (Update × Timestamp)) :
    List (Update × Timestamp) :=
  history.filter fun e => e.1.type = type

/-- The types that a history uses and that are not there yet, in the order of their first use. -/
def newTypes (conditions : List Condition) (history : List (Update × Timestamp)) : List String :=
  ((history.map fun e => e.1.type.name).filter fun type =>
    type ∉ conditions.map Condition.type).eraseDups

/-- Updates end in a run of one status, which begins with `first` and which no update before belongs
to. -/
structure EndsInRun (updates earlier : List (Update × Timestamp)) (first : Update × Timestamp)
    (later : List (Update × Timestamp)) : Prop where
  cut : updates = earlier ++ first :: later
  same : ∀ e ∈ later, e.1.status = first.1.status
  maximal : ∀ e ∈ earlier.getLast?, e.1.status ≠ first.1.status

variable {history updates earlier earlier' later later' : List (Update × Timestamp)}
  {first first' : Update × Timestamp}

/-! ## Types -/

theorem setAll_types (history : List (Update × Timestamp)) (conditions : List Condition) :
    (setAll history conditions).map Condition.type =
      conditions.map Condition.type ++ newTypes conditions history := by
  induction history generalizing conditions with
  | nil => simp [setAll, newTypes]
  | cons e rest ih =>
    have htypes := set_types e.1 e.2 conditions
    have hrest : setAll (e :: rest) conditions = setAll rest (set e.1 e.2 conditions) := rfl
    rw [hrest, ih]
    unfold newTypes
    rw [List.map_cons, List.filter_cons]
    by_cases hold : e.1.type.name ∈ conditions.map Condition.type
    · rw [if_pos hold] at htypes
      rw [htypes, if_neg (by simpa using hold)]
    · rw [if_neg hold] at htypes
      rw [htypes, if_pos (by simpa using hold), List.eraseDups_cons, List.append_assoc,
        List.singleton_append, List.filter_filter]
      refine congrArg (fun types =>
        conditions.map Condition.type ++ e.1.type.name :: types.eraseDups)
        (List.filter_congr fun type _ => ?_)
      by_cases htype : type = e.1.type.name <;> simp [htype]

theorem nodup_types_setAll (h : (conditions.map Condition.type).Nodup) :
    ((setAll history conditions).map Condition.type).Nodup := by
  induction history generalizing conditions with
  | nil => exact h
  | cons e rest ih => exact ih (nodup_types_set h)

/-! ## Conditions of other types -/

theorem mem_set_of_ne (h : u.type.name ≠ c.type) : c ∈ set u now conditions ↔ c ∈ conditions := by
  have hfresh : ∀ since, c ≠ u.fresh since := by
    rintro since rfl
    exact h rfl
  induction conditions with
  | nil => simp [set, hfresh]
  | cons old rest ih =>
    rw [set]
    split
    · rename_i hold
      have hrevised : c ≠ u.revise now old := by
        rintro rfl
        exact h rfl
      have hother : c ≠ old := by
        rintro rfl
        exact h hold.symm
      simp [hrevised, hother]
    · simp [ih]

theorem mem_setAll_of_ne (h : ∀ e ∈ history, e.1.type.name ≠ c.type) :
    c ∈ setAll history conditions ↔ c ∈ conditions := by
  induction history generalizing conditions with
  | nil => rfl
  | cons e rest ih =>
    obtain ⟨hfirst, hrest⟩ := List.forall_mem_cons.mp h
    exact (ih hrest).trans (mem_set_of_ne hfirst)

/-! ## The condition of one type -/

theorem mem_of_find? (h : find? type conditions = some c) : c ∈ conditions ∧ c.type = type.name :=
  ⟨List.mem_of_find?_eq_some h, by simpa using List.find?_some h⟩

theorem find?_of_mem (hdistinct : (conditions.map Condition.type).Nodup) (hc : c ∈ conditions)
    (htype : c.type = type.name) : find? type conditions = some c := by
  induction conditions with
  | nil => cases hc
  | cons old rest ih =>
    rw [List.map_cons, List.nodup_cons] at hdistinct
    rw [find?_cons]
    rcases List.mem_cons.mp hc with rfl | hc
    · exact if_pos htype
    · have hother : old.type ≠ type.name := by
        intro hold
        apply hdistinct.1
        rw [hold, ← htype]
        exact List.mem_map_of_mem hc
      rw [if_neg hother]
      exact ih hdistinct.2 hc

/-- What an update makes of the condition of its type, if there is one. -/
def told (found : Option Condition) (e : Update × Timestamp) : Condition :=
  (found.map (e.1.revise e.2)).getD (e.1.fresh e.2)

theorem find?_setAll (type : ConditionType) (history : List (Update × Timestamp))
    (conditions : List Condition) :
    find? type (setAll history conditions) =
      (ofType type history).foldl (fun found e => some (told found e)) (find? type conditions) := by
  induction history generalizing conditions with
  | nil => rfl
  | cons e rest ih =>
    have hrest : setAll (e :: rest) conditions = setAll rest (set e.1 e.2 conditions) := rfl
    rw [hrest, ih, ofType, ofType, List.filter_cons]
    by_cases htype : e.1.type = type
    · subst htype
      rw [find?_set_self]
      simp [told]
    · rw [find?_set_of_ne htype]
      simp [htype]

/-! ## The last run -/

theorem EndsInRun.nothing_between {between : List (Update × Timestamp)}
    (h : EndsInRun updates earlier first later)
    (h' : EndsInRun updates (earlier ++ between) first' later') : between = [] := by
  have hrun : first :: later = between ++ first' :: later' := by
    have hcut := h.cut.symm.trans h'.cut
    rwa [List.append_assoc, List.append_cancel_left_eq] at hcut
  have hstatus : ∀ e ∈ first :: later, e.1.status = first.1.status := by
    simpa using h.same
  rw [hrun] at hstatus
  by_contra hbetween
  obtain ⟨last, hlast⟩ := Option.isSome_iff_exists.mp (List.getLast?_isSome.mpr hbetween)
  refine h'.maximal last ?_ ?_
  · rw [List.getLast?_append, hlast]
    rfl
  · rw [hstatus last (by simp [List.mem_of_getLast? hlast]), hstatus first' (by simp)]

theorem EndsInRun.unique (h : EndsInRun updates earlier first later)
    (h' : EndsInRun updates earlier' first' later') :
    earlier = earlier' ∧ first = first' ∧ later = later' := by
  have hearlier : earlier = earlier' := by
    rcases List.append_eq_append_iff.mp (h.cut.symm.trans h'.cut) with
      ⟨between, rfl, -⟩ | ⟨between, rfl, -⟩
    · rw [h.nothing_between h', List.append_nil]
    · rw [h'.nothing_between h, List.append_nil]
  subst hearlier
  have hcut := h.cut.symm.trans h'.cut
  rw [List.append_cancel_left_eq, List.cons.injEq] at hcut
  exact ⟨rfl, hcut⟩

/-- The time of a run: that of its first update, unless there is nothing before it but a condition
that has had its status already. -/
def since (found : Option Condition) (earlier : List (Update × Timestamp))
    (first : Update × Timestamp) : Timestamp :=
  match earlier, found with
  | [], some old => if old.status = first.1.status.name then old.lastTransitionTime else first.2
  | _, _ => first.2

theorem told_eq (found : Option Condition) (e : Update × Timestamp) :
    told found e = e.1.fresh (since found [] e) := by
  cases found <;> rfl

theorem told_fresh (u : Update) (t : Timestamp) (e : Update × Timestamp) :
    told (some (u.fresh t)) e = e.1.fresh (if u.status = e.1.status then t else e.2) := by
  rw [told_eq]
  unfold since
  by_cases h : u.status = e.1.status
  · simp [h, Update.fresh]
  · have hname : u.status.name ≠ e.1.status.name := fun hname => h (ConditionStatus.name_inj hname)
    simp [h, hname, Update.fresh]

theorem foldl_told (found : Option Condition) (h : updates ≠ []) :
    ∃ earlier first later last, EndsInRun updates earlier first later ∧
      updates.getLast? = some last ∧ last.1.status = first.1.status ∧
      updates.foldl (fun found e => some (told found e)) found =
        some (last.1.fresh (since found earlier first)) := by
  -- From the end of the history: an update goes on with the last run or begins another.
  induction updates using List.reverseRecOn with
  | nil => exact absurd rfl h
  | append_singleton updates e ih =>
    rw [List.foldl_append, List.getLast?_concat]
    by_cases hfirst : updates = []
    · subst hfirst
      exact ⟨[], e, [], e, ⟨rfl, by simp, by simp⟩, rfl, rfl, congrArg some (told_eq found e)⟩
    obtain ⟨earlier, first, later, last, hrun, hlast, hstatus, hfold⟩ := ih hfirst
    rw [hfold, List.foldl_cons, List.foldl_nil, told_fresh]
    by_cases hgoes : last.1.status = e.1.status
    · refine ⟨earlier, first, later ++ [e], e, ⟨?_, ?_, hrun.maximal⟩, rfl, ?_, ?_⟩
      · rw [hrun.cut]
        simp
      · intro e' he'
        rcases List.mem_append.mp he' with hlater | hnew
        · exact hrun.same e' hlater
        · rw [List.mem_singleton.mp hnew, ← hgoes, hstatus]
      · rw [← hgoes, hstatus]
      · rw [if_pos hgoes]
    · refine ⟨updates, e, [], e, ⟨rfl, by simp, ?_⟩, rfl, rfl, ?_⟩
      · intro e' he'
        rw [hlast, Option.mem_some] at he'
        rw [← he']
        exact hgoes
      · obtain ⟨before, rest, hcut⟩ := List.exists_cons_of_ne_nil hfirst
        rw [if_neg hgoes, hcut]
        rfl

/-- What the conditions are after any history. The time of one is that of the first update of the
last run of its type with one status, unless it had that status before. -/
theorem history_told (history : List (Update × Timestamp)) {conditions : List Condition}
    (hdistinct : (conditions.map Condition.type).Nodup) :
    ((setAll history conditions).map Condition.type).Nodup ∧
      (setAll history conditions).map Condition.type =
        conditions.map Condition.type ++ newTypes conditions history ∧
      (∀ c : Condition, (∀ e ∈ history, e.1.type.name ≠ c.type) →
        (c ∈ setAll history conditions ↔ c ∈ conditions)) ∧
      ∀ type, ofType type history ≠ [] → ∃ earlier first later last time,
        EndsInRun (ofType type history) earlier first later ∧
          (ofType type history).getLast? = some last ∧
          ({ type := type.name
             status := last.1.status.name
             reason := last.1.reason
             message := last.1.message
             observedGeneration := last.1.generation
             lastTransitionTime := time } : Condition) ∈ setAll history conditions ∧
          (∀ old ∈ conditions, old.type = type.name → old.status = last.1.status.name →
            earlier = [] → time = old.lastTransitionTime) ∧
          ((∀ old ∈ conditions, old.type = type.name → old.status = last.1.status.name →
            earlier ≠ []) → time = first.2) := by
  refine ⟨nodup_types_setAll hdistinct, setAll_types history conditions,
    fun c hc => mem_setAll_of_ne hc, fun type hset => ?_⟩
  obtain ⟨earlier, first, later, last, hrun, hlast, hstatus, hfold⟩ :=
    foldl_told (find? type conditions) hset
  refine ⟨earlier, first, later, last, since (find? type conditions) earlier first, hrun, hlast, ?_,
    ?_, ?_⟩
  · have htype : last.1.type = type := by
      simpa using (List.mem_filter.mp (List.mem_of_getLast? hlast)).2
    rw [← find?_setAll] at hfold
    rw [← htype] at hfold ⊢
    exact (mem_of_find? hfold).1
  · rintro old hold htype hsame rfl
    rw [find?_of_mem hdistinct hold htype, since, if_pos (hstatus ▸ hsame)]
  · intro hnone
    unfold since
    split
    · rename_i old hfound
      obtain ⟨hold, htype⟩ := mem_of_find? hfound
      refine if_neg fun hsame => hnone old hold htype ?_ rfl
      rw [hstatus]
      exact hsame
    · rfl

end Condition

namespace Sample

def ready : Condition where
  type := "DatabaseInitialized"
  status := "True"
  reason := "Initialized"
  message := ""
  observedGeneration := none
  lastTransitionTime := .ofUnix 5

/-- The app is degraded twice, for two reasons, and then no more; its database stays ready. -/
def flips : List (Condition.Update × Timestamp) :=
  [({ type := .operatorDegraded, status := .true, reason := "PvcNotAvailable", message := "a" },
      .ofUnix 10),
    ({ type := .databaseInitialized, status := .true, reason := "Adopted", message := "b" },
      .ofUnix 20),
    ({ type := .operatorDegraded, status := .true, reason := "PvcCreationFailed", message := "c" },
      .ofUnix 30),
    ({ type := .operatorDegraded, status := .false, reason := "ReconcileSucceeded", message := "" },
      .ofUnix 40),
    ({ type := .operatorDegraded, status := .false, reason := "ReconcileSucceeded"
       message := "d" }, .ofUnix 50)]

end Sample

theorem Condition.history_told_sample : ([Sample.ready].map Condition.type).Nodup ∧
    (setAll Sample.flips [Sample.ready]).map Condition.type =
      ["DatabaseInitialized", "OperatorDegraded"] ∧
    (∃ c ∈ setAll Sample.flips [Sample.ready], c.type = "DatabaseInitialized" ∧
      c.reason = "Adopted" ∧ c.lastTransitionTime = .ofUnix 5) ∧
    ∃ c ∈ setAll Sample.flips [Sample.ready], c.type = "OperatorDegraded" ∧
      c.message = "d" ∧ c.lastTransitionTime = .ofUnix 40 := by
  have hdistinct : ([Sample.ready].map Condition.type).Nodup := by simp
  obtain ⟨-, htypes, -, hset⟩ := history_told Sample.flips hdistinct
  refine ⟨hdistinct, htypes, ?_, ?_⟩
  · obtain ⟨earlier, first, later, last, time, hrun, hlast, hmem, hkept, -⟩ :=
      hset .databaseInitialized (by decide)
    have hall : EndsInRun (ofType .databaseInitialized Sample.flips) [] _ [] :=
      ⟨rfl, by simp, by simp⟩
    obtain ⟨rfl, -, -⟩ := hrun.unique hall
    cases hlast
    exact ⟨_, hmem, rfl, rfl, hkept Sample.ready (by simp) rfl rfl rfl⟩
  · obtain ⟨earlier, first, later, last, time, hrun, hlast, hmem, -, hfirst⟩ :=
      hset .operatorDegraded (by decide)
    have hflip : EndsInRun (ofType .operatorDegraded Sample.flips) [_, _] _ [_] :=
      ⟨rfl, by decide, by decide⟩
    obtain ⟨-, rfl, -⟩ := hrun.unique hflip
    cases hlast
    refine ⟨_, hmem, rfl, rfl, hfirst ?_⟩
    simp [Sample.ready, ConditionType.name]

end OdooKeeper
