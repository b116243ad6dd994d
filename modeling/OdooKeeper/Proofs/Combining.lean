import OdooKeeper.Pass

/-! # Several failures as one

Failures that are combined are all kept, in their order. They stand in one row when none of them is
made of failures that are several themselves; only one layer is taken off. -/

namespace OdooKeeper

namespace Failure

variable {f g : Failure} {failures inner : List Failure}

/-! ## What a failure is made of -/

def isSeveral : Failure → Bool
  | .several _ => true
  | _ => false

mutual

/-- The failures that are not several, from left to right, through all layers. -/
def leaves : Failure → List Failure
  | .several failures => leavesOf failures
  | f => [f]

def leavesOf : List Failure → List Failure
  | [] => []
  | f :: rest => f.leaves ++ leavesOf rest

end

/-- No part of the failure is several failures again. -/
def Flat (f : Failure) : Prop := ∀ g ∈ f.parts, g.isSeveral = false

theorem leaves_of_single (h : f.isSeveral = false) : f.leaves = [f] := by
  cases f <;> first | rfl | cases h

theorem parts_of_single (h : f.isSeveral = false) : f.parts = [f] := by
  cases f <;> first | rfl | cases h

theorem flat_of_single (h : f.isSeveral = false) : f.Flat := by
  intro g hg
  rw [parts_of_single h, List.mem_singleton] at hg
  rw [hg, h]

theorem leavesOf_append (first second : List Failure) :
    leavesOf (first ++ second) = leavesOf first ++ leavesOf second := by
  induction first with
  | nil => rfl
  | cons f rest ih => simp [leavesOf, ih]

theorem leavesOf_parts (f : Failure) : leavesOf f.parts = f.leaves := by
  cases f <;> simp [parts, leaves, leavesOf]

mutual

theorem leaves_single (f : Failure) : ∀ g ∈ f.leaves, g.isSeveral = false := by
  intro g hg
  cases f with
  | several failures => exact leavesOf_single failures g hg
  | _ =>
    simp only [leaves, List.mem_singleton] at hg
    rw [hg]
    rfl

theorem leavesOf_single (failures : List Failure) : ∀ g ∈ leavesOf failures, g.isSeveral = false := by
  intro g hg
  cases failures with
  | nil => cases hg
  | cons f rest =>
    simp only [leavesOf, List.mem_append] at hg
    rcases hg with hg | hg
    · exact leaves_single f g hg
    · exact leavesOf_single rest g hg

end

theorem leavesOf_eq_self_iff : leavesOf failures = failures ↔ ∀ f ∈ failures, f.isSeveral = false := by
  constructor
  · intro h
    rw [← h]
    exact leavesOf_single failures
  · intro h
    induction failures with
    | nil => rfl
    | cons f rest ih =>
      rw [List.forall_mem_cons] at h
      rw [leavesOf, leaves_of_single h.1, ih h.2]
      rfl

/-! ## One layer less -/

theorem leavesOf_flatMap_parts (failures : List Failure) :
    leavesOf (failures.flatMap parts) = leavesOf failures := by
  induction failures with
  | nil => rfl
  | cons f rest ih => rw [List.flatMap_cons, leavesOf_append, leavesOf_parts, ih, leavesOf]

theorem anyJobLifecycle_iff : anyJobLifecycle failures = true ↔
    ∃ f ∈ failures, f.isJobLifecycle = true := by
  induction failures with
  | nil => simp [anyJobLifecycle]
  | cons f rest ih => simp [anyJobLifecycle, ih]

theorem isJobLifecycle_iff_parts : f.isJobLifecycle = true ↔
    ∃ g ∈ f.parts, g.isJobLifecycle = true := by
  cases f <;> simp [parts, isJobLifecycle, anyJobLifecycle_iff]

theorem exists_lifecycle_parts : (∃ g ∈ failures.flatMap parts, g.isJobLifecycle = true) ↔
    ∃ f ∈ failures, f.isJobLifecycle = true := by
  simp only [List.mem_flatMap]
  constructor
  · rintro ⟨g, ⟨f, hf, hg⟩, h⟩
    exact ⟨f, hf, isJobLifecycle_iff_parts.mpr ⟨g, hg, h⟩⟩
  · rintro ⟨f, hf, h⟩
    obtain ⟨g, hg, h⟩ := isJobLifecycle_iff_parts.mp h
    exact ⟨g, ⟨f, hf, hg⟩, h⟩

theorem flatMap_parts_single_iff :
    (∀ f ∈ failures.flatMap parts, f.isSeveral = false) ↔ ∀ f ∈ failures, f.Flat := by
  simp only [List.mem_flatMap, Flat]
  constructor
  · intro h f hf g hg
    exact h g ⟨f, hf, hg⟩
  · rintro h g ⟨f, hf, hg⟩
    exact h f hf g hg

/-! ## Combining -/

/-- Nothing is lost: the result has the leaves of the failures in their order, and bids to wait as long
as they do. -/
structure Keeps (failures : List Failure) (result : Option Failure) : Prop where
  leaves : leavesOf result.toList = leavesOf failures
  nothing : result = none → leavesOf failures = []
  lifecycle : (∃ f ∈ result, f.isJobLifecycle = true) ↔ ∃ f ∈ failures, f.isJobLifecycle = true
  delay : ∀ settings, ∀ f ∈ result, f.requeueAfter settings =
    if failures.any isJobLifecycle then settings.requeueJobPoll else settings.requeueTransient

/-- The leaves stand in one row, a single one stands for itself, and there is no result only when
there are no leaves. -/
structure Flattens (failures : List Failure) (result : Option Failure) : Prop where
  flat : ∀ f ∈ result, f.Flat
  single : ∀ f, leavesOf failures = [f] → result = some f
  nothing : result = none → leavesOf failures = []

theorem combine_of_parts_nil (h : failures.flatMap parts = []) : combine failures = none := by
  rw [combine, h]

theorem combine_of_parts_single (h : failures.flatMap parts = [f]) : combine failures = some f := by
  rw [combine, h]

theorem combine_of_parts_several (h : 2 ≤ (failures.flatMap parts).length) :
    combine failures = some (.several (failures.flatMap parts)) := by
  unfold combine
  split
  · simp_all
  · simp_all
  · rfl

theorem combine_cases (failures : List Failure) :
    (failures.flatMap parts = [] ∧ combine failures = none) ∨
    (∃ f, failures.flatMap parts = [f] ∧ combine failures = some f) ∨
    (2 ≤ (failures.flatMap parts).length ∧
      combine failures = some (.several (failures.flatMap parts))) := by
  rcases hparts : failures.flatMap parts with _ | ⟨f, _ | ⟨g, rest⟩⟩
  · exact .inl ⟨rfl, combine_of_parts_nil hparts⟩
  · exact .inr (.inl ⟨f, rfl, combine_of_parts_single hparts⟩)
  · refine .inr (.inr ⟨by simp, ?_⟩)
    rw [combine_of_parts_several (by simp [hparts]), hparts]

theorem leavesOf_combine (failures : List Failure) :
    leavesOf (combine failures).toList = leavesOf failures := by
  rw [← leavesOf_flatMap_parts failures]
  rcases combine_cases failures with ⟨hparts, hresult⟩ | ⟨f, hparts, hresult⟩ | ⟨-, hresult⟩
  · rw [hresult, hparts]
    rfl
  · rw [hresult, hparts]
    rfl
  · rw [hresult]
    simp [leavesOf, leaves]

theorem combine_isJobLifecycle (failures : List Failure) :
    (∃ f ∈ combine failures, f.isJobLifecycle = true) ↔
      ∃ f ∈ failures, f.isJobLifecycle = true := by
  rw [← exists_lifecycle_parts]
  rcases combine_cases failures with ⟨hparts, hresult⟩ | ⟨f, hparts, hresult⟩ | ⟨-, hresult⟩
  · simp [hresult, hparts]
  · simp [hresult, hparts]
  · simp [hresult, isJobLifecycle, anyJobLifecycle_iff]

theorem isJobLifecycle_of_combine (h : combine failures = some f) :
    f.isJobLifecycle = failures.any isJobLifecycle := by
  have hlifecycle := combine_isJobLifecycle failures
  rw [h] at hlifecycle
  rw [Bool.eq_iff_iff, List.any_eq_true, ← hlifecycle]
  simp

theorem combine_keeps (failures : List Failure) : Keeps failures (combine failures) := by
  refine ⟨leavesOf_combine failures, ?_, combine_isJobLifecycle failures, ?_⟩
  · intro hnone
    rw [← leavesOf_combine failures, hnone]
    rfl
  · intro settings f hf
    rw [requeueAfter, isJobLifecycle_of_combine hf]

theorem leavesOf_of_flat (h : ∀ f ∈ failures, f.Flat) :
    leavesOf failures = failures.flatMap parts := by
  rw [← leavesOf_flatMap_parts failures]
  exact leavesOf_eq_self_iff.mpr (flatMap_parts_single_iff.mpr h)

theorem flattens_of_row {row : List Failure} {result : Option Failure}
    (hresult : result = some (.several row)) (hleaves : leavesOf failures = row)
    (hlength : row.length ≠ 1) (hsingle : ∀ f ∈ row, f.isSeveral = false) :
    Flattens failures result := by
  refine ⟨?_, ?_, ?_⟩
  · intro f hf
    rw [hresult, Option.mem_some_iff] at hf
    rw [← hf]
    exact hsingle
  · intro f hf
    simp [← hleaves, hf] at hlength
  · intro hnone
    rw [hresult] at hnone
    cases hnone

theorem flattens_of_flat (h : ∀ f ∈ failures, f.Flat) : Flattens failures (combine failures) := by
  have hleaves := leavesOf_of_flat h
  have hsingle := flatMap_parts_single_iff.mpr h
  rcases combine_cases failures with ⟨hparts, hresult⟩ | ⟨f, hparts, hresult⟩ | ⟨hlength, hresult⟩
  · rw [hparts] at hleaves
    refine ⟨by simp [hresult], ?_, fun _ => hleaves⟩
    intro g hg
    rw [hleaves] at hg
    cases hg
  · rw [hparts] at hleaves hsingle
    refine ⟨?_, ?_, ?_⟩
    · intro g hg
      rw [hresult, Option.mem_some_iff] at hg
      rw [← hg]
      exact flat_of_single (hsingle f (by simp))
    · intro g hg
      rw [hleaves, List.singleton_inj] at hg
      rw [hresult, hg]
    · intro hnone
      rw [hresult] at hnone
      cases hnone
  · exact flattens_of_row hresult hleaves (by omega) hsingle

theorem leavesOf_of_inner (hparts : failures.flatMap parts = [.several inner])
    (hsingle : ∀ f ∈ inner, f.isSeveral = false) : leavesOf failures = inner := by
  rw [← leavesOf_flatMap_parts, hparts, leavesOf, leaves, leavesOf_eq_self_iff.mpr hsingle]
  exact List.append_nil inner

theorem flattens_of_inner (hparts : failures.flatMap parts = [.several inner])
    (hlength : inner.length ≠ 1) (hsingle : ∀ f ∈ inner, f.isSeveral = false) :
    Flattens failures (combine failures) :=
  flattens_of_row (combine_of_parts_single hparts) (leavesOf_of_inner hparts hsingle) hlength hsingle

theorem inner_of_flattens (hparts : failures.flatMap parts = [.several inner])
    (h : Flattens failures (combine failures)) :
    inner.length ≠ 1 ∧ ∀ f ∈ inner, f.isSeveral = false := by
  have hresult := combine_of_parts_single hparts
  have hsingle : ∀ f ∈ inner, f.isSeveral = false := h.flat _ hresult
  have hleaves := leavesOf_of_inner hparts hsingle
  refine ⟨fun hlength => ?_, hsingle⟩
  obtain ⟨f, rfl⟩ := List.length_eq_one_iff.mp hlength
  have hsome := h.single f hleaves
  rw [hresult, Option.some.injEq] at hsome
  have hf := hsingle f (by simp)
  rw [← hsome] at hf
  cases hf

/-- Combining loses nothing. It makes one row of the failures when none of them has several failures
inside several, or when what is inside comes to one such row by itself, and in no other case. -/
theorem combine_exact (failures : List Failure) :
    Keeps failures (combine failures) ∧
    (Flattens failures (combine failures) ↔ (∀ f ∈ failures, f.Flat) ∨
      ∃ inner, failures.flatMap parts = [.several inner] ∧ inner.length ≠ 1 ∧
        ∀ f ∈ inner, f.isSeveral = false) := by
  refine ⟨combine_keeps failures, ?_, ?_⟩
  · intro h
    rcases combine_cases failures with ⟨hparts, -⟩ | ⟨f, hparts, -⟩ | ⟨-, hresult⟩
    · left
      rw [← flatMap_parts_single_iff, hparts]
      simp
    · cases f with
      | several inner =>
        right
        obtain ⟨hlength, hsingle⟩ := inner_of_flattens hparts h
        exact ⟨inner, hparts, hlength, hsingle⟩
      | _ =>
        left
        rw [← flatMap_parts_single_iff, hparts, List.forall_mem_singleton]
        rfl
    · left
      rw [← flatMap_parts_single_iff]
      exact h.flat _ hresult
  · rintro (h | ⟨inner, hparts, hlength, hsingle⟩)
    · exact flattens_of_flat h
    · exact flattens_of_inner hparts hlength hsingle

def Sample.layered : List Failure :=
  [.several [.several [.credentialMissing, .claimMissing "data"], .credentialMissing]]

theorem combine_not_always_flattens : ¬ Flattens Sample.layered (combine Sample.layered) := by
  intro h
  have hinner := h.flat _ rfl (.several [.credentialMissing, .claimMissing "data"]) List.mem_cons_self
  cases hinner

end Failure

end OdooKeeper
