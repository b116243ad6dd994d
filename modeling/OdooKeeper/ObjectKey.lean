import OdooKeeper.OrdMap

/-! # Object keys

Objects of one kind are told apart by namespace and name. -/

namespace OdooKeeper

structure ObjectKey where
  ns : String
  name : String
deriving DecidableEq, Repr

namespace ObjectKey

instance : Ord ObjectKey := ⟨compareLex (compareOn ObjectKey.ns) (compareOn ObjectKey.name)⟩

instance : Std.TransOrd ObjectKey :=
  inferInstanceAs (Std.TransCmp (compareLex (compareOn ObjectKey.ns) (compareOn ObjectKey.name)))

instance : Std.LawfulEqOrd ObjectKey where
  compare_self := Std.compare_self
  eq_of_compare {a b} h := by
    have h : (compare a.ns b.ns).then (compare a.name b.name) = .eq := h
    rw [Ordering.then_eq_eq] at h
    obtain ⟨hns, hname⟩ := h
    cases a; cases b
    simp only [mk.injEq]
    exact ⟨Std.LawfulEqOrd.eq_of_compare hns, Std.LawfulEqOrd.eq_of_compare hname⟩

end ObjectKey

abbrev KeySet := OrdMap ObjectKey Unit

namespace KeySet

def ofList (keys : List ObjectKey) : KeySet := OrdMap.ofList (keys.map fun k => (k, ()))

def union (a b : KeySet) : KeySet := a.extend b

variable {a b : KeySet} {key : ObjectKey}

/-- Sets with the same members are equal. -/
theorem ext (h : ∀ key, a.contains key ↔ b.contains key) : a = b := by
  refine OrdMap.ext_get? fun key => ?_
  have hkey := h key
  unfold OrdMap.contains at hkey
  cases ha : a.get? key <;> cases hb : b.get? key <;> simp [ha, hb] at hkey ⊢

@[simp] theorem contains_empty : (∅ : KeySet).contains key = false := rfl

@[simp] theorem contains_ofList {keys : List ObjectKey} :
    (ofList keys).contains key ↔ key ∈ keys := by
  rw [ofList, OrdMap.contains_ofList]
  simp

@[simp] theorem contains_union :
    (a.union b).contains key ↔ a.contains key ∨ b.contains key :=
  OrdMap.contains_extend

end KeySet

end OdooKeeper
