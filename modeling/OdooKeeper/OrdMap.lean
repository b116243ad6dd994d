/-! # Ordered maps

Finite maps that list their entries in ascending order of keys. Two maps with the same values are
equal, so a map may be compared as a whole. -/

namespace OdooKeeper

/-- A finite map whose entries stand in strictly ascending order of keys. -/
structure OrdMap (κ α : Type) [Ord κ] where
  entries : List (κ × α)
  ascending : entries.Pairwise fun a b => compare a.1 b.1 = .lt
deriving DecidableEq

abbrev Dict (α : Type) := OrdMap String α

namespace OrdMap

variable {κ α β : Type} [Ord κ]

/-! ## Entries in order -/

/-- Puts an entry in its place, replacing one with the same key. -/
def insertEntry (k : κ) (v : α) : List (κ × α) → List (κ × α)
  | [] => [(k, v)]
  | (k', v') :: rest =>
    match compare k k' with
    | .lt => (k, v) :: (k', v') :: rest
    | .eq => (k, v) :: rest
    | .gt => (k', v') :: insertEntry k v rest

theorem mem_insertEntry {k : κ} {v : α} {e : κ × α} {l : List (κ × α)}
    (h : e ∈ insertEntry k v l) : e = (k, v) ∨ e ∈ l := by
  induction l with
  | nil => simpa [insertEntry] using h
  | cons a rest ih =>
    obtain ⟨k', v'⟩ := a
    rw [insertEntry] at h
    split at h
    · simp only [List.mem_cons] at h ⊢; exact h
    · simp only [List.mem_cons] at h ⊢
      exact h.imp_right Or.inr
    · simp only [List.mem_cons] at h ⊢
      rcases h with h | h
      · exact Or.inr (Or.inl h)
      · exact (ih h).imp_right Or.inr

theorem ascending_insertEntry [Std.TransOrd κ] [Std.LawfulEqOrd κ] (k : κ) (v : α)
    {l : List (κ × α)} (h : l.Pairwise fun a b => compare a.1 b.1 = .lt) :
    (insertEntry k v l).Pairwise fun a b => compare a.1 b.1 = .lt := by
  induction l with
  | nil => simp [insertEntry]
  | cons a rest ih =>
    obtain ⟨k', v'⟩ := a
    rw [insertEntry]
    split
    · rename_i hlt
      refine h.cons fun b hb => ?_
      rcases List.mem_cons.mp hb with rfl | hb
      · exact hlt
      · exact Std.TransCmp.lt_trans hlt (List.rel_of_pairwise_cons h hb)
    · rename_i heq
      have : k = k' := Std.LawfulEqOrd.eq_of_compare heq
      subst this
      exact (List.Pairwise.of_cons h).cons fun b hb => List.rel_of_pairwise_cons h hb
    · rename_i hgt
      refine (ih h.of_cons).cons fun b hb => ?_
      rcases mem_insertEntry hb with rfl | hb
      · exact Std.OrientedCmp.gt_iff_lt.mp hgt
      · exact List.rel_of_pairwise_cons h hb

/-! ## Operations -/

def empty : OrdMap κ α := ⟨[], List.Pairwise.nil⟩

instance : EmptyCollection (OrdMap κ α) := ⟨empty⟩
instance : Inhabited (OrdMap κ α) := ⟨empty⟩

def get? [BEq κ] (m : OrdMap κ α) (k : κ) : Option α := m.entries.lookup k

def contains [BEq κ] (m : OrdMap κ α) (k : κ) : Bool := (m.get? k).isSome

/-- The map with a value put at a key. -/
def insert [Std.TransOrd κ] [Std.LawfulEqOrd κ] (m : OrdMap κ α) (k : κ) (v : α) : OrdMap κ α :=
  ⟨insertEntry k v m.entries, ascending_insertEntry k v m.ascending⟩

def erase [BEq κ] (m : OrdMap κ α) (k : κ) : OrdMap κ α :=
  ⟨m.entries.filter fun e => !(e.1 == k), m.ascending.filter _⟩

def filter (m : OrdMap κ α) (p : κ → α → Bool) : OrdMap κ α :=
  ⟨m.entries.filter fun e => p e.1 e.2, m.ascending.filter _⟩

/-- The map of some entries, a later one replacing an earlier one with the same key. -/
def ofList [Std.TransOrd κ] [Std.LawfulEqOrd κ] (l : List (κ × α)) : OrdMap κ α :=
  l.foldl (fun m e => m.insert e.1 e.2) empty

def singleton (k : κ) (v : α) : OrdMap κ α := ⟨[(k, v)], List.pairwise_singleton _ _⟩

/-- The first map with all entries of the second put in. -/
def extend [Std.TransOrd κ] [Std.LawfulEqOrd κ] (m other : OrdMap κ α) : OrdMap κ α :=
  other.entries.foldl (fun m e => m.insert e.1 e.2) m

def keys (m : OrdMap κ α) : List κ := m.entries.map Prod.fst

def values (m : OrdMap κ α) : List α := m.entries.map Prod.snd

def size (m : OrdMap κ α) : Nat := m.entries.length

def isEmpty (m : OrdMap κ α) : Bool := m.entries.isEmpty

/-! ## Lookup -/

@[ext] theorem ext {m n : OrdMap κ α} (h : m.entries = n.entries) : m = n := by
  cases m; cases n; cases h; rfl

@[simp] theorem get?_empty [BEq κ] (k : κ) : (∅ : OrdMap κ α).get? k = none := rfl

section Lookup

variable [DecidableEq κ]

omit [Ord κ] in
theorem lookup_cons_ite (e : κ × α) (l : List (κ × α)) (k : κ) :
    (e :: l).lookup k = if k = e.1 then some e.2 else l.lookup k := by
  rw [List.lookup_cons]
  by_cases h : k = e.1
  · simp [h]
  · rw [if_neg h, beq_false_of_ne h]

omit [Ord κ] in
theorem lookup_of_mem {l : List (κ × α)} {k : κ} {v : α} (keys : (l.map Prod.fst).Nodup)
    (h : (k, v) ∈ l) : l.lookup k = some v := by
  induction l with
  | nil => cases h
  | cons first rest ih =>
    rw [List.map_cons, List.nodup_cons] at keys
    rw [lookup_cons_ite]
    rcases List.mem_cons.mp h with rfl | hrest
    · exact if_pos rfl
    · have hne : k ≠ first.1 := by
        intro hkey
        apply keys.1
        rw [← hkey]
        exact List.mem_map_of_mem hrest
      rw [if_neg hne]
      exact ih keys.2 hrest

omit [Ord κ] in
theorem mem_of_lookup {l : List (κ × α)} {k : κ} {v : α} (h : l.lookup k = some v) : (k, v) ∈ l := by
  obtain ⟨before, after, rfl, -⟩ := List.lookup_eq_some_iff.mp h
  simp

omit [Ord κ] in
theorem lookup_filter_ne (l : List (κ × α)) (k k' : κ) :
    (l.filter fun e => !(e.1 == k)).lookup k' = if k' = k then none else l.lookup k' := by
  induction l with
  | nil => simp
  | cons e rest ih =>
    rw [List.filter_cons, lookup_cons_ite]
    by_cases hk : e.1 = k
    · rw [if_neg (by simpa using hk), ih]
      by_cases h : k' = k
      · simp [h]
      · simp [h, hk]
    · rw [if_pos (by simpa using hk), lookup_cons_ite, ih]
      by_cases h : k' = k
      · subst h; simp [Ne.symm hk]
      · simp [h]

@[simp] theorem get?_singleton (k : κ) (v : α) (k' : κ) :
    (singleton k v).get? k' = if k' = k then some v else none := lookup_cons_ite ..

@[simp] theorem get?_erase (m : OrdMap κ α) (k k' : κ) :
    (m.erase k).get? k' = if k' = k then none else m.get? k' := lookup_filter_ne ..

theorem lookup_insertEntry [Std.LawfulEqOrd κ] (k : κ) (v : α) (l : List (κ × α)) (k' : κ) :
    (insertEntry k v l).lookup k' = if k' = k then some v else l.lookup k' := by
  induction l with
  | nil => rw [insertEntry, lookup_cons_ite]
  | cons e rest ih =>
    obtain ⟨k₁, v₁⟩ := e
    rw [insertEntry]
    split
    · rw [lookup_cons_ite]
    · rename_i heq
      have : k = k₁ := Std.LawfulEqOrd.eq_of_compare heq
      subst this
      simp only [lookup_cons_ite]
      by_cases h : k' = k <;> simp [h]
    · rename_i hgt
      have hne : k ≠ k₁ := by
        rintro rfl
        rw [Std.compare_self] at hgt
        cases hgt
      simp only [lookup_cons_ite, ih]
      by_cases h : k' = k₁
      · subst h; simp [Ne.symm hne]
      · simp [h]

@[simp] theorem get?_insert [Std.TransOrd κ] [Std.LawfulEqOrd κ] (m : OrdMap κ α) (k : κ) (v : α)
    (k' : κ) :
    (m.insert k v).get? k' = if k' = k then some v else m.get? k' :=
  lookup_insertEntry k v m.entries k'

/-! ## Keys -/

theorem mem_keys {m : OrdMap κ α} {k : κ} : k ∈ m.keys ↔ (m.get? k).isSome := by
  unfold keys get?
  induction m.entries with
  | nil => simp
  | cons e rest ih =>
    rw [lookup_cons_ite, List.map_cons, List.mem_cons, ih]
    by_cases h : k = e.1 <;> simp [h]

omit [DecidableEq κ] in
theorem nodup_keys [Std.LawfulEqOrd κ] (m : OrdMap κ α) : m.keys.Nodup := by
  refine List.pairwise_map.mpr (m.ascending.imp fun {a b} hlt hsame => ?_)
  rw [hsame, Std.compare_self] at hlt
  cases hlt

theorem get?_of_mem [Std.LawfulEqOrd κ] {m : OrdMap κ α} {k : κ} {v : α}
    (h : (k, v) ∈ m.entries) : m.get? k = some v :=
  lookup_of_mem m.nodup_keys h

theorem mem_entries [Std.LawfulEqOrd κ] {m : OrdMap κ α} {k : κ} {v : α} :
    (k, v) ∈ m.entries ↔ m.get? k = some v :=
  ⟨get?_of_mem, mem_of_lookup⟩

omit [DecidableEq κ] in
/-- Entries in ascending order are known when their members are. -/
theorem ext_mem [Std.TransOrd κ] [Std.LawfulEqOrd κ] {m n : OrdMap κ α}
    (h : ∀ e, e ∈ m.entries ↔ e ∈ n.entries) : m = n := by
  have hnodup : ∀ o : OrdMap κ α, o.entries.Nodup := by
    intro o
    refine o.ascending.imp fun {a b} hlt hsame => ?_
    rw [hsame, Std.compare_self] at hlt
    cases hlt
  have hperm : m.entries.Perm n.entries :=
    (List.perm_ext_iff_of_nodup (hnodup m) (hnodup n)).mpr h
  refine ext (hperm.eq_of_pairwise (fun a b _ _ hab hba => ?_) m.ascending n.ascending)
  rw [Std.OrientedCmp.gt_iff_lt.mpr hab] at hba
  cases hba

theorem ext_get? [Std.TransOrd κ] [Std.LawfulEqOrd κ] {m n : OrdMap κ α}
    (h : ∀ k, m.get? k = n.get? k) : m = n := by
  refine ext_mem fun e => ?_
  rw [mem_entries, mem_entries, h]

theorem contains_foldl_insert [Std.TransOrd κ] [Std.LawfulEqOrd κ] {l : List (κ × α)} {k : κ}
    {m : OrdMap κ α} :
    (l.foldl (fun m e => m.insert e.1 e.2) m).contains k ↔
      (∃ v, (k, v) ∈ l) ∨ m.contains k := by
  induction l generalizing m with
  | nil => simp
  | cons e rest ih =>
    rw [List.foldl_cons, ih]
    unfold contains
    rw [get?_insert]
    by_cases h : k = e.1
    · subst h
      simp only [if_true, Option.isSome_some, or_true, true_iff]
      exact .inl ⟨e.2, List.mem_cons_self⟩
    · have hne : ∀ v, (k, v) ≠ e := fun v hv => h (congrArg Prod.fst hv)
      simp [h, hne]

/-- A map of some entries has the keys of these entries. -/
theorem contains_ofList [Std.TransOrd κ] [Std.LawfulEqOrd κ] {l : List (κ × α)} {k : κ} :
    (ofList l).contains k ↔ ∃ v, (k, v) ∈ l := by
  rw [ofList, contains_foldl_insert]
  simp [contains, empty, get?]

theorem contains_extend [Std.TransOrd κ] [Std.LawfulEqOrd κ] {m other : OrdMap κ α} {k : κ} :
    (m.extend other).contains k ↔ m.contains k ∨ other.contains k := by
  have hother : (∃ v, (k, v) ∈ other.entries) ↔ other.contains k := by
    simp only [mem_entries, contains, Option.isSome_iff_exists]
  rw [extend, contains_foldl_insert, hother]
  exact or_comm

end Lookup

end OrdMap

end OdooKeeper
