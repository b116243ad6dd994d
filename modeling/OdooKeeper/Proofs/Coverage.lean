import OdooKeeper.Proofs.Covering

/-! # Covering, path by path

What it takes to cover a desired value is told for each of its paths. What a live value has beside
that has no part in it. -/

namespace OdooKeeper.Json

/-! ## Paths -/

/-- A way from a value into it: to the member of an object or to the item of an array. -/
inductive Turn where
  | key (key : String)
  | index (i : Nat)
deriving DecidableEq

abbrev Path := List Turn

def take? (value : Json) : Turn → Option Json
  | .key key => value.get? key
  | .index i => match value with
    | .array items => items[i]?
    | _ => none

/-- The value at a path, if the path does not lead out of the value. -/
def at? (value : Json) : Path → Option Json
  | [] => some value
  | turn :: path => (value.take? turn).bind fun part => part.at? path

@[simp] theorem at?_nil (value : Json) : value.at? [] = some value := rfl

theorem at?_cons {value part : Json} {turn : Turn} (h : value.take? turn = some part) (path : Path) :
    value.at? (turn :: path) = part.at? path := by
  rw [at?, h]
  rfl

theorem at?_one (value : Json) (turn : Turn) : value.at? [turn] = value.take? turn := by
  unfold at?
  cases value.take? turn <;> rfl

theorem at?_of_isEmpty {value found : Json} {path : Path} (hempty : value.isEmpty = true)
    (h : value.at? path = some found) : path = [] ∧ found = value := by
  cases path with
  | nil => exact ⟨rfl, (Option.some.inj h).symm⟩
  | cons turn path =>
    have hnone : value.take? turn = none := by
      cases value with
      | null => cases turn <;> rfl
      | array items =>
        obtain rfl : items = [] := List.isEmpty_iff.mp hempty
        cases turn <;> rfl
      | object members =>
        obtain rfl : members = [] := List.isEmpty_iff.mp hempty
        cases turn <;> rfl
      | _ => cases hempty
    rw [at?, hnone] at h
    cases h

/-! ## What a path asks for -/

def isScalar : Json → Bool
  | .null | .array _ | .object _ => false
  | _ => true

/-- The path ends with a key that an object of the value does not have. -/
def Lacks (live : Json) (path : Path) : Prop :=
  ∃ before key members, path = before ++ [.key key] ∧
    live.at? before = some (.object members) ∧ members.lookup key = none

/-- The live value has at a path what a desired value asks for there. -/
inductive Meets (live : Json) (path : Path) : Json → Prop where
  | null : Meets live path .null
  | scalar {value : Json} (plain : value.isScalar = true) (found : live.at? path = some value) :
      Meets live path value
  /-- The two zeros are one number. -/
  | zero {x y : Decimal.Binary64} (found : live.at? path = some (.float x)) (left : x.mantissa = 0)
      (right : y.mantissa = 0) : Meets live path (.float y)
  | array {items desired : List Json} (found : live.at? path = some (.array items))
      (length : items.length = desired.length) : Meets live path (.array desired)
  | object {members desired : List (String × Json)} (found : live.at? path = some (.object members)) :
      Meets live path (.object desired)
  /-- A member may be missing when it would be empty. -/
  | missing {value : Json} (lacks : live.Lacks path) (empty : value.isEmpty = true) :
      Meets live path value

section Meets

variable {live part value : Json} {turn : Turn} {path : Path}

theorem not_lacks_nil : ¬ live.Lacks [] := by
  rintro ⟨before, key, members, hpath, -, -⟩
  simp at hpath

theorem lacks_cons (h : live.take? turn = some part) :
    live.Lacks (turn :: path) ↔ part.Lacks path := by
  constructor
  · rintro ⟨before, key, members, hpath, hfound, hmissing⟩
    cases before with
    | nil =>
      -- The turn itself is the key that would be missing.
      obtain ⟨rfl, rfl⟩ := List.cons.inj hpath
      obtain rfl : live = .object members := Option.some.inj hfound
      rw [take?, get?, hmissing] at h
      cases h
    | cons first before =>
      obtain ⟨rfl, rfl⟩ := List.cons.inj hpath
      rw [at?_cons h] at hfound
      exact ⟨before, key, members, rfl, hfound, hmissing⟩
  · rintro ⟨before, key, members, rfl, hfound, hmissing⟩
    refine ⟨turn :: before, key, members, rfl, ?_, hmissing⟩
    rw [at?_cons h]
    exact hfound

theorem meets_cons (h : live.take? turn = some part) :
    live.Meets (turn :: path) value ↔ part.Meets path value := by
  have hat := at?_cons h path
  constructor
  · intro hmeets
    cases hmeets with
    | null => exact .null
    | scalar plain found => exact .scalar plain (hat ▸ found)
    | zero found left right => exact .zero (hat ▸ found) left right
    | array found length => exact .array (hat ▸ found) length
    | object found => exact .object (hat ▸ found)
    | missing lacks empty => exact .missing ((lacks_cons h).mp lacks) empty
  · intro hmeets
    cases hmeets with
    | null => exact .null
    | scalar plain found => exact .scalar plain (hat.trans found)
    | zero found left right => exact .zero (hat.trans found) left right
    | array found length => exact .array (hat.trans found) length
    | object found => exact .object (hat.trans found)
    | missing lacks empty => exact .missing ((lacks_cons h).mpr lacks) empty

end Meets

/-! ## Covering by parts -/

section Parts

variable {live : Json}

theorem covers_array_iff {desired : List Json} :
    live.covers (.array desired) = true ↔ ∃ items, live = .array items ∧
      items.length = desired.length ∧ ∀ (i : Nat) (item wanted : Json), items[i]? = some item →
        desired[i]? = some wanted → item.covers wanted = true := by
  have hitems : ∀ items, coversItems items desired = true ↔ items.length = desired.length ∧
      ∀ (i : Nat) (item wanted : Json), items[i]? = some item → desired[i]? = some wanted →
        item.covers wanted = true := by
    induction desired with
    | nil =>
      intro items
      simp [coversItems]
    | cons wanted rest ih =>
      intro items
      cases items with
      | nil => simp [coversItems]
      | cons item items =>
        rw [coversItems, Bool.and_eq_true, ih]
        constructor
        · rintro ⟨hfirst, hlength, hrest⟩
          refine ⟨congrArg Nat.succ hlength, fun i => ?_⟩
          cases i with
          | zero => rintro _ _ ⟨⟩ ⟨⟩; exact hfirst
          | succ i => exact hrest i
        · rintro ⟨hlength, hall⟩
          exact ⟨hall 0 item wanted rfl rfl, Nat.succ.inj hlength, fun i => hall (i + 1)⟩
  cases live with
  | array items => simp [covers, hitems]
  | _ => simp [covers]

theorem covers_object_iff {desired : List (String × Json)} :
    live.covers (.object desired) = true ↔ ∃ members, live = .object members ∧
      ∀ key wanted, (key, wanted) ∈ desired →
        (∀ value, members.lookup key = some value → value.covers wanted = true) ∧
          (members.lookup key = none → wanted.isEmpty = true) := by
  have hmembers : ∀ members, coversMembers members desired = true ↔
      ∀ key wanted, (key, wanted) ∈ desired →
        (∀ value, members.lookup key = some value → value.covers wanted = true) ∧
          (members.lookup key = none → wanted.isEmpty = true) := by
    intro members
    induction desired with
    | nil => simp [coversMembers]
    | cons first rest ih =>
      obtain ⟨key, wanted⟩ := first
      rw [coversMembers, Bool.and_eq_true, ih]
      constructor
      · rintro ⟨hnow, hlater⟩ key' wanted' hmem
        rcases List.mem_cons.mp hmem with hfirst | hmem
        · cases hfirst
          cases hfound : members.lookup key <;> simpa [hfound] using hnow
        · exact hlater key' wanted' hmem
      · intro hall
        refine ⟨?_, fun key' wanted' hmem => hall key' wanted' (List.mem_cons_of_mem _ hmem)⟩
        have hnow := hall key wanted List.mem_cons_self
        cases hfound : members.lookup key <;> simpa [hfound] using hnow
  cases live with
  | object members => simp [covers, hmembers]
  | _ => simp [covers]

theorem sameScalar_iff {desired : Json} (h : desired.isScalar = true) :
    live.sameScalar desired = true ↔ live = desired ∨
      ∃ x y, live = .float x ∧ desired = .float y ∧ x.mantissa = 0 ∧ y.mantissa = 0 := by
  cases desired with
  | null | array | object => cases h
  | float y => cases live <;> simp [sameScalar, Decimal.Binary64.sameValue]
  | bool | integer | string => cases live <;> simp [sameScalar]

theorem covers_scalar_iff {desired : Json} (h : desired.isScalar = true) :
    live.covers desired = true ↔ live.Meets [] desired := by
  have hcovers : live.covers desired = live.sameScalar desired := by
    cases desired <;> first | rfl | cases h
  rw [hcovers, sameScalar_iff h]
  constructor
  · rintro (rfl | ⟨x, y, rfl, rfl, left, right⟩)
    · exact .scalar h rfl
    · exact .zero rfl left right
  · intro hmeets
    cases hmeets with
    | null => cases h
    | scalar plain found => exact .inl (Option.some.inj found)
    | zero found left right => exact .inr ⟨_, _, Option.some.inj found, rfl, left, right⟩
    | array found => cases h
    | object found => cases h
    | missing lacks empty => exact absurd lacks not_lacks_nil

end Parts

/-! ## Covering by paths -/

theorem Tidy.lookup {members : List (String × Json)} (h : (Json.object members).Tidy) {key : String}
    {value : Json} (hmem : (key, value) ∈ members) : members.lookup key = some value := by
  cases h with
  | object keys each => exact OrdMap.lookup_of_mem keys hmem

/-- The live value has what every path of a desired value asks for. -/
def MeetsAll (live desired : Json) : Prop :=
  ∀ path value, desired.at? path = some value → live.Meets path value

section MeetsAll

variable {live part desired wanted : Json} {turn : Turn}

theorem meetsAll_leaf (h : ∀ turn, desired.take? turn = none) :
    live.MeetsAll desired ↔ live.Meets [] desired := by
  constructor
  · exact fun hall => hall [] desired rfl
  · intro hmeets path value hvalue
    cases path with
    | nil => exact Option.some.inj hvalue ▸ hmeets
    | cons turn path =>
      rw [at?, h turn] at hvalue
      cases hvalue

theorem MeetsAll.inside (h : live.MeetsAll desired) (turn : Turn) (hpart : live.take? turn = some part)
    (hwanted : desired.take? turn = some wanted) : part.MeetsAll wanted := by
  intro path value hvalue
  refine (meets_cons hpart).mp (h (turn :: path) value ?_)
  rw [at?_cons hwanted]
  exact hvalue

theorem MeetsAll.of_parts (htop : live.Meets [] desired)
    (hparts : ∀ turn wanted, desired.take? turn = some wanted →
      (∃ part, live.take? turn = some part ∧ part.MeetsAll wanted) ∨
        wanted.isEmpty = true ∧ live.Meets [turn] wanted) : live.MeetsAll desired := by
  intro path value hvalue
  cases path with
  | nil => exact Option.some.inj hvalue ▸ htop
  | cons turn path =>
    cases hwanted : desired.take? turn with
    | none =>
      rw [at?, hwanted] at hvalue
      cases hvalue
    | some wanted =>
      rw [at?_cons hwanted] at hvalue
      rcases hparts turn wanted hwanted with ⟨part, hpart, hall⟩ | ⟨hempty, hmeets⟩
      · exact (meets_cons hpart).mpr (hall path value hvalue)
      · obtain ⟨rfl, rfl⟩ := at?_of_isEmpty hempty hvalue
        exact hmeets

theorem isEmpty_of_meets (hnone : live.take? turn = none) (h : live.Meets [turn] wanted) :
    wanted.isEmpty = true := by
  have hat : live.at? [turn] = none := (at?_one live turn).trans hnone
  cases h with
  | null => rfl
  | scalar plain found => rw [hat] at found; cases found
  | zero found => rw [hat] at found; cases found
  | array found => rw [hat] at found; cases found
  | object found => rw [hat] at found; cases found
  | missing lacks empty => exact empty

end MeetsAll

section Cases

variable {live : Json}

theorem covers_array_iff_meetsAll {desired : List Json}
    (ih : ∀ wanted ∈ desired, ∀ item : Json, item.covers wanted = true ↔ item.MeetsAll wanted) :
    live.covers (.array desired) = true ↔ live.MeetsAll (.array desired) := by
  rw [covers_array_iff]
  constructor
  · rintro ⟨items, rfl, hlength, hcovers⟩
    refine .of_parts (.array rfl hlength) fun turn wanted hwanted => .inl ?_
    cases turn with
    | key key => cases hwanted
    | index i =>
      obtain ⟨hi, rfl⟩ := List.getElem?_eq_some_iff.mp hwanted
      have hitem := List.getElem?_eq_getElem (hlength ▸ hi : i < items.length)
      exact ⟨_, hitem, (ih _ (List.getElem_mem hi) _).mp (hcovers i _ _ hitem hwanted)⟩
  · intro hall
    have htop := hall [] _ rfl
    cases htop with
    | scalar plain found => cases plain
    | missing lacks empty => exact absurd lacks not_lacks_nil
    | @array items _ found length =>
      obtain rfl := Option.some.inj found
      refine ⟨items, rfl, length, fun i item wanted hitem hwanted => ?_⟩
      refine (ih wanted (List.mem_of_getElem? hwanted) item).mpr ?_
      exact hall.inside (.index i) hitem hwanted

theorem covers_object_iff_meetsAll {desired : List (String × Json)}
    (tidy : (Json.object desired).Tidy)
    (ih : ∀ m ∈ desired, ∀ value : Json, value.covers m.2 = true ↔ value.MeetsAll m.2) :
    live.covers (.object desired) = true ↔ live.MeetsAll (.object desired) := by
  rw [covers_object_iff]
  constructor
  · rintro ⟨members, rfl, hcovers⟩
    refine .of_parts (.object rfl) fun turn wanted hwanted => ?_
    cases turn with
    | index i => cases hwanted
    | key key =>
      have hmem : (key, wanted) ∈ desired := OrdMap.mem_of_lookup hwanted
      obtain ⟨hthere, hmissing⟩ := hcovers key wanted hmem
      cases hfound : members.lookup key with
      | some value => exact .inl ⟨value, hfound, (ih _ hmem value).mp (hthere value hfound)⟩
      | none =>
        exact .inr ⟨hmissing hfound, .missing ⟨[], key, members, rfl, rfl, hfound⟩ (hmissing hfound)⟩
  · intro hall
    have htop := hall [] _ rfl
    cases htop with
    | scalar plain found => cases plain
    | missing lacks empty => exact absurd lacks not_lacks_nil
    | @object members _ found =>
      obtain rfl := Option.some.inj found
      refine ⟨members, rfl, fun key wanted hmem => ⟨fun value hvalue => ?_, fun hnone => ?_⟩⟩
      · exact (ih _ hmem value).mpr (hall.inside (.key key) hvalue (tidy.lookup hmem))
      · have hmissing : (Json.object members).take? (.key key) = none := hnone
        refine isEmpty_of_meets hmissing (hall [.key key] wanted ?_)
        rw [at?_one]
        exact tidy.lookup hmem

end Cases

theorem covers_iff {desired : Json} (tidy : desired.Tidy) (live : Json) :
    live.covers desired = true ↔ live.MeetsAll desired := by
  induction tidy generalizing live with
  | null => exact ⟨fun _ => (meetsAll_leaf fun turn => by cases turn <;> rfl).mpr .null, fun _ => rfl⟩
  | bool | integer | float | string =>
    rw [covers_scalar_iff rfl, meetsAll_leaf fun turn => by cases turn <;> rfl]
  | array each ih => exact covers_array_iff_meetsAll ih
  | object keys each ih => exact covers_object_iff_meetsAll (.object keys each) ih

/-! ## What is there beside -/

structure Addition where
  path : Path
  key : String
  value : Json

/-- The value with a member put into the object at a path, if there is one. -/
def putAt (key : String) (value : Json) : Path → Json → Json
  | [], .object members => .object (putMember key value members)
  | .key k :: path, .object members =>
    .object (members.map fun m => if m.1 = k then (m.1, putAt key value path m.2) else m)
  | .index i :: path, .array items => .array (items.modify i (putAt key value path))
  | _, other => other

def putAll (additions : List Addition) (live : Json) : Json :=
  additions.foldl (fun live a => putAt a.key a.value a.path live) live

def Mentions (desired : Json) (path : Path) (key : String) : Prop :=
  ∃ members, desired.at? path = some (.object members) ∧ (members.lookup key).isSome

theorem lookup_putMember (key : String) (value : Json) (members : List (String × Json)) (k : String) :
    (putMember key value members).lookup k = if k = key then some value else members.lookup k := by
  induction members with
  | nil => rw [putMember, OrdMap.lookup_cons_ite]
  | cons first rest ih =>
    obtain ⟨k₁, v₁⟩ := first
    rw [putMember]
    split
    · rw [OrdMap.lookup_cons_ite]
    · split
      · rename_i hkey
        subst hkey
        simp only [OrdMap.lookup_cons_ite]
        split <;> rfl
      · rename_i hne
        simp only [OrdMap.lookup_cons_ite, ih]
        by_cases hk : k = k₁
        · simp [hk, Ne.symm hne]
        · simp [hk]

theorem lookup_map_at (change : Json → Json) (k : String) (members : List (String × Json))
    (key : String) : (members.map fun m => if m.1 = k then (m.1, change m.2) else m).lookup key =
      if key = k then (members.lookup key).map change else members.lookup key := by
  induction members with
  | nil => simp
  | cons first rest ih =>
    rw [List.map_cons, OrdMap.lookup_cons_ite, OrdMap.lookup_cons_ite, ih]
    by_cases hfirst : first.1 = k
    · subst hfirst
      by_cases hkey : key = first.1 <;> simp [hkey]
    · by_cases hkey : key = first.1
      · simp [hkey, hfirst]
      · simp only [hfirst, hkey, if_false]

section Additions

variable {live desired : Json} {key : String} {value : Json}

theorem covers_object_congr {members members' desired : List (String × Json)}
    (h : ∀ key wanted, (key, wanted) ∈ desired →
      (members'.lookup key).map (fun value => value.covers wanted) =
        (members.lookup key).map fun value => value.covers wanted) :
    (object members').covers (.object desired) = (object members).covers (.object desired) := by
  simp only [covers]
  induction desired with
  | nil => rfl
  | cons first rest ih =>
    obtain ⟨key, wanted⟩ := first
    have hfirst := h key wanted List.mem_cons_self
    rw [coversMembers, coversMembers, ih fun key wanted hmem => h key wanted (List.mem_cons_of_mem _ hmem)]
    congr 1
    cases hnew : members'.lookup key <;> cases hold : members.lookup key <;>
      simp [hnew, hold] at hfirst ⊢
    exact hfirst

theorem covers_array_congr {items items' desired : List Json} (length : items'.length = items.length)
    (h : ∀ (i : Nat) (wanted : Json), desired[i]? = some wanted →
      items'[i]?.map (fun item => item.covers wanted) =
        items[i]?.map fun item => item.covers wanted) :
    (array items').covers (.array desired) = (array items).covers (.array desired) := by
  have hhalf : ∀ {items items' : List Json}, items'.length = items.length →
      (∀ (i : Nat) (wanted : Json), desired[i]? = some wanted →
        items'[i]?.map (fun item => item.covers wanted) =
          items[i]?.map fun item => item.covers wanted) →
      (array items).covers (.array desired) = true →
        (array items').covers (.array desired) = true := by
    intro items items' hlength hsame hcovers
    obtain ⟨_, ⟨⟩, hlen, hall⟩ := covers_array_iff.mp hcovers
    refine covers_array_iff.mpr ⟨items', rfl, hlength.trans hlen, fun i item wanted hitem hwanted => ?_⟩
    have hi := hsame i wanted hwanted
    rw [hitem, Option.map_some, eq_comm, Option.map_eq_some_iff] at hi
    obtain ⟨old, hold, hsame⟩ := hi
    rw [← hsame]
    exact hall i old wanted hold hwanted
  rw [Bool.eq_iff_iff]
  exact ⟨hhalf length.symm fun i wanted hwanted => (h i wanted hwanted).symm, hhalf length h⟩

theorem Tidy.item {items : List Json} (h : (Json.array items).Tidy) {item : Json}
    (hmem : item ∈ items) : item.Tidy := by
  cases h with
  | array each => exact each item hmem

theorem Tidy.member {members : List (String × Json)} (h : (Json.object members).Tidy)
    {key : String} {value : Json} (hmem : (key, value) ∈ members) : value.Tidy := by
  cases h with
  | object keys each => exact each _ hmem

theorem Mentions.of_part {part : Json} (turn : Turn) {path : Path} (hpart : desired.take? turn = some part)
    (h : part.Mentions path key) : desired.Mentions (turn :: path) key := by
  unfold Mentions at *
  rwa [at?_cons hpart]

theorem covers_putMember {members desired : List (String × Json)} (tidy : (object desired).Tidy)
    (h : ¬ (object desired).Mentions [] key) :
    (object (putMember key value members)).covers (.object desired) =
      (object members).covers (.object desired) := by
  refine covers_object_congr fun k wanted hmem => ?_
  have hne : k ≠ key := by
    rintro rfl
    exact h ⟨desired, rfl, Option.isSome_of_eq_some (tidy.lookup hmem)⟩
  rw [lookup_putMember, if_neg hne]

theorem covers_map_at {members desired : List (String × Json)} {change : Json → Json} {k : String}
    (h : ∀ wanted, (k, wanted) ∈ desired → ∀ part, (change part).covers wanted = part.covers wanted) :
    (object (members.map fun m => if m.1 = k then (m.1, change m.2) else m)).covers (.object desired) =
      (object members).covers (.object desired) := by
  refine covers_object_congr fun k' wanted hmem => ?_
  rw [lookup_map_at]
  split
  · rename_i hkey
    subst hkey
    cases members.lookup k' <;> simp [h wanted hmem]
  · rfl

theorem covers_modify {items desired : List Json} {change : Json → Json} {i : Nat}
    (h : ∀ wanted, desired[i]? = some wanted →
      ∀ part, (change part).covers wanted = part.covers wanted) :
    (array (items.modify i change)).covers (.array desired) =
      (array items).covers (.array desired) := by
  refine covers_array_congr (List.length_modify ..) fun j wanted hwanted => ?_
  rw [List.getElem?_modify]
  split
  · rename_i hij
    subst hij
    cases items[i]? <;> simp [h wanted hwanted]
  · simp

theorem covers_putAt (tidy : desired.Tidy) (path : Path) (live : Json)
    (h : ¬ desired.Mentions path key) :
    (putAt key value path live).covers desired = live.covers desired := by
  -- Only what is of the same sort as the live value can be covered by it.
  induction path generalizing live desired with
  | nil =>
    cases live <;> cases desired <;> first | rfl | exact covers_putMember tidy h
  | cons turn path ih =>
    cases turn <;> cases live <;> try rfl
    case key.object k members =>
      cases desired <;> try rfl
      refine covers_map_at fun wanted hmem part => ?_
      exact ih (tidy.member hmem) part fun hmentions =>
        h (.of_part (.key k) (tidy.lookup hmem) hmentions)
    case index.array i items =>
      cases desired <;> try rfl
      refine covers_modify fun wanted hwanted part => ?_
      exact ih (tidy.item (List.mem_of_getElem? hwanted)) part fun hmentions =>
        h (.of_part (.index i) hwanted hmentions)

theorem covers_putAll (tidy : desired.Tidy) {additions : List Addition}
    (h : ∀ a ∈ additions, ¬ desired.Mentions a.path a.key) (live : Json) :
    (putAll additions live).covers desired = live.covers desired := by
  induction additions generalizing live with
  | nil => rfl
  | cons a rest ih =>
    obtain ⟨hfirst, hrest⟩ := List.forall_mem_cons.mp h
    calc
      _ = (putAt a.key a.value a.path live).covers desired := ih hrest _
      _ = live.covers desired := covers_putAt tidy a.path live hfirst

end Additions

/-! ## What covering means -/

/-- A live value covers a desired one exactly when it has what each path of that asks for, whatever
it has beside. -/
theorem covers_exactly {desired : Json} (tidy : desired.Tidy) :
    (∀ live : Json, live.covers desired = true ↔
      ∀ path value, desired.at? path = some value → live.Meets path value) ∧
    desired.covers desired = true ∧
    ∀ (live : Json) (additions : List Addition),
      (∀ a ∈ additions, ¬ desired.Mentions a.path a.key) →
        (putAll additions live).covers desired = live.covers desired :=
  ⟨covers_iff tidy, tidy.covers_self, fun live _ h => covers_putAll tidy h live⟩

/-- A port that leaves its node port open, without any label. -/
def openPort : Json :=
  .object [("labels", .object []),
    ("ports", .array [.object [("nodePort", .null), ("port", .integer 8069)]])]

def servedPort : Json :=
  .object [("ports", .array [.object [("nodePort", .integer 30069), ("port", .integer 8069)]])]

def serverDefaults : List Addition :=
  [⟨[.key "ports", .index 0], "protocol", .string "TCP"⟩, ⟨[], "status", .object []⟩]

theorem openPort_tidy : openPort.Tidy := by
  have hport : (Json.object [("nodePort", .null), ("port", .integer 8069)]).Tidy :=
    .object (by decide) (List.forall_mem_cons.mpr ⟨.null, List.forall_mem_singleton.mpr (.integer _)⟩)
  have hlabels : (Json.object []).Tidy := .object List.nodup_nil nofun
  have hports := Tidy.array (List.forall_mem_singleton.mpr hport)
  exact .object (by decide) (List.forall_mem_cons.mpr ⟨hlabels, List.forall_mem_singleton.mpr hports⟩)

theorem openPort_not_mentions : ∀ a ∈ serverDefaults, ¬ openPort.Mentions a.path a.key := by
  refine List.forall_mem_cons.mpr ⟨?_, List.forall_mem_singleton.mpr ?_⟩
  all_goals
    rintro ⟨members, ⟨⟩, hmentions⟩
    exact absurd hmentions (by decide)

theorem covers_exactly_openPort :
    openPort.Tidy ∧ (∀ path value, openPort.at? path = some value → servedPort.Meets path value) ∧
      openPort.covers openPort = true ∧
        (putAll serverDefaults servedPort).covers openPort = servedPort.covers openPort :=
  have ⟨hpaths, hself, hbeside⟩ := covers_exactly openPort_tidy
  ⟨openPort_tidy, (hpaths servedPort).mp (by decide +kernel), hself,
    hbeside servedPort serverDefaults openPort_not_mentions⟩

end OdooKeeper.Json
