import OdooKeeper.App.Status
import OdooKeeper.Proofs.Coverage

/-! # Blocks that are left out

The defaults of a block stand in two places: in the record that holds them, and field by field where
the block is decoded. They are the same, so a block that is left out and an empty one are decoded
alike, whatever else the document says. -/

namespace OdooKeeper

namespace Json

/-! ## Absent members -/

def fillIn (members : List (String × Json)) (key : String) : List (String × Json) :=
  if (members.lookup key).isNone then putMember key (.object []) members else members

theorem lookup_fillIn_of_ne {members : List (String × Json)} {key k : String} (h : k ≠ key) :
    (fillIn members key).lookup k = members.lookup k := by
  unfold fillIn
  split
  · rw [lookup_putMember, if_neg h]
  · rfl

theorem lookup_fillIn_of_none {members : List (String × Json)} {key : String}
    (h : members.lookup key = none) : (fillIn members key).lookup key = some (.object []) := by
  rw [fillIn, if_pos (by rw [h]; rfl), lookup_putMember, if_pos rfl]

theorem fillIn_of_some {members : List (String × Json)} {key : String} {v : Json}
    (h : members.lookup key = some v) : fillIn members key = members := by
  rw [fillIn, if_neg (by simp [h])]

/-! ## Fields -/

/-- The fields are read alike when the key is absent and when there is an empty object under it. -/
def Shape.Spares {α : Type} (s : Shape α) (key : String) : Prop :=
  ∀ members, s.fromMembers (fillIn members key) = s.fromMembers members

namespace Shape.Spares

variable {α β : Type} {key name : String} {read : Reader α}

theorem map {s : Shape α} {f : α → β} (h : s.Spares key) : (f <$> s).Spares key := by
  intro members
  exact congrArg (Except.map f) (h members)

theorem seq {s : Shape (α → β)} {s' : Shape α} (h : s.Spares key) (h' : s'.Spares key) :
    (s <*> s').Spares key := by
  intro members
  change (Shape.seq s s').fromMembers _ = (Shape.seq s s').fromMembers _
  unfold Shape.seq
  simp only [h members, h' members]

theorem of_ne {absent cut : Option α} (h : name ≠ key) :
    (Shape.field name read absent cut).Spares key := by
  intro members
  unfold Shape.field
  simp only [lookup_fillIn_of_ne h]

theorem withDefault {default : α} (h : name = key → read (.object []) = .ok default) :
    (Shape.withDefault name read default).Spares key := by
  by_cases hname : name = key
  · intro members
    cases hlookup : members.lookup key with
    | none =>
      have hread := h hname
      subst hname
      simp only [Shape.withDefault, Shape.field, lookup_fillIn_of_none hlookup, hlookup, hread]
      rfl
    | some v => rw [fillIn_of_some hlookup]
  · exact of_ne hname

end Shape.Spares

theorem decode_fillIn {α : Type} {s : Shape α} {key : String} (h : s.Spares key) (name : String)
    (members : List (String × Json)) :
    s.decode name (.object (fillIn members key)) = s.decode name (.object members) := by
  change (s.fromMembers _).mapError _ = (s.fromMembers _).mapError _
  rw [h members]

theorem decode_fillAll {α : Type} {s : Shape α} {keys : List String} (h : ∀ key ∈ keys, s.Spares key)
    (name : String) (members : List (String × Json)) :
    s.decode name (.object (keys.foldl fillIn members)) = s.decode name (.object members) := by
  induction keys generalizing members with
  | nil => rfl
  | cons key rest ih =>
    rw [List.forall_mem_cons] at h
    rw [List.foldl_cons, ih h.2, decode_fillIn h.1]

end Json

/-! ## Specifications and statuses -/

open Json Json.Shape.Spares

theorem DatabaseSettings.ofJson_empty : DatabaseSettings.ofJson (.object []) = .ok {} := rfl

theorem RuntimeSettings.ofJson_empty : RuntimeSettings.ofJson (.object []) = .ok {} := rfl

theorem FilestoreSettings.ofJson_empty : FilestoreSettings.ofJson (.object []) = .ok {} := rfl

theorem JobRecord.ofJson_empty : JobRecord.ofJson (.object []) = .ok {} := rfl

/-- The keys of a specification that have blocks of settings under them. -/
def App.Spec.blocks : List String := ["database", "config", "odooFilestore"]

theorem App.Spec.shape_spares {key : String} (hkey : key ∈ App.Spec.blocks) :
    App.Spec.shape.Spares key := by
  have hother : ∀ name, name ∉ App.Spec.blocks → name ≠ key := by
    rintro name hname rfl
    exact hname hkey
  refine .seq ?_ (.withDefault fun _ => FilestoreSettings.ofJson_empty)
  refine .seq ?_ (.of_ne (hother "modules" (by decide)))
  refine .seq ?_ (.withDefault fun _ => RuntimeSettings.ofJson_empty)
  refine .seq ?_ (.withDefault fun _ => DatabaseSettings.ofJson_empty)
  refine .seq ?_ (.of_ne (hother "imagePullPolicy" (by decide)))
  refine .seq ?_ (.of_ne (hother "image" (by decide)))
  refine .seq ?_ (.of_ne (hother "replicas" (by decide)))
  exact .map (.of_ne (hother "name" (by decide)))

theorem App.Status.shape_spares : App.Status.shape.Spares "currentInitJob" := by
  refine .seq ?_ (.of_ne (by decide))
  refine .seq ?_ (.of_ne (by decide))
  refine .seq ?_ (.withDefault fun _ => JobRecord.ofJson_empty)
  refine .seq ?_ (.of_ne (by decide))
  refine .seq ?_ (.of_ne (by decide))
  exact .map (.of_ne (by decide))

/-- Blocks that are left out and blocks that are empty make no difference, neither to what is decoded
nor to what is wrong with the document: without any field, a block is its defaults. -/
theorem blocks_left_out (members : List (String × Json)) :
    (∀ keys : List String, (∀ key ∈ keys, key ∈ App.Spec.blocks) →
      App.Spec.ofJson (.object (keys.foldl fillIn members)) = App.Spec.ofJson (.object members)) ∧
    App.Status.ofJson (.object (fillIn members "currentInitJob")) =
      App.Status.ofJson (.object members) ∧
    DatabaseSettings.ofJson (.object []) = .ok {} ∧
    RuntimeSettings.ofJson (.object []) = .ok {} ∧
    FilestoreSettings.ofJson (.object []) = .ok {} ∧
    JobRecord.ofJson (.object []) = .ok {} := by
  refine ⟨?_, decode_fillIn App.Status.shape_spares _ members, DatabaseSettings.ofJson_empty,
    RuntimeSettings.ofJson_empty, FilestoreSettings.ofJson_empty, JobRecord.ofJson_empty⟩
  intro keys hkeys
  exact decode_fillAll (fun key hkey => App.Spec.shape_spares (hkeys key hkey)) _ members

/-- A document with one block, a key that is no field and a text where a number should be. -/
def Sample.faulty : List (String × Json) :=
  [("config", .object [("workers", .integer 4)]), ("owner", .null), ("replicas", .string "two")]

theorem blocks_left_out_sample :
    (∀ key ∈ ["odooFilestore", "database"], key ∈ App.Spec.blocks) ∧
    ["odooFilestore", "database"].foldl fillIn Sample.faulty =
      [("config", .object [("workers", .integer 4)]), ("database", .object []),
        ("odooFilestore", .object []), ("owner", .null), ("replicas", .string "two")] ∧
    App.Spec.ofJson (.object (["odooFilestore", "database"].foldl fillIn Sample.faulty)) =
      .error (.invalidType (.string "two") "i32") := by
  have hblocks : ∀ key ∈ ["odooFilestore", "database"], key ∈ App.Spec.blocks := by decide
  obtain ⟨hspec, -⟩ := blocks_left_out Sample.faulty
  refine ⟨hblocks, rfl, ?_⟩
  rw [hspec _ hblocks]
  rfl

end OdooKeeper
