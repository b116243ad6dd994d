import OdooKeeper.App.Status
import OdooKeeper.Proofs.Covering
import OdooKeeper.Proofs.Times

/-! # Encoding and decoding

Reading undoes writing for plain values and for lists, and then for records field by field. -/

namespace OdooKeeper

namespace Json

/-! ## Values -/

/-- The reader gives back what has been written. What is written is a value, not null. -/
structure Reader.Undoes {α : Type} (r : Reader α) (write : α → Json) : Prop where
  reads : ∀ a, r (write a) = .ok a
  present : ∀ a, write a ≠ .null

section Values

variable {α : Type}

theorem readText_undoes : readText.Undoes .string := ⟨fun _ => rfl, nofun⟩

theorem readBool_undoes : readBool.Undoes .bool := ⟨fun _ => rfl, nofun⟩

theorem readInteger_of_mem (name : String) {low high n : Int} (hlow : low ≤ n) (hhigh : n ≤ high) :
    readInteger name low high (.integer n) = .ok n :=
  if_pos ⟨hlow, hhigh⟩

theorem readInt32_undoes : readInt32.Undoes ofInt32 := by
  refine ⟨fun n => ?_, by simp [ofInt32]⟩
  have hread := readInteger_of_mem "i32" n.minValue_le_toInt n.toInt_le
  exact (congrArg (Except.map Int32.ofInt) hread).trans (congrArg Except.ok n.ofInt_toInt)

theorem readInt64_undoes : readInt64.Undoes ofInt64 := by
  refine ⟨fun n => ?_, by simp [ofInt64]⟩
  have hread := readInteger_of_mem "i64" n.minValue_le_toInt n.toInt_le
  exact (congrArg (Except.map Int64.ofInt) hread).trans (congrArg Except.ok n.ofInt_toInt)

theorem readTime_undoes : readTime.Undoes ofTime := by
  refine ⟨fun t => ?_, by simp [ofTime]⟩
  simp only [readTime, Reader.scalar, ofTime, t.parse_render]
  rfl

theorem readList_undoes {item : Reader α} {write : α → Json} (h : item.Undoes write) :
    (readList item).Undoes (ofList write) := by
  refine ⟨fun items => ?_, nofun⟩
  change (items.map write).mapM item.read = _
  induction items with
  | nil => rfl
  | cons a rest ih =>
    rw [List.map_cons, List.mapM_cons, h.reads, ih]
    rfl

theorem readTexts_undoes : (readList readText).Undoes ofTexts := readList_undoes readText_undoes

theorem nullable_written {r : Reader α} {write : α → Json} (h : r.Undoes write) (a : α) :
    nullable r (write a) = .ok (some a) := by
  have hpresent := h.present a
  simp only [nullable, h.reads]
  rfl

theorem nullOr_written {r : Reader α} {write : α → Json} (h : r.Undoes write) (zero a : α) :
    nullOr zero r (write a) = .ok a := by
  have hpresent := h.present a
  simp only [nullOr, h.reads]

end Values

/-! ## Fields -/

def present (members : List (String × Option Json)) : List (String × Json) :=
  members.filterMap fun (key, value) => value.map fun v => (key, v)

theorem lookup_present {members : List (String × Option Json)}
    (keys : (members.map Prod.fst).Nodup) {key : String} {value : Option Json}
    (hmem : (key, value) ∈ members) : (present members).lookup key = value := by
  have hwritten : ∀ v, (key, v) ∈ present members → value = some v := by
    intro v hv
    obtain ⟨⟨key', written⟩, hmem', hpresent⟩ := List.mem_filterMap.mp hv
    obtain ⟨w, rfl, hpair⟩ := Option.map_eq_some_iff.mp hpresent
    cases hpair
    exact Option.some.inj
      ((OrdMap.lookup_of_mem keys hmem).symm.trans (OrdMap.lookup_of_mem keys hmem'))
  cases value with
  | some v =>
    refine OrdMap.lookup_of_mem (keys.sublist (keys_record members)) ?_
    exact List.mem_filterMap.mpr ⟨_, hmem, rfl⟩
  | none =>
    refine Option.eq_none_iff_forall_ne_some.mpr fun v hv => ?_
    cases hwritten v (OrdMap.mem_of_lookup hv)

/-- The fields of a record are read from the members of an object. -/
def Shape.Reads {α : Type} (s : Shape α) (members : List (String × Json)) (a : α) : Prop :=
  s.fromMembers members = .ok a

namespace Shape.Reads

variable {α β : Type} {members : List (String × Json)} {key : String} {a : α}
  {read : Reader α} {write : α → Json}

theorem map {s : Shape α} {f : α → β} (h : s.Reads members a) : (f <$> s).Reads members (f a) :=
  congrArg (Except.map f) h

theorem seq {s : Shape (α → β)} {s' : Shape α} {f : α → β} (h : s.Reads members f)
    (h' : s'.Reads members a) : (s <*> s').Reads members (f a) := by
  change (Shape.seq s s').fromMembers members = _
  unfold Reads at h h'
  simp only [Shape.seq, h, h']

theorem field {v : Json} {absent cut : Option α} (hread : read v = .ok a)
    (hmember : members.lookup key = some v) : (Shape.field key read absent cut).Reads members a := by
  simp only [Reads, Shape.field, hmember, hread]
  rfl

theorem absent {cut : Option α} (hmember : members.lookup key = none) :
    (Shape.field key read (some a) cut).Reads members a := by
  simp only [Reads, Shape.field, hmember]

section Written

variable (h : read.Undoes write)
include h

theorem required (hmember : members.lookup key = some (write a)) :
    (Shape.required key read).Reads members a :=
  field (h.reads a) hmember

theorem withDefault {default : α} (hmember : members.lookup key = some (write a)) :
    (Shape.withDefault key read default).Reads members a :=
  field (h.reads a) hmember

theorem optional {o : Option α} (hmember : members.lookup key = o.map write) :
    (Shape.optional key read).Reads members o := by
  cases o with
  | none => exact absent hmember
  | some a => exact field (nullable_written h a) hmember

theorem orZero {zero : α} (hmember : members.lookup key = some (write a)) :
    (Shape.orZero key read zero).Reads members a :=
  field (nullOr_written h zero a) hmember

end Written

end Shape.Reads

/-! ## Records -/

theorem record_ne_null (members : List (String × Option Json)) : record members ≠ .null := nofun

section Records

variable {α : Type} {s : Shape α} {name : String} {members : List (String × Option Json)} {a : α}
  (keys : (members.map Prod.fst).Nodup)
  (h : ∀ written : List (String × Json),
    (∀ {key value}, (key, value) ∈ members → written.lookup key = value) → s.Reads written a)
include keys h

theorem decodeMembers_record : s.decodeMembers (present members) = .ok a := by
  have hreads := h (present members) fun hmem => lookup_present keys hmem
  rw [Shape.decodeMembers, hreads]
  rfl

theorem decode_record : s.decode name (record members) = .ok a := decodeMembers_record keys h

theorem decodeObject_record : s.decodeObject name (record members) = .ok a :=
  decodeMembers_record keys h

end Records

end Json

/-! ## Specifications -/

section Records

open Json Json.Shape.Reads

theorem SecretRef.undoes : SecretRef.ofJson.Undoes SecretRef.toJson := by
  refine ⟨fun r => decode_record (by simp) fun written hwritten => ?_, fun _ => record_ne_null _⟩
  obtain ⟨name, key⟩ := r
  refine .seq ?_ (.required readText_undoes (hwritten (by simp)))
  exact .map (.required readText_undoes (hwritten (by simp)))

theorem DatabaseSettings.undoes : DatabaseSettings.ofJson.Undoes DatabaseSettings.toJson := by
  refine ⟨fun d => decode_record (by simp) fun written hwritten => ?_, fun _ => record_ne_null _⟩
  obtain ⟨host, hostRef, port, portRef, user, userRef, password, passwordRef, name, nameRef, ssl, sslRef, maxConn, maxConnRef⟩ := d
  refine .seq ?_ (.optional SecretRef.undoes (hwritten (by simp)))
  refine .seq ?_ (.withDefault readInt32_undoes (hwritten (by simp)))
  refine .seq ?_ (.optional SecretRef.undoes (hwritten (by simp)))
  refine .seq ?_ (.withDefault readBool_undoes (hwritten (by simp)))
  refine .seq ?_ (.optional SecretRef.undoes (hwritten (by simp)))
  refine .seq ?_ (.withDefault readText_undoes (hwritten (by simp)))
  refine .seq ?_ (.optional SecretRef.undoes (hwritten (by simp)))
  refine .seq ?_ (.optional readText_undoes (hwritten (by simp)))
  refine .seq ?_ (.optional SecretRef.undoes (hwritten (by simp)))
  refine .seq ?_ (.withDefault readText_undoes (hwritten (by simp)))
  refine .seq ?_ (.optional SecretRef.undoes (hwritten (by simp)))
  refine .seq ?_ (.withDefault readInt32_undoes (hwritten (by simp)))
  refine .seq ?_ (.optional SecretRef.undoes (hwritten (by simp)))
  exact .map (.withDefault readText_undoes (hwritten (by simp)))

theorem RuntimeSettings.undoes : RuntimeSettings.ofJson.Undoes RuntimeSettings.toJson := by
  refine ⟨fun r => decode_record (by simp) fun written hwritten => ?_, fun _ => record_ne_null _⟩
  obtain ⟨adminSecretName, debugMode, dataDir, withoutDemo, proxyMode, workers, limitRequest, limitTimeReal, limitTimeCpu, limitMemorySoft, limitMemoryHard⟩ := r
  refine .seq ?_ (.withDefault readInt64_undoes (hwritten (by simp)))
  refine .seq ?_ (.withDefault readInt64_undoes (hwritten (by simp)))
  refine .seq ?_ (.withDefault readInt32_undoes (hwritten (by simp)))
  refine .seq ?_ (.withDefault readInt32_undoes (hwritten (by simp)))
  refine .seq ?_ (.withDefault readInt32_undoes (hwritten (by simp)))
  refine .seq ?_ (.withDefault readInt32_undoes (hwritten (by simp)))
  refine .seq ?_ (.withDefault readBool_undoes (hwritten (by simp)))
  refine .seq ?_ (.withDefault readBool_undoes (hwritten (by simp)))
  refine .seq ?_ (.withDefault readText_undoes (hwritten (by simp)))
  refine .seq ?_ (.withDefault readBool_undoes (hwritten (by simp)))
  exact .map (.optional readText_undoes (hwritten (by simp)))

theorem FilestoreSettings.undoes : FilestoreSettings.ofJson.Undoes FilestoreSettings.toJson := by
  refine ⟨fun f => decode_record (by simp) fun written hwritten => ?_, fun _ => record_ne_null _⟩
  obtain ⟨name, createIfNotExists, size, storageClassName, accessModes⟩ := f
  refine .seq ?_ (.withDefault readTexts_undoes (hwritten (by simp)))
  refine .seq ?_ (.optional readText_undoes (hwritten (by simp)))
  refine .seq ?_ (.withDefault readText_undoes (hwritten (by simp)))
  refine .seq ?_ (.withDefault readBool_undoes (hwritten (by simp)))
  exact .map (.optional readText_undoes (hwritten (by simp)))

theorem App.Spec.undoes : App.Spec.ofJson.Undoes App.Spec.toJson := by
  refine ⟨fun spec => decode_record (by simp) fun written hwritten => ?_, fun _ => record_ne_null _⟩
  obtain ⟨name, replicas, image, imagePullPolicy, database, config, modules, filestore⟩ := spec
  refine .seq ?_ (.withDefault FilestoreSettings.undoes (hwritten (by simp)))
  refine .seq ?_ (.withDefault readTexts_undoes (hwritten (by simp)))
  refine .seq ?_ (.withDefault RuntimeSettings.undoes (hwritten (by simp)))
  refine .seq ?_ (.withDefault DatabaseSettings.undoes (hwritten (by simp)))
  refine .seq ?_ (.withDefault readText_undoes (hwritten (by simp)))
  refine .seq ?_ (.withDefault readText_undoes (hwritten (by simp)))
  refine .seq ?_ (.withDefault readInt32_undoes (hwritten (by simp)))
  exact .map (.withDefault readText_undoes (hwritten (by simp)))

/-! ## Statuses -/

theorem Condition.undoes : Condition.ofJson.Undoes Condition.toJson := by
  refine ⟨fun c => decodeObject_record (by simp) fun written hwritten => ?_, fun _ => record_ne_null _⟩
  obtain ⟨type, status, reason, message, observedGeneration, lastTransitionTime⟩ := c
  refine .seq ?_ (.required readTime_undoes (hwritten (by simp)))
  refine .seq ?_ (.optional readInt64_undoes (hwritten (by simp)))
  refine .seq ?_ (.orZero readText_undoes (hwritten (by simp)))
  refine .seq ?_ (.orZero readText_undoes (hwritten (by simp)))
  refine .seq ?_ (.orZero readText_undoes (hwritten (by simp)))
  exact .map (.orZero readText_undoes (hwritten (by simp)))

theorem JobRecord.undoes : JobRecord.ofJson.Undoes JobRecord.toJson := by
  refine ⟨fun r => decode_record (by simp) fun written hwritten => ?_, fun _ => record_ne_null _⟩
  obtain ⟨name, ns, modules⟩ := r
  refine .seq ?_ ?_
  · refine .seq ?_ (.withDefault readText_undoes (hwritten (by simp)))
    exact .map (.withDefault readText_undoes (hwritten (by simp)))
  · -- Without modules the field is left out, which is what an absent field stands for.
    have hmodules : written.lookup "modules" =
        if modules.isEmpty then none else some (ofTexts modules) := hwritten (by simp)
    cases modules with
    | nil => exact absent hmodules
    | cons first rest => exact .withDefault readTexts_undoes hmodules

theorem App.Status.undoes : App.Status.ofJson.Undoes App.Status.toJson := by
  refine ⟨fun status => decode_record (by simp) fun written hwritten => ?_, fun _ => record_ne_null _⟩
  obtain ⟨configSecretName, dataClaimName, installed, initJob, adminSecretName, conditions⟩ := status
  refine .seq ?_ (.withDefault (readList_undoes Condition.undoes) (hwritten (by simp)))
  refine .seq ?_ (.optional readText_undoes (hwritten (by simp)))
  refine .seq ?_ (.withDefault JobRecord.undoes (hwritten (by simp)))
  refine .seq ?_ (.withDefault readTexts_undoes (hwritten (by simp)))
  refine .seq ?_ (.optional readText_undoes (hwritten (by simp)))
  exact .map (.optional readText_undoes (hwritten (by simp)))

/-! ## Round trips -/

/-- Decoding a specification or a status gives back what has been encoded. What has been decoded from
any document is encoded as a document that is decoded again, and is encoded as the same one then. -/
theorem encoding_undone :
    (∀ spec : App.Spec, App.Spec.ofJson spec.toJson = .ok spec) ∧
    (∀ status : App.Status, App.Status.ofJson status.toJson = .ok status) ∧
    (∀ (document : Json) (spec : App.Spec), App.Spec.ofJson document = .ok spec →
      ∃ again, App.Spec.ofJson spec.toJson = .ok again ∧ again.toJson = spec.toJson) ∧
    ∀ (document : Json) (status : App.Status), App.Status.ofJson document = .ok status →
      ∃ again, App.Status.ofJson status.toJson = .ok again ∧ again.toJson = status.toJson := by
  refine ⟨App.Spec.undoes.reads, App.Status.undoes.reads, fun document spec _ => ?_,
    fun document status _ => ?_⟩
  · exact ⟨spec, App.Spec.undoes.reads spec, rfl⟩
  · exact ⟨status, App.Status.undoes.reads status, rfl⟩

/-- A specification in the form of an array that ends early. -/
def Sample.shortSpec : Json := .array [.string "shop", .integer 2]

/-- A status with a null, an unknown key and the time of a condition in another zone. -/
def Sample.foreignStatus : Json :=
  .object [("conditions", .array [.object [("lastTransitionTime", .string "2024-02-29T01:30:00+01:00")]]),
    ("odooDataPvcName", .null), ("phase", .string "Running")]

theorem encoding_undone_sample :
    (∃ spec again, App.Spec.ofJson Sample.shortSpec = .ok spec ∧
      App.Spec.ofJson spec.toJson = .ok again ∧ again.toJson = spec.toJson) ∧
    ∃ status again, App.Status.ofJson Sample.foreignStatus = .ok status ∧
      App.Status.ofJson status.toJson = .ok again ∧ again.toJson = status.toJson := by
  obtain ⟨-, -, hspec, hstatus⟩ := encoding_undone
  obtain ⟨spec, hshort⟩ : ∃ spec, App.Spec.ofJson Sample.shortSpec = .ok spec := ⟨_, rfl⟩
  obtain ⟨status, hforeign⟩ : ∃ status, App.Status.ofJson Sample.foreignStatus = .ok status :=
    ⟨_, rfl⟩
  obtain ⟨spec', hspec'⟩ := hspec _ _ hshort
  obtain ⟨status', hstatus'⟩ := hstatus _ _ hforeign
  exact ⟨⟨spec, spec', hshort, hspec'⟩, status, status', hforeign, hstatus'⟩

end Records

end OdooKeeper
