import Mathlib.Algebra.Group.Nat.Defs
import OdooKeeper.Routing.Filter

/-! # The bytes of a payload

The bytes that stand for a payload are made of entries that a tag and two lengths keep apart, so no
two payloads have the same bytes. -/

namespace OdooKeeper

/-! ## Numbers of a fixed width -/

namespace Bytes

@[simp] theorem length_ofNatLittle (width n : Nat) : (ofNatLittle width n).length = width := by
  induction width generalizing n with
  | zero => rfl
  | succ width ih => simp [ofNatLittle, ih]

theorem ofNatLittle_inj {width m n : Nat} (hm : m < 256 ^ width) (hn : n < 256 ^ width)
    (h : ofNatLittle width m = ofNatLittle width n) : m = n := by
  induction width generalizing m n with
  | zero => omega
  | succ width ih =>
    obtain ⟨hlow, hrest⟩ := List.cons.inj h
    have hlow : m % 256 = n % 256 := by
      simpa using congrArg UInt8.toNat hlow
    rw [Nat.pow_succ] at hm hn
    have hhigh : m / 256 = n / 256 := ih (by omega) (by omega) hrest
    omega

def framed (bytes : Bytes) : Bytes := ofNatLittle 8 bytes.length ++ bytes

theorem framed_append_inj {a b rest rest' : Bytes} (ha : a.length < 2 ^ 64) (hb : b.length < 2 ^ 64)
    (h : framed a ++ rest = framed b ++ rest') : a = b ∧ rest = rest' := by
  unfold framed at h
  rw [List.append_assoc, List.append_assoc] at h
  obtain ⟨hlength, htail⟩ := List.append_inj h (by simp)
  have hsame : a.length = b.length :=
    ofNatLittle_inj (by simpa using ha) (by simpa using hb) hlength
  exact List.append_inj htail hsame

end Bytes

/-! ## Entries -/

/-- An entry of a payload: its tag, its key and its value. -/
structure PayloadEntry where
  tag : UInt8
  key : String
  value : Bytes

namespace PayloadEntry

def bytes (e : PayloadEntry) : Bytes := entryBytes e.tag e.key e.value

structure Fits (e : PayloadEntry) : Prop where
  key : (Bytes.ofText e.key).length < 2 ^ 64
  value : e.value.length < 2 ^ 64

instance (e : PayloadEntry) : Decidable e.Fits :=
  decidable_of_iff ((Bytes.ofText e.key).length < 2 ^ 64 ∧ e.value.length < 2 ^ 64)
    ⟨fun h => ⟨h.1, h.2⟩, fun h => ⟨h.key, h.value⟩⟩

theorem bytes_eq (e : PayloadEntry) :
    e.bytes = e.tag :: (Bytes.framed (Bytes.ofText e.key) ++ Bytes.framed e.value) := by
  simp [bytes, entryBytes, Bytes.framed]

theorem bytes_append_inj {e e' : PayloadEntry} {rest rest' : Bytes} (he : e.Fits) (he' : e'.Fits)
    (h : e.bytes ++ rest = e'.bytes ++ rest') : e = e' ∧ rest = rest' := by
  rw [bytes_eq, bytes_eq, List.cons_append, List.cons_append, List.append_assoc,
    List.append_assoc] at h
  obtain ⟨htag, hrest⟩ := List.cons.inj h
  obtain ⟨hkey, hrest⟩ := Bytes.framed_append_inj he.key he'.key hrest
  obtain ⟨hvalue, hrest⟩ := Bytes.framed_append_inj he.value he'.value hrest
  refine ⟨?_, hrest⟩
  cases e
  cases e'
  rw [PayloadEntry.mk.injEq]
  exact ⟨htag, Bytes.ofText_inj.mp hkey, hvalue⟩

theorem flatMap_bytes_inj {entries entries' : List PayloadEntry} (h : ∀ e ∈ entries, e.Fits)
    (h' : ∀ e ∈ entries', e.Fits) (hbytes : entries.flatMap bytes = entries'.flatMap bytes) :
    entries = entries' := by
  have hne : ∀ (e : PayloadEntry) (rest : Bytes), e.bytes ++ rest ≠ [] := by
    intro e rest
    rw [bytes_eq]
    simp
  induction entries generalizing entries' with
  | nil =>
    cases entries' with
    | nil => rfl
    | cons e' rest' => exact absurd hbytes.symm (hne e' _)
  | cons e rest ih =>
    cases entries' with
    | nil => exact absurd hbytes (hne e _)
    | cons e' rest' =>
      rw [List.flatMap_cons, List.flatMap_cons] at hbytes
      obtain ⟨rfl, hrest⟩ := bytes_append_inj (h e List.mem_cons_self) (h' e' List.mem_cons_self)
        hbytes
      rw [ih (fun e he => h e (List.mem_cons_of_mem _ he))
        (fun e he => h' e (List.mem_cons_of_mem _ he)) hrest]

end PayloadEntry

/-! ## Payloads -/

namespace Payload

def dataTag : UInt8 := 'd'.toUInt8

def textTag : UInt8 := 's'.toUInt8

def dataEntry (e : String × Bytes) : PayloadEntry := ⟨dataTag, e.1, e.2⟩

def textEntry (e : String × String) : PayloadEntry := ⟨textTag, e.1, Bytes.ofText e.2⟩

def entries (p : Payload) : List PayloadEntry :=
  p.data.entries.map dataEntry ++ p.stringData.entries.map textEntry

/-- All keys and values are short enough for their lengths to be written. -/
def Fits (p : Payload) : Prop := ∀ e ∈ p.entries, e.Fits

instance (p : Payload) : Decidable p.Fits := inferInstanceAs (Decidable (∀ e ∈ p.entries, e.Fits))

theorem bytes_eq (p : Payload) : p.bytes = p.entries.flatMap PayloadEntry.bytes := by
  unfold bytes entries
  rw [List.flatMap_append, List.flatMap_map, List.flatMap_map]
  rfl

theorem filter_dataTag (p : Payload) :
    p.entries.filter (fun e => e.tag = dataTag) = p.data.entries.map dataEntry := by
  have hdata : ∀ e ∈ p.data.entries.map dataEntry, decide (e.tag = dataTag) = true := by
    intro e he
    obtain ⟨_, -, rfl⟩ := List.mem_map.mp he
    exact decide_eq_true rfl
  have htext : ∀ e ∈ p.stringData.entries.map textEntry, ¬ decide (e.tag = dataTag) = true := by
    intro e he
    obtain ⟨_, -, rfl⟩ := List.mem_map.mp he
    have hne : textTag ≠ dataTag := by decide
    rw [decide_eq_true_iff]
    exact hne
  rw [entries, List.filter_append, List.filter_eq_self.mpr hdata, List.filter_eq_nil_iff.mpr htext,
    List.append_nil]

theorem entries_inj {p q : Payload} (h : p.entries = q.entries) : p = q := by
  have hdata : p.data.entries.map dataEntry = q.data.entries.map dataEntry := by
    rw [← filter_dataTag, ← filter_dataTag, h]
  have htext : p.stringData.entries.map textEntry = q.stringData.entries.map textEntry := by
    rw [entries, entries, hdata] at h
    exact List.append_cancel_left h
  have hdataInj : Function.Injective dataEntry := by
    rintro ⟨key, value⟩ ⟨key', value'⟩ hentry
    cases hentry
    rfl
  have htextInj : Function.Injective textEntry := by
    rintro ⟨key, text⟩ ⟨key', text'⟩ hentry
    simp only [textEntry, PayloadEntry.mk.injEq, true_and] at hentry
    rw [hentry.1, Bytes.ofText_inj.mp hentry.2]
  cases p
  cases q
  rw [Payload.mk.injEq]
  exact ⟨OrdMap.ext (List.map_inj_right hdataInj |>.mp hdata),
    OrdMap.ext (List.map_inj_right htextInj |>.mp htext)⟩

theorem eq_of_bytes {p q : Payload} (hp : p.Fits) (hq : q.Fits) (h : p.bytes = q.bytes) :
    p = q := by
  rw [bytes_eq, bytes_eq] at h
  exact entries_inj (PayloadEntry.flatMap_bytes_inj hp hq h)

end Payload

/-! ## Secrets -/

/-- The bytes behind the digests of two secrets are the same exactly when an update from one to the
other keeps the payload. Maps that are absent add as many bytes as empty ones. -/
theorem payload_identified {old new : Secret} (hold : (Payload.of old).Fits)
    (hnew : (Payload.of new).Fits) :
    ((Payload.of old).bytes = (Payload.of new).bytes ↔
      (Change.updated (.secret old) (.secret new)).keepsPayload = true) ∧
    (∀ (metadata : Metadata) (content : Secret.Content),
      (Payload.of ⟨metadata, { content with data := none }⟩).bytes =
          (Payload.of ⟨metadata, { content with data := some ∅ }⟩).bytes ∧
        (Payload.of ⟨metadata, { content with stringData := none }⟩).bytes =
          (Payload.of ⟨metadata, { content with stringData := some ∅ }⟩).bytes) := by
  refine ⟨?_, fun metadata content => ⟨rfl, rfl⟩⟩
  simp only [Change.keepsPayload, decide_eq_true_eq]
  constructor
  · exact Payload.eq_of_bytes hold hnew
  · exact congrArg Payload.bytes

namespace Sample

/-- A value that looks like an entry of its own. -/
def within : Secret :=
  ⟨{}, { data := some (.singleton "a" (entryBytes Payload.dataTag "b" (Bytes.ofText "c"))) }⟩

def beside : Secret :=
  ⟨{}, { data := some (OrdMap.ofList [("a", []), ("b", Bytes.ofText "c")]), stringData := some ∅ }⟩

end Sample

theorem payload_identified_sample :
    (Payload.of Sample.within).Fits ∧ (Payload.of Sample.beside).Fits ∧
      (Payload.of Sample.within).bytes ≠ (Payload.of Sample.beside).bytes := by
  have hwithin : (Payload.of Sample.within).Fits := by decide +kernel
  have hbeside : (Payload.of Sample.beside).Fits := by decide +kernel
  refine ⟨hwithin, hbeside, fun hbytes => ?_⟩
  have hkeeps := (payload_identified hwithin hbeside).1.mp hbytes
  revert hkeeps
  decide +kernel

end OdooKeeper
