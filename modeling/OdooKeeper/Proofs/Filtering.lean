import Mathlib.Data.List.Dedup
import Mathlib.Data.List.Induction
import OdooKeeper.App.Sample
import OdooKeeper.Proofs.Payloads

/-! # What the filter drops

The filter has a digest for a secret if and only if the last notice of it said that it was applied
and concerned an app. So it drops the repeats, and nothing else. -/

namespace OdooKeeper

/-! ## Notices -/

/-- What watching tells of an object, beside the apps that there are at the time. -/
inductive Notice where
  | applied (object : Watched) (apps : List App)
  | deleted (object : Watched) (apps : List App)

namespace Notice

def object : Notice → Watched
  | .applied object _ | .deleted object _ => object

def secretKey? (n : Notice) : Option ObjectKey :=
  if n.object.kind = .secret then some n.object.key else none

def content? : Notice → Option Payload
  | .applied (.secret secret) _ => some (Payload.of secret)
  | _ => none

/-- What the notice says that a secret holds, if that concerns an app. -/
def relevant? : Notice → Option Payload
  | .applied (.secret secret) apps =>
    if (route (.created (.secret secret)) apps).isEmpty then none else some (Payload.of secret)
  | _ => none

def last? (notices : List Notice) (id : ObjectKey) : Option Notice :=
  notices.reverse.find? fun n => n.secretKey? = some id

def contents (notices : List Notice) : List Payload := notices.filterMap content?

/-- What a secret holds by the last notice of it, if that concerned an app. -/
def lastRelevant? (notices : List Notice) (id : ObjectKey) : Option Payload :=
  (last? notices id).bind relevant?

def secretKeys (notices : List Notice) : List ObjectKey := (notices.filterMap secretKey?).dedup

variable {n : Notice} {notices : List Notice} {id : ObjectKey}

@[simp] theorem last?_nil : last? [] id = none := rfl

@[simp] theorem last?_snoc :
    last? (notices ++ [n]) id = if n.secretKey? = some id then some n else last? notices id := by
  rw [last?, List.reverse_append, List.reverse_singleton, List.singleton_append, List.find?_cons]
  by_cases h : n.secretKey? = some id <;> simp [h, last?]

theorem lastRelevant?_snoc :
    lastRelevant? (notices ++ [n]) id =
      if n.secretKey? = some id then n.relevant? else lastRelevant? notices id := by
  rw [lastRelevant?, last?_snoc]
  split <;> rfl

theorem mem_secretKeys_of_last? (h : last? notices id = some n) : id ∈ secretKeys notices := by
  have hmem : n ∈ notices := List.mem_reverse.mp (List.mem_of_find?_eq_some h)
  have hkey : n.secretKey? = some id := by simpa using List.find?_some h
  exact List.mem_dedup.mpr (List.mem_filterMap.mpr ⟨n, hmem, hkey⟩)

theorem mem_secretKeys_of_lastRelevant? {p : Payload} (h : lastRelevant? notices id = some p) :
    id ∈ secretKeys notices := by
  obtain ⟨n, hlast, -⟩ := Option.bind_eq_some_iff.mp h
  exact mem_secretKeys_of_last? hlast

theorem content?_of_relevant? {p : Payload} (h : n.relevant? = some p) : n.content? = some p := by
  unfold relevant? at h
  split at h
  · split at h
    · cases h
    · exact h
  · cases h

theorem mem_contents_of_lastRelevant? {p : Payload} (h : lastRelevant? notices id = some p) :
    p ∈ contents notices := by
  obtain ⟨n, hlast, hn⟩ := Option.bind_eq_some_iff.mp h
  have hmem : n ∈ notices := List.mem_reverse.mp (List.mem_of_find?_eq_some hlast)
  exact List.mem_filterMap.mpr ⟨n, hmem, content?_of_relevant? hn⟩

end Notice

/-! ## The digests that are kept -/

def Payload.digest (p : Payload) : Bytes := Bytes.Sha256.digest p.bytes

namespace ChangeFilter

def told (f : ChangeFilter) : Notice → ChangeFilter
  | .applied object apps => (f.applied object apps).2
  | .deleted object apps => (f.deleted object apps).2

def after (notices : List Notice) : ChangeFilter := notices.foldl told empty

theorem after_snoc (notices : List Notice) (n : Notice) :
    after (notices ++ [n]) = (after notices).told n := by
  rw [after, List.foldl_append, List.foldl_cons, List.foldl_nil, after]

theorem get?_applied_secret (f : ChangeFilter) (secret : Secret) (apps : List App)
    (id : ObjectKey) :
    (f.applied (.secret secret) apps).2.digests.get? id =
      if id = (Watched.secret secret).key then
        (Notice.applied (.secret secret) apps).relevant?.map Payload.digest
      else f.digests.get? id := by
  unfold applied Notice.relevant?
  by_cases hroute : (route (.created (.secret secret)) apps).isEmpty
  · simp [hroute]
  · -- Whether the digest is a new one or not, it is put in.
    have hnext : ∀ (a b : KeySet) (q : Prop) [Decidable q] (g : ChangeFilter),
        (if q then (a, g) else (b, g)).2 = g := by
      intro a b q _ g
      split <;> rfl
    simp only [hroute, hnext, Bool.false_eq_true, if_false, OrdMap.get?_insert, Option.map_some]
    rfl

theorem get?_told (f : ChangeFilter) (n : Notice) (id : ObjectKey) :
    (f.told n).digests.get? id =
      if n.secretKey? = some id then n.relevant?.map Payload.digest else f.digests.get? id := by
  have hkey : ∀ secret : Secret, some (Watched.secret secret).key = some id ↔
      id = (Watched.secret secret).key := fun secret => by rw [Option.some.injEq, eq_comm]
  cases n with
  | applied object apps =>
    cases object with
    | secret secret =>
      simp only [told, get?_applied_secret, Notice.secretKey?, Notice.object, Watched.kind, if_true,
        hkey]
    | _ => rfl
  | deleted object apps =>
    cases object with
    | secret secret =>
      simp only [told, deleted, OrdMap.get?_erase, Notice.secretKey?, Notice.object, Watched.kind,
        if_true, hkey]
      rfl
    | _ => rfl

theorem get?_after (notices : List Notice) (id : ObjectKey) :
    (after notices).digests.get? id = (Notice.lastRelevant? notices id).map Payload.digest := by
  induction notices using List.reverseRecOn with
  | nil => rfl
  | append_singleton notices n ih =>
    rw [after_snoc, get?_told, ih, Notice.lastRelevant?_snoc]
    split <;> rfl

theorem mem_keys_after {notices : List Notice} {id : ObjectKey} :
    id ∈ (after notices).digests.keys ↔ (Notice.lastRelevant? notices id).isSome := by
  rw [OrdMap.mem_keys, get?_after, Option.isSome_map]

theorem tracked_after (notices : List Notice) :
    (after notices).tracked =
      ((Notice.secretKeys notices).filter fun id =>
        (Notice.lastRelevant? notices id).isSome).length := by
  have hsize : (after notices).tracked = (after notices).digests.keys.length := by
    rw [tracked, OrdMap.size, OrdMap.keys, List.length_map]
  rw [hsize]
  refine List.Perm.length_eq ?_
  refine (List.perm_ext_iff_of_nodup (OrdMap.nodup_keys _)
    ((List.nodup_dedup _).filter _)).mpr fun id => ?_
  rw [mem_keys_after, List.mem_filter]
  refine ⟨fun h => ⟨?_, h⟩, fun h => h.2⟩
  obtain ⟨p, hp⟩ := Option.isSome_iff_exists.mp h
  exact Notice.mem_secretKeys_of_lastRelevant? hp

/-! ## Answers -/

theorem applied_secret_fst (f : ChangeFilter) (secret : Secret) (apps : List App) :
    (f.applied (.secret secret) apps).1 =
      if f.digests.get? (Watched.secret secret).key = some (Payload.of secret).digest then ∅
      else route (.created (.secret secret)) apps := by
  unfold applied
  by_cases hroute : (route (.created (.secret secret)) apps).isEmpty
  · have hnone : route (.created (.secret secret)) apps = ∅ :=
      OrdMap.ext (List.isEmpty_iff.mp hroute)
    simp only [hnone, ite_self]
    rfl
  · simp only [hroute, Bool.false_eq_true, if_false]
    split <;> rename_i hdigest
    · exact (if_pos hdigest).symm
    · exact (if_neg hdigest).symm

section Seen

variable {notices : List Notice} {secret : Secret}
  (hfits : ∀ p ∈ Payload.of secret :: Notice.contents notices, p.Fits)
  (hapart : ∀ p ∈ Payload.of secret :: Notice.contents notices,
    ∀ q ∈ Payload.of secret :: Notice.contents notices,
      Bytes.Sha256.digest p.bytes = Bytes.Sha256.digest q.bytes → p.bytes = q.bytes)
include hfits hapart

/-- Where digests tell payloads apart, a digest that is kept is that of the payload. -/
theorem get?_after_eq_digest_iff (id : ObjectKey) :
    (after notices).digests.get? id = some (Payload.of secret).digest ↔
      Notice.lastRelevant? notices id = some (Payload.of secret) := by
  rw [get?_after]
  constructor
  · intro hdigest
    obtain ⟨p, hlast, hsame⟩ := Option.map_eq_some_iff.mp hdigest
    have hp : p ∈ Payload.of secret :: Notice.contents notices :=
      List.mem_cons_of_mem _ (Notice.mem_contents_of_lastRelevant? hlast)
    have hsecret : Payload.of secret ∈ Payload.of secret :: Notice.contents notices :=
      List.mem_cons_self
    have hbytes : p.bytes = (Payload.of secret).bytes := hapart p hp _ hsecret hsame
    rw [hlast, Payload.eq_of_bytes (hfits p hp) (hfits _ hsecret) hbytes]
  · intro hlast
    rw [hlast, Option.map_some]

/-- A notice is dropped exactly when its secret is applied with the payload that it had by the last
notice of it, if that concerned an app. -/
theorem drops_repeats (object : Watched) (apps : List App) :
    ((after notices).applied (.secret secret) apps).1 =
        (if Notice.lastRelevant? notices (Watched.secret secret).key = some (Payload.of secret)
          then ∅ else route (.created (.secret secret)) apps) ∧
      (object.kind ≠ .secret →
        ((after notices).applied object apps).1 = route (.created object) apps) ∧
      ((after notices).deleted object apps).1 = route (.deleted object) apps ∧
      (after notices).tracked = ((Notice.secretKeys notices).filter fun id =>
        (Notice.lastRelevant? notices id).isSome).length := by
  refine ⟨?_, fun hkind => ?_, ?_, tracked_after notices⟩
  · rw [applied_secret_fst]
    exact if_congr (get?_after_eq_digest_iff hfits hapart _) rfl rfl
  · cases object with
    | secret secret => exact absurd rfl hkind
    | _ => rfl
  · cases object <;> rfl

end Seen

end ChangeFilter

namespace Sample

def creds (password : String) : Secret := Secret.ofTexts "web" "db-creds" [("password", password)]

/-- The password is rotated, and a secret that no app reads comes and goes. -/
def notices : List Notice :=
  [.applied (.secret (creds "hunter2")) [App.sample "shop" "web"],
    .applied (.secret (Secret.ofTexts "web" "other" [])) [App.sample "shop" "web"],
    .applied (.secret (creds "hunter3")) [App.sample "shop" "web"],
    .deleted (.secret (Secret.ofTexts "web" "other" [])) []]

end Sample

theorem ChangeFilter.drops_repeats_sample :
    (∀ p ∈ Payload.of (Sample.creds "hunter3") :: Notice.contents Sample.notices, p.Fits) ∧
      (∀ p ∈ Payload.of (Sample.creds "hunter3") :: Notice.contents Sample.notices,
        ∀ q ∈ Payload.of (Sample.creds "hunter3") :: Notice.contents Sample.notices,
          Bytes.Sha256.digest p.bytes = Bytes.Sha256.digest q.bytes → p.bytes = q.bytes) ∧
      ((after Sample.notices).applied (.secret (Sample.creds "hunter3"))
        [App.sample "shop" "web"]).1 = ∅ ∧
      (after Sample.notices).tracked = 1 := by
  have hfits : ∀ p ∈ Payload.of (Sample.creds "hunter3") :: Notice.contents Sample.notices,
      p.Fits := by decide +kernel
  have hapart : ∀ p ∈ Payload.of (Sample.creds "hunter3") :: Notice.contents Sample.notices,
      ∀ q ∈ Payload.of (Sample.creds "hunter3") :: Notice.contents Sample.notices,
        Bytes.Sha256.digest p.bytes = Bytes.Sha256.digest q.bytes → p.bytes = q.bytes := by
    decide +kernel
  obtain ⟨happlied, -, -, htracked⟩ := ChangeFilter.drops_repeats hfits hapart
    (.secret (Sample.creds "hunter3")) [App.sample "shop" "web"]
  refine ⟨hfits, hapart, ?_, ?_⟩
  · rw [happlied, if_pos (by decide +kernel)]
  · rw [htracked]
    decide +kernel

end OdooKeeper
