import OdooKeeper.Connection
import OdooKeeper.Proofs.Serving
import OdooKeeper.Proofs.Trimming
import OdooKeeper.Routing

/-! # What the connection of an app is

Every field of the connection has one outcome on a store, by rules that say where its value comes
from. The connection is worked out field by field in order, and it is what the fields are, or the
first failure among them. Nothing else is read on the way, and nothing is written. -/

namespace OdooKeeper

variable {α β : Type} {app : App} {s : Store}

/-! ## Fields -/

namespace ConnectionField

/-- The fields in the order in which they are worked out. -/
def order : List ConnectionField := [.host, .port, .user, .password, .name, .ssl, .maxConn]

def before (field : ConnectionField) : List ConnectionField :=
  order.takeWhile fun other => other ≠ field

abbrev Value : ConnectionField → Type
  | .host | .user | .password | .name => String
  | .port | .maxConn => Int32
  | .ssl => Bool

def form : (field : ConnectionField) → ValueForm field.Value
  | .host | .user | .password | .name => .text
  | .port | .maxConn => .int32
  | .ssl => .bool

theorem before_trichotomy (a b : ConnectionField) : a = b ∨ a ∈ b.before ∨ b ∈ a.before := by
  cases a <;> cases b <;> decide

end ConnectionField

def Connection.value (db : Connection) : (field : ConnectionField) → field.Value
  | .host => db.host
  | .port => db.port
  | .user => db.user
  | .password => db.password
  | .name => db.name
  | .ssl => db.ssl
  | .maxConn => db.maxConn

/-- The value given outright. An empty password is none. -/
def DatabaseSettings.literal? (db : DatabaseSettings) : (field : ConnectionField) →
    Option field.Value
  | .host => some db.host
  | .port => some db.port
  | .user => some db.user
  | .password => db.password.filter fun text => text ≠ ""
  | .name => some db.name
  | .ssl => some db.ssl
  | .maxConn => some db.maxConn

/-! ## Outcomes -/

/-- What a secret has under a key. Its `stringData` counts only where `data` has nothing. -/
inductive Secret.Holds (secret : Secret) (key : String) : Bytes → Prop where
  | data {bytes : Bytes} (h : (Payload.of secret).data.get? key = some bytes) :
      Holds secret key bytes
  | stringData {text : String} (absent : (Payload.of secret).data.get? key = none)
      (h : (Payload.of secret).stringData.get? key = some text) :
      Holds secret key (Bytes.ofText text)

/-- What comes of looking for a reference in its secret. -/
inductive SecretRef.Finds (ref : SecretRef) (secret : Secret) : Except Failure String → Prop where
  | keyless (h : ∀ bytes, ¬ secret.Holds ref.key bytes) :
      Finds ref secret (.error (.keyNotFound ref.name ref.key))
  | garbled {bytes : Bytes} (holds : secret.Holds ref.key bytes) (h : Bytes.text? bytes = none) :
      Finds ref secret (.error (.invalidValue ref.name ref.key "UTF-8 string"))
  | text {bytes : Bytes} {text : String} (holds : secret.Holds ref.key bytes)
      (h : Bytes.text? bytes = some text) : Finds ref secret (.ok text)

/-- What comes of reading a reference in a namespace of a store. -/
inductive SecretRef.Reads (ref : SecretRef) (ns : String) (s : Store) :
    Except Failure String → Prop where
  | refused (h : s.Refuses (.get .secret ns ref.name)) :
      Reads ref ns s (.error
        (.store .referencedSecret .get ref.name (.request "injected Get failure for Secret")))
  | absent (granted : ¬ s.Refuses (.get .secret ns ref.name))
      (h : s.objects.get? .secret ⟨ns, ref.name⟩ = none) :
      Reads ref ns s (.error (.secretNotFound ref.name))
  | found (granted : ¬ s.Refuses (.get .secret ns ref.name)) {secret : Secret}
      (stored : s.objects.get? .secret ⟨ns, ref.name⟩ = some secret)
      {result : Except Failure String} (h : ref.Finds secret result) : Reads ref ns s result

/-- The value that a text has for a field. Numbers and booleans may stand between blanks. -/
def ConnectionField.Means (raw : String) : (field : ConnectionField) → field.Value → Prop
  | .host | .user | .password | .name => fun text => text = raw
  | .port | .maxConn => fun n =>
    ∃ number, Text.Padded number raw.toList ∧ Decimal.Denotes number n.toInt
  | .ssl => fun b => ∃ word, Text.Padded word raw.toList ∧ ValueForm.BoolWord b word

/-- What comes of a field whose reference was read with some result. -/
inductive ConnectionField.Takes (field : ConnectionField) (ref : SecretRef) :
    Except Failure String → Except Failure field.Value → Prop where
  | unread {cause : Failure} : Takes field ref (.error cause) (.error cause)
  | invalid {raw : String} (h : ∀ value, ¬ field.Means raw value) :
      Takes field ref (.ok raw) (.error (.invalidValue ref.name ref.key field.form.expected))
  | valid {raw : String} {value : field.Value} (h : field.Means raw value) :
      Takes field ref (.ok raw) (.ok value)

/-- The field has no reference, or one that is only half filled in. -/
def App.Unset (app : App) (field : ConnectionField) : Prop :=
  ∀ ref, app.content.spec.database.ref? field = some ref → ref.name = "" ∨ ref.key = ""

/-- The field has a reference, which is filled in. -/
structure App.Sets (app : App) (field : ConnectionField) (ref : SecretRef) : Prop where
  given : app.content.spec.database.ref? field = some ref
  name : ref.name ≠ ""
  key : ref.key ≠ ""

/-- What comes of a field of the connection of an app. What is given outright counts only if no
reference is set, whatever comes of the reference. -/
inductive App.Resolves (app : App) (s : Store) (field : ConnectionField) :
    Except Failure field.Value → Prop where
  | literal (unset : app.Unset field) {value : field.Value}
      (h : app.content.spec.database.literal? field = some value) : Resolves app s field (.ok value)
  | missing (unset : app.Unset field) (h : app.content.spec.database.literal? field = none) :
      Resolves app s field (.error .credentialMissing)
  | referenced {ref : SecretRef} (set : app.Sets field ref) {read : Except Failure String}
      (reads : ref.Reads app.space s read) {result : Except Failure field.Value}
      (h : field.Takes ref read result) : Resolves app s field result

/-- The requests that a field takes. -/
def App.readsFor (app : App) (field : ConnectionField) : List Call :=
  (setRef? (app.content.spec.database.ref? field)).toList.map fun ref =>
    (Request.get .secret app.space ref.name).call

/-- What comes of the whole connection, and the requests that it takes. -/
inductive Connection.Outcome (app : App) (s : Store) :
    Except Failure Connection → List Call → Prop where
  | resolved {db : Connection} (h : ∀ field, app.Resolves s field (.ok (db.value field))) :
      Outcome app s (.ok db) (ConnectionField.order.flatMap app.readsFor)
  | failed {field : ConnectionField} {cause : Failure} (h : app.Resolves s field (.error cause))
      (earlier : ∀ other ∈ field.before, ∃ value, app.Resolves s other (.ok value)) :
      Outcome app s (.error (.connection field cause))
        ((field.before ++ [field]).flatMap app.readsFor)

/-! ## There is one outcome -/

theorem Secret.holds_iff {secret : Secret} {key : String} {bytes : Bytes} :
    secret.Holds key bytes ↔ secret.content.value? key = some bytes := by
  have hdata : (Payload.of secret).data.get? key =
      secret.content.data.bind fun d => d.get? key := by
    unfold Payload.of
    cases secret.content.data <;> rfl
  have hstring : (Payload.of secret).stringData.get? key =
      secret.content.stringData.bind fun d => d.get? key := by
    unfold Payload.of
    cases secret.content.stringData <;> rfl
  unfold Secret.Content.value?
  rw [← hdata, ← hstring, Option.or_eq_some_iff, Option.map_eq_some_iff]
  constructor
  · intro h
    cases h with
    | data h => exact .inl h
    | stringData absent h => exact .inr ⟨absent, _, h, rfl⟩
  · rintro (h | ⟨absent, text, h, rfl⟩)
    · exact .data h
    · exact .stringData absent h

theorem SecretRef.finds_iff {ref : SecretRef} {secret : Secret} {result : Except Failure String} :
    ref.Finds secret result ↔ ref.textIn secret = result := by
  unfold textIn
  constructor
  · intro h
    cases h with
    | keyless h =>
      have hnone : secret.content.value? ref.key = none := by
        refine Option.eq_none_iff_forall_ne_some.mpr fun bytes hbytes => ?_
        exact h bytes (Secret.holds_iff.mpr hbytes)
      rw [hnone]
    | garbled holds h => simp only [Secret.holds_iff.mp holds, h]
    | text holds h => simp only [Secret.holds_iff.mp holds, h]
  · rintro rfl
    split
    · rename_i hnone
      refine .keyless fun bytes hbytes => ?_
      rw [Secret.holds_iff, hnone] at hbytes
      cases hbytes
    · rename_i bytes hbytes
      split
      · exact .garbled (Secret.holds_iff.mpr hbytes) (by assumption)
      · exact .text (Secret.holds_iff.mpr hbytes) (by assumption)

theorem SecretRef.Reads.unique {ref : SecretRef} {ns : String} {a b : Except Failure String}
    (h : ref.Reads ns s a) (h' : ref.Reads ns s b) : a = b := by
  cases h with
  | refused refused =>
    cases h' with
    | refused => rfl
    | absent granted | found granted => exact absurd refused granted
  | absent granted absent =>
    cases h' with
    | refused refused => exact absurd refused granted
    | absent => rfl
    | found _ stored => cases absent.symm.trans stored
  | found granted stored finds =>
    cases h' with
    | refused refused => exact absurd refused granted
    | absent _ absent => cases absent.symm.trans stored
    | found _ stored' finds' =>
      cases stored.symm.trans stored'
      exact (SecretRef.finds_iff.mp finds).symm.trans (SecretRef.finds_iff.mp finds')

theorem ConnectionField.means_iff {field : ConnectionField} {raw : String} {value : field.Value} :
    field.Means raw value ↔ field.form.parse raw = some value := by
  cases field with
  | host | user | password | name => exact eq_comm.trans Option.some_inj.symm
  | port | maxConn => exact ValueForm.int32_parse_eq_some_iff.symm
  | ssl => exact ValueForm.bool_parse_eq_iff.symm

theorem ConnectionField.Means.unique {field : ConnectionField} {raw : String} {a b : field.Value}
    (h : field.Means raw a) (h' : field.Means raw b) : a = b :=
  Option.some.inj ((means_iff.mp h).symm.trans (means_iff.mp h'))

theorem ConnectionField.Takes.unique {field : ConnectionField} {ref : SecretRef}
    {read : Except Failure String} {a b : Except Failure field.Value} (h : field.Takes ref read a)
    (h' : field.Takes ref read b) : a = b := by
  cases h with
  | unread =>
    cases h'
    rfl
  | invalid hnone =>
    cases h' with
    | invalid => rfl
    | valid means => exact absurd means (hnone _)
  | valid means =>
    cases h' with
    | invalid hnone => exact absurd means (hnone _)
    | valid means' => rw [means.unique means']

section References

variable {field : ConnectionField} {ref : SecretRef}

theorem App.unset_iff :
    app.Unset field ↔ setRef? (app.content.spec.database.ref? field) = none := by
  unfold setRef?
  rw [Option.filter_eq_none_iff]
  refine forall_congr' fun ref => imp_congr_right fun _ => ?_
  simp only [SecretRef.isSet, ne_eq, decide_not, Bool.and_eq_true, Bool.not_eq_true',
    decide_eq_false_iff_not, Classical.not_and_iff_not_or_not, Classical.not_not]

theorem App.sets_iff :
    app.Sets field ref ↔ setRef? (app.content.spec.database.ref? field) = some ref := by
  unfold setRef?
  rw [Option.filter_eq_some_iff]
  constructor
  · intro h
    exact ⟨h.given, by simp [SecretRef.isSet, h.name, h.key]⟩
  · rintro ⟨hgiven, hset⟩
    simp only [SecretRef.isSet, Bool.and_eq_true, decide_eq_true_eq] at hset
    exact ⟨hgiven, hset.1, hset.2⟩

theorem App.Sets.not_unset (h : app.Sets field ref) : ¬ app.Unset field := by
  intro hunset
  cases (App.sets_iff.mp h).symm.trans (App.unset_iff.mp hunset)

theorem App.Resolves.unique {a b : Except Failure field.Value} (h : app.Resolves s field a)
    (h' : app.Resolves s field b) : a = b := by
  cases h with
  | literal unset given =>
    cases h' with
    | literal _ given' => rw [Option.some.inj (given.symm.trans given')]
    | missing _ absent => cases absent.symm.trans given
    | referenced set => exact absurd unset set.not_unset
  | missing unset absent =>
    cases h' with
    | literal _ given => cases absent.symm.trans given
    | missing => rfl
    | referenced set => exact absurd unset set.not_unset
  | referenced set reads takes =>
    cases h' with
    | literal unset | missing unset => exact absurd unset set.not_unset
    | referenced set' reads' takes' =>
      cases (App.sets_iff.mp set).symm.trans (App.sets_iff.mp set')
      cases reads.unique reads'
      exact takes.unique takes'

end References

/-! ## Attempts that only read -/

namespace Attempt

/-- Whatever was asked before, the attempt changes nothing but the record of requests, and what it
comes to and the requests that it makes are of a kind. -/
def Ends (x : Attempt α) (s : Store) (post : Except Failure α → List Call → Prop) : Prop :=
  ∃ result reads, post result reads ∧
    ∀ calls, x.run.run { s with calls } = (result, { s with calls := calls ++ reads })

variable {x : Attempt α} {f : α → Attempt β}

theorem ends_ofExcept {result : Except Failure α} {post : Except Failure α → List Call → Prop}
    (h : post result []) : (ofExcept result).Ends s post := by
  refine ⟨result, [], h, fun calls => ?_⟩
  rw [List.append_nil]
  rfl

theorem ends_pure {a : α} {post : Except Failure α → List Call → Prop} (h : post (.ok a) []) :
    (pure a : Attempt α).Ends s post :=
  ends_ofExcept h

theorem ends_throw {failure : Failure} {post : Except Failure α → List Call → Prop}
    (h : post (.error failure) []) : (throw failure : Attempt α).Ends s post :=
  ends_ofExcept h

theorem Ends.mono {post post' : Except Failure α → List Call → Prop} (h : x.Ends s post)
    (himp : ∀ result reads, post result reads → post' result reads) : x.Ends s post' := by
  obtain ⟨result, reads, hpost, hrun⟩ := h
  exact ⟨result, reads, himp _ _ hpost, hrun⟩

theorem ends_bind {first : Except Failure α → List Call → Prop}
    {post : Except Failure β → List Call → Prop} (hx : x.Ends s first)
    (herror : ∀ failure reads, first (.error failure) reads → post (.error failure) reads)
    (hok : ∀ a reads, first (.ok a) reads →
      (f a).Ends s fun result rest => post result (reads ++ rest)) :
    (x >>= f).Ends s post := by
  obtain ⟨result, reads, hfirst, hrun⟩ := hx
  cases result with
  | error failure =>
    refine ⟨.error failure, reads, herror _ _ hfirst, fun calls => ?_⟩
    rw [ExceptT.run_bind, Program.run_bind, hrun]
    rfl
  | ok a =>
    obtain ⟨result, rest, hpost, hrest⟩ := hok a reads hfirst
    refine ⟨result, reads ++ rest, hpost, fun calls => ?_⟩
    rw [ExceptT.run_bind, Program.run_bind, hrun, ← List.append_assoc]
    exact hrest _

theorem ends_within {wrap : Failure → Failure} {post : Except Failure α → List Call → Prop}
    (h : x.Ends s post) : (x.within wrap).Ends s fun outcome reads =>
      ∃ result, post result reads ∧ outcome = result.mapError wrap := by
  obtain ⟨result, reads, hpost, hrun⟩ := h
  refine ⟨result.mapError wrap, reads, ⟨result, hpost, rfl⟩, fun calls => ?_⟩
  unfold within
  rw [ExceptT.run_mk, Program.run_bind, hrun]
  rfl

theorem ends_get {role : Role} {operation : Operation} {k : Kind} {name ns key : String} :
    (request role operation name (Program.get k ns key)).Ends s fun answer reads =>
      reads = [(Request.get k ns key).call] ∧
        (s.Refuses (.get k ns key) ∧ answer = .error
            (.store role operation name (.request s!"injected Get failure for {k.name}")) ∨
          ¬ s.Refuses (.get k ns key) ∧ answer = .ok (s.objects.get? k ⟨ns, key⟩)) := by
  have hrun : ∀ calls, (request role operation name (Program.get k ns key)).run.run
      { s with calls } =
        ((Store.serve { s with calls } (.get k ns key)).1.mapError (.store role operation name),
          (Store.serve { s with calls } (.get k ns key)).2) := fun _ => rfl
  by_cases h : s.Refuses (.get k ns key)
  · refine ⟨_, _, ⟨rfl, .inl ⟨h, rfl⟩⟩, fun calls => ?_⟩
    have hrefused : Store.Refuses { s with calls } (.get k ns key) := h
    rw [hrun, Store.serve_refused hrefused]
    rfl
  · refine ⟨_, _, ⟨rfl, .inr ⟨h, rfl⟩⟩, fun calls => ?_⟩
    have hgranted : ¬ Store.Refuses { s with calls } (.get k ns key) := h
    rw [hrun, Store.serve_get_granted hgranted]
    rfl

end Attempt

/-! ## Working out a field -/

theorem SecretRef.read_ends (ref : SecretRef) (ns : String) (s : Store) :
    (ref.read ns).Ends s fun result reads =>
      ref.Reads ns s result ∧ reads = [(Request.get .secret ns ref.name).call] := by
  refine Attempt.ends_bind Attempt.ends_get ?_ ?_
  · rintro failure reads ⟨rfl, ⟨hrefused, hanswer⟩ | ⟨-, hanswer⟩⟩
    · cases hanswer
      exact ⟨.refused hrefused, rfl⟩
    · cases hanswer
  · rintro found reads ⟨rfl, ⟨-, hanswer⟩ | ⟨hgranted, hanswer⟩⟩
    · cases hanswer
    · cases hstored : s.objects.get? .secret ⟨ns, ref.name⟩ with
      | none =>
        rw [hstored] at hanswer
        cases hanswer
        exact Attempt.ends_throw ⟨.absent hgranted hstored, rfl⟩
      | some secret =>
        rw [hstored] at hanswer
        cases hanswer
        exact Attempt.ends_ofExcept ⟨.found hgranted hstored (SecretRef.finds_iff.mpr rfl), rfl⟩

def App.WorksOut (app : App) (s : Store) (field : ConnectionField) (x : Attempt field.Value) :
    Prop :=
  x.Ends s fun result reads => app.Resolves s field result ∧ reads = app.readsFor field

section Fields

variable (field : ConnectionField)

theorem App.readsFor_unset {field : ConnectionField} (h : app.Unset field) :
    app.readsFor field = [] := by
  unfold readsFor
  rw [App.unset_iff.mp h]
  rfl

theorem App.readsFor_sets {field : ConnectionField} {ref : SecretRef} (h : app.Sets field ref) :
    app.readsFor field = [(Request.get .secret app.space ref.name).call] := by
  unfold readsFor
  rw [App.sets_iff.mp h]
  rfl

theorem resolveValue_worksOut {literal : field.Value}
    (h : app.content.spec.database.literal? field = some literal) :
    app.WorksOut s field
      (resolveValue field.form app.space literal (app.content.spec.database.ref? field)) := by
  unfold resolveValue
  cases hset : setRef? (app.content.spec.database.ref? field) with
  | none =>
    have hunset := App.unset_iff.mpr hset
    exact Attempt.ends_pure ⟨.literal hunset h, (App.readsFor_unset hunset).symm⟩
  | some ref =>
    have hsets := App.sets_iff.mpr hset
    refine Attempt.ends_bind (ref.read_ends app.space s) ?_ ?_
    · rintro cause reads ⟨hreads, rfl⟩
      exact ⟨.referenced hsets hreads .unread, (App.readsFor_sets hsets).symm⟩
    · rintro raw reads ⟨hreads, rfl⟩
      cases hparse : field.form.parse raw with
      | none =>
        have hnone : ∀ value, ¬ field.Means raw value := by
          intro value hmeans
          cases hparse.symm.trans (ConnectionField.means_iff.mp hmeans)
        exact Attempt.ends_throw
          ⟨.referenced hsets hreads (.invalid hnone), (App.readsFor_sets hsets).symm⟩
      | some value =>
        exact Attempt.ends_pure
          ⟨.referenced hsets hreads (.valid (ConnectionField.means_iff.mpr hparse)),
            (App.readsFor_sets hsets).symm⟩

theorem resolvePassword_worksOut : app.WorksOut s .password
    (Connection.resolvePassword app.space app.content.spec.database) := by
  unfold Connection.resolvePassword
  cases hset : setRef? app.content.spec.database.passwordRef with
  | none =>
    have hunset : app.Unset .password := App.unset_iff.mpr hset
    have hreads := (App.readsFor_unset hunset).symm
    cases hgiven : givenText? app.content.spec.database.password with
    | none => exact Attempt.ends_throw ⟨.missing hunset hgiven, hreads⟩
    | some text => exact Attempt.ends_pure ⟨.literal hunset hgiven, hreads⟩
  | some ref =>
    have hsets : app.Sets .password ref := App.sets_iff.mpr hset
    refine (ref.read_ends app.space s).mono ?_
    rintro result reads ⟨hreads, rfl⟩
    refine ⟨.referenced hsets hreads ?_, (App.readsFor_sets hsets).symm⟩
    cases result with
    | error cause => exact .unread
    | ok raw => exact .valid rfl

end Fields

/-! ## Field by field -/

namespace Connection

def Known (app : App) (s : Store) (fields : List ConnectionField) : Prop :=
  ∀ field ∈ fields, ∃ value, app.Resolves s field (.ok value)

def Remaining (app : App) (s : Store) (done : List ConnectionField)
    (result : Except Failure Connection) (reads : List Call) : Prop :=
  Outcome app s result (done.flatMap app.readsFor ++ reads)

theorem field_ends (field : ConnectionField) {x : Attempt field.Value}
    {f : field.Value → Attempt Connection} (hx : app.WorksOut s field x)
    (hknown : Known app s field.before)
    (hf : ∀ value, app.Resolves s field (.ok value) → Known app s (field.before ++ [field]) →
      (f value).Ends s (Remaining app s (field.before ++ [field]))) :
    (x.within (.connection field) >>= f).Ends s (Remaining app s field.before) := by
  have hdone : ∀ rest, field.before.flatMap app.readsFor ++ (app.readsFor field ++ rest) =
      (field.before ++ [field]).flatMap app.readsFor ++ rest := by
    intro rest
    simp only [List.flatMap_append, List.flatMap_cons, List.flatMap_nil, List.append_nil,
      List.append_assoc]
  refine Attempt.ends_bind (Attempt.ends_within hx) ?_ ?_
  · rintro failure reads ⟨result, ⟨hresolves, rfl⟩, hresult⟩
    cases result with
    | ok value => cases hresult
    | error cause =>
      cases hresult
      have hreads := hdone []
      rw [List.append_nil, List.append_nil] at hreads
      unfold Remaining
      rw [hreads]
      exact .failed hresolves hknown
  · rintro value reads ⟨result, ⟨hresolves, rfl⟩, hresult⟩
    cases result with
    | error cause => cases hresult
    | ok value =>
      cases hresult
      refine (hf value hresolves fun other hother => ?_).mono fun result rest h => ?_
      · rcases List.mem_append.mp hother with hother | hother
        · exact hknown other hother
        · rw [List.mem_singleton.mp hother]
          exact ⟨value, hresolves⟩
      · unfold Remaining at h ⊢
        rw [hdone]
        exact h

theorem resolve_ends (app : App) (s : Store) : (resolve app).Ends s (Outcome app s) := by
  have hstart : Known app s ConnectionField.host.before := fun _ hother => by cases hother
  unfold resolve
  refine field_ends .host (resolveValue_worksOut .host rfl) hstart fun host hhost hknown => ?_
  refine field_ends .port (resolveValue_worksOut .port rfl) hknown fun port hport hknown => ?_
  refine field_ends .user (resolveValue_worksOut .user rfl) hknown fun user huser hknown => ?_
  refine field_ends .password resolvePassword_worksOut hknown fun password hpassword hknown => ?_
  refine field_ends .name (resolveValue_worksOut .name rfl) hknown fun name hname hknown => ?_
  refine field_ends .ssl (resolveValue_worksOut .ssl rfl) hknown fun ssl hssl hknown => ?_
  refine field_ends .maxConn (resolveValue_worksOut .maxConn rfl) hknown
    fun maxConn hmaxConn _ => ?_
  refine Attempt.ends_pure ?_
  unfold Remaining
  rw [List.append_nil]
  refine .resolved fun field => ?_
  cases field with
  | host => exact hhost
  | port => exact hport
  | user => exact huser
  | password => exact hpassword
  | name => exact hname
  | ssl => exact hssl
  | maxConn => exact hmaxConn

/-! ## The connection -/

theorem exists_resolves (app : App) (s : Store) (field : ConnectionField) :
    ∃ result, app.Resolves s field result := by
  have hworks : ∃ x, app.WorksOut s field x := by
    by_cases hfield : field = .password
    · subst hfield
      exact ⟨_, resolvePassword_worksOut⟩
    · have hliteral : (app.content.spec.database.literal? field).isSome := by
        cases field <;> first | rfl | exact absurd rfl hfield
      exact ⟨_, resolveValue_worksOut field (Option.some_get hliteral).symm⟩
  obtain ⟨x, result, reads, ⟨hresolves, -⟩, -⟩ := hworks
  exact ⟨result, hresolves⟩

variable {result result' : Except Failure Connection} {reads reads' : List Call}

theorem ext_value {a b : Connection} (h : ∀ field, a.value field = b.value field) : a = b := by
  obtain ⟨host, port, user, password, name, ssl, maxConn⟩ := a
  obtain rfl : host = b.host := h .host
  obtain rfl : port = b.port := h .port
  obtain rfl : user = b.user := h .user
  obtain rfl : password = b.password := h .password
  obtain rfl : name = b.name := h .name
  obtain rfl : ssl = b.ssl := h .ssl
  obtain rfl : maxConn = b.maxConn := h .maxConn
  rfl

theorem Outcome.unique (h : Outcome app s result reads) (h' : Outcome app s result' reads') :
    result = result' ∧ reads = reads' := by
  have hclash : ∀ {field cause}, app.Resolves s field (.error cause) →
      ¬ ∃ value, app.Resolves s field (.ok value) := by
    rintro field cause herror ⟨value, hvalue⟩
    cases herror.unique hvalue
  cases h with
  | resolved hvalues =>
    cases h' with
    | resolved hvalues' =>
      have hsame := ext_value fun field => Except.ok.inj ((hvalues field).unique (hvalues' field))
      exact ⟨congrArg Except.ok hsame, rfl⟩
    | failed hfails => exact absurd ⟨_, hvalues _⟩ (hclash hfails)
  | @failed field cause hfails hknown =>
    cases h' with
    | resolved hvalues => exact absurd ⟨_, hvalues _⟩ (hclash hfails)
    | @failed field' cause' hfails' hknown' =>
      rcases field.before_trichotomy field' with rfl | hbefore | hbefore
      · cases hfails.unique hfails'
        exact ⟨rfl, rfl⟩
      · exact absurd (hknown' _ hbefore) (hclash hfails)
      · exact absurd (hknown _ hbefore) (hclash hfails')

theorem Outcome.reads_set (h : Outcome app s result reads) : ∀ call ∈ reads,
    ∃ field ref, app.Sets field ref ∧ call = (Request.get .secret app.space ref.name).call := by
  have hset : ∀ {fields : List ConnectionField}, ∀ call ∈ fields.flatMap app.readsFor,
      ∃ field ref, app.Sets field ref ∧
        call = (Request.get .secret app.space ref.name).call := by
    intro fields call hcall
    obtain ⟨field, -, hcall⟩ := List.mem_flatMap.mp hcall
    obtain ⟨ref, href, rfl⟩ := List.mem_map.mp hcall
    exact ⟨field, ref, App.sets_iff.mpr (Option.mem_toList.mp href), rfl⟩
  cases h with
  | resolved => exact hset
  | failed => exact hset

/-- The connection is what its fields are, each of which has one outcome, or it fails at the first
field that does. Nothing more is read, and nothing is written. -/
theorem resolve_exact (app : App) (s : Store) :
    (∀ field, ∃ result, ∀ other, app.Resolves s field other ↔ other = result) ∧
      ∃ result reads,
        (resolve app).run.run s = (result, { s with calls := s.calls ++ reads }) ∧
        (∀ db, result = .ok db ↔ ∀ field, app.Resolves s field (.ok (db.value field))) ∧
        (∀ failure, result = .error failure ↔ ∃ field cause,
          failure = .connection field cause ∧ app.Resolves s field (.error cause) ∧
            ∀ earlier ∈ field.before, ∃ value, app.Resolves s earlier (.ok value)) ∧
        (∀ db, result = .ok db → reads = ConnectionField.order.flatMap app.readsFor) ∧
        (∀ field cause, result = .error (.connection field cause) →
          reads = (field.before ++ [field]).flatMap app.readsFor) ∧
        ∀ call ∈ reads, ∃ field ref,
          app.Sets field ref ∧ call = (Request.get .secret app.space ref.name).call := by
  refine ⟨fun field => ?_, ?_⟩
  · obtain ⟨result, hresult⟩ := exists_resolves app s field
    refine ⟨result, fun other => ⟨fun hother => hother.unique hresult, ?_⟩⟩
    rintro rfl
    exact hresult
  obtain ⟨result, reads, houtcome, hrun⟩ := resolve_ends app s
  refine ⟨result, reads, hrun s.calls, fun db => ⟨?_, fun h => ?_⟩, fun failure => ⟨?_, ?_⟩, ?_, ?_,
    houtcome.reads_set⟩
  · rintro rfl
    cases houtcome with
    | resolved h => exact h
  · exact (houtcome.unique (.resolved h)).1
  · rintro rfl
    cases houtcome with
    | failed h hknown => exact ⟨_, _, rfl, h, hknown⟩
  · rintro ⟨field, cause, rfl, h, hknown⟩
    exact (houtcome.unique (.failed h hknown)).1
  · rintro db rfl
    cases houtcome with
    | resolved => rfl
  · rintro field cause rfl
    cases houtcome with
    | failed => rfl

end Connection

end OdooKeeper
