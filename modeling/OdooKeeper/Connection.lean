import OdooKeeper.App.Names
import OdooKeeper.Attempt
import OdooKeeper.Decimal.Integer
import OdooKeeper.Text.Blank

/-! # The database connection

Every value of the connection is given outright or read from a secret. A reference that is set never
falls back to the value given outright. -/

namespace OdooKeeper

/-! ## Values of secrets -/

/-- How the text of a secret becomes a value. -/
structure ValueForm (α : Type) where
  expected : String
  parse : String → Option α

namespace ValueForm

def text : ValueForm String := ⟨"string", some⟩

def int32 : ValueForm Int32 := ⟨"32-bit integer", fun raw => Decimal.int32? (Text.trim raw)⟩

def trueWords : List String := ["1", "t", "T", "TRUE", "true", "True"]

def falseWords : List String := ["0", "f", "F", "FALSE", "false", "False"]

def bool : ValueForm Bool where
  expected := "boolean"
  parse raw :=
    let word := Text.trim raw
    if word ∈ trueWords then some true else if word ∈ falseWords then some false else none

end ValueForm

namespace SecretRef

/-- The text that a secret has under the key of a reference. -/
def textIn (ref : SecretRef) (secret : Secret) : Except Failure String :=
  match secret.content.value? ref.key with
  | none => .error (.keyNotFound ref.name ref.key)
  | some bytes =>
    match Bytes.text? bytes with
    | none => .error (.invalidValue ref.name ref.key "UTF-8 string")
    | some text => .ok text

def read (ref : SecretRef) (ns : String) : Attempt String := do
  let found ← Attempt.request .referencedSecret .get ref.name (Program.get .secret ns ref.name)
  match found with
  | none => throw (.secretNotFound ref.name)
  | some secret => Attempt.ofExcept (ref.textIn secret)

end SecretRef

def setRef? (ref : Option SecretRef) : Option SecretRef := ref.filter SecretRef.isSet

/-- The reference for a field of the connection. -/
def DatabaseSettings.ref? (db : DatabaseSettings) : ConnectionField → Option SecretRef
  | .host => db.hostRef
  | .port => db.portRef
  | .user => db.userRef
  | .password => db.passwordRef
  | .name => db.nameRef
  | .ssl => db.sslRef
  | .maxConn => db.maxConnRef

theorem App.setRef?_mem {app : App} {field : ConnectionField} {set : SecretRef}
    (h : setRef? (app.content.spec.database.ref? field) = some set) : set ∈ app.secretRefs := by
  obtain ⟨hset, hcounts⟩ := Option.filter_eq_some_iff.mp h
  refine List.mem_filter.mpr ⟨List.mem_filterMap.mpr ⟨_, ?_, hset⟩, hcounts⟩
  cases field <;> simp

/-- The value given outright, or the one that a set reference points at. -/
def resolveValue {α : Type} (form : ValueForm α) (ns : String) (literal : α)
    (ref : Option SecretRef) : Attempt α :=
  match setRef? ref with
  | none => pure literal
  | some ref => do
    let raw ← ref.read ns
    match form.parse raw with
    | some value => pure value
    | none => throw (.invalidValue ref.name ref.key form.expected)

/-! ## The connection -/

structure Connection where
  host : String
  port : Int32
  user : String
  password : String
  name : String
  ssl : Bool
  maxConn : Int32
deriving DecidableEq

namespace Connection

/-- The connection on one line for people to read, without the password. -/
def describe (c : Connection) : String :=
  "ConnectionDescriptor \x7b host: " ++ Text.quoted c.host ++ ", port: " ++ toString c.port.toInt ++
    ", user: " ++ Text.quoted c.user ++ ", password: " ++ Text.quoted "<redacted>" ++
    ", name: " ++ Text.quoted c.name ++ ", ssl: " ++ toString c.ssl ++
    ", max_conn: " ++ toString c.maxConn.toInt ++ " \x7d"

/-- The password. It is read from its reference or else given outright, and may not be empty
then. -/
def resolvePassword (ns : String) (db : DatabaseSettings) : Attempt String :=
  match setRef? db.passwordRef, givenText? db.password with
  | some ref, _ => ref.read ns
  | none, some literal => pure literal
  | none, none => throw .credentialMissing

/-- Resolves all values in a fixed order; the first failure ends it. -/
def resolve (app : App) : Attempt Connection := do
  let ns := app.space
  let db := app.content.spec.database
  let host ← (resolveValue .text ns db.host db.hostRef).within (.connection .host)
  let port ← (resolveValue .int32 ns db.port db.portRef).within (.connection .port)
  let user ← (resolveValue .text ns db.user db.userRef).within (.connection .user)
  let password ← (resolvePassword ns db).within (.connection .password)
  let name ← (resolveValue .text ns db.name db.nameRef).within (.connection .name)
  let ssl ← (resolveValue .bool ns db.ssl db.sslRef).within (.connection .ssl)
  let maxConn ← (resolveValue .int32 ns db.maxConn db.maxConnRef).within (.connection .maxConn)
  pure { host, port, user, password, name, ssl, maxConn }

end Connection

/-! ## The admin password -/

/-- The admin password in the credentials secret. Only `data` counts. -/
def adminPassword (secret : Secret) : Except Failure String :=
  let missing : Failure := .adminPasswordMissing secret.name adminPasswordKey
  match secret.content.data.bind fun d => d.get? adminPasswordKey with
  | none => .error missing
  | some bytes =>
    match Bytes.text? bytes with
    | none => .error missing
    | some text => .ok text

theorem adminPassword_error {secret : Secret} {failure : Failure}
    (h : adminPassword secret = .error failure) :
    failure = .adminPasswordMissing secret.name adminPasswordKey := by
  unfold adminPassword at h
  split at h
  · exact (Except.error.inj h).symm
  · split at h
    · exact (Except.error.inj h).symm
    · cases h

end OdooKeeper
