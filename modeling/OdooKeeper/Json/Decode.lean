import OdooKeeper.Bytes.Base64
import OdooKeeper.Json.Scanner
import OdooKeeper.OrdMap

/-! # Decoding JSON values

Readers for plain values and for records, which read from a value as well as from text. A record is
read from an object, or from an array that lists its fields in order. -/

namespace OdooKeeper.Json

/-- A way to read a value, and how such a value is read from a text. -/
structure Reader (α : Type) where
  scan : Scanner
  read : Json → Except DecodeError α

instance {α : Type} : CoeFun (Reader α) fun _ => Json → Except DecodeError α where
  coe := Reader.read

namespace Reader

variable {α β : Type}

/-- Reads values that are no arrays and no objects. -/
def scalar (read : Json → Except DecodeError α) : Reader α where
  scan := Scanner.scalar read
  read := read

def map (f : α → β) (r : Reader α) : Reader β where
  scan := r.scan
  read v := (r.read v).map f

def parse (r : Reader α) (text : String) : Except ParseError α := do
  match r (← atEnd (← r.scan depthLimit text.toList)) with
  | .ok a => .ok a
  | .error e => misfit e []

end Reader

/-! ## Plain values -/

def readAny : Reader Json where
  scan := value
  read := .ok

def readText : Reader String :=
  .scalar fun
    | .string s => .ok s
    | v => .error (.invalidType v "a string")

def readBool : Reader Bool :=
  .scalar fun
    | .bool b => .ok b
    | v => .error (.invalidType v "a boolean")

def readInteger (name : String) (low high : Int) : Reader Int :=
  .scalar fun
    | .integer n => if low ≤ n ∧ n ≤ high then .ok n else .error (.invalidValue (.integer n) name)
    | v => .error (.invalidType v name)

def readInt32 : Reader Int32 :=
  (readInteger "i32" Int32.minValue.toInt Int32.maxValue.toInt).map Int32.ofInt

def readInt64 : Reader Int64 :=
  (readInteger "i64" Int64.minValue.toInt Int64.maxValue.toInt).map Int64.ofInt

/-- Bytes in base64; null stands for none. -/
def readBytes : Reader Bytes :=
  .scalar fun
    | .null => .ok []
    | .string s => (Bytes.Base64.decode s).mapError fun fault => .malformed fault.message
    | v => .error (.invalidType v "a base64-encoded string")

def readList {α : Type} (item : Reader α) : Reader (List α) :=
  let read : Json → Except DecodeError (List α)
    | .array items => items.mapM item.read
    | v => .error (.invalidType v "a sequence")
  { scan := .list item.scan read, read }

def readDict {α : Type} (value : Reader α) : Reader (Dict α) :=
  let read : Json → Except DecodeError (Dict α)
    | .object members =>
      (members.mapM fun m => (value m.2).map fun a => (m.1, a)).map OrdMap.ofList
    | v => .error (.invalidType v "a map")
  { scan := .dict value.scan read, read }

def nullable {α : Type} (r : Reader α) : Reader (Option α) where
  scan := .nullable r.scan
  read
    | .null => .ok none
    | v => (r v).map some

def nullOr {α : Type} (zero : α) (r : Reader α) : Reader α where
  scan := .nullable r.scan
  read
    | .null => .ok zero
    | v => r v

/-- One text and no other. That a text is another one is left to the record it belongs to. -/
def readExactly (expected : String) : Reader Unit where
  scan := readText.scan
  read
    | .string s => if s = expected then .ok () else .error (.invalidValue (.string s) expected)
    | v => .error (.invalidType v "a string")

def readVariant (names : List String) : Reader String :=
  let name : Json → Except DecodeError String
    | .string s => if s ∈ names then .ok s else .error (.unknownVariant s names)
    | v => .error (.invalidType v "variant identifier")
  let content : Json → Except DecodeError Unit
    | .null => .ok ()
    | v => .error (.invalidType v "unit")
  { scan := .variant name content
    read
      | .object [(key, v)] => do
        let found ← name (.string key)
        content v
        .ok found
      | .object members => .error (.invalidValue (.object members) "map with a single key")
      | .string s => name (.string s)
      | v => .error (.invalidType v "string or map") }

/-! ## Records -/

inductive FieldFault where
  | bad (key : String) (cause : DecodeError)
  | absent (key : String)

/-- Which of two faults is reported, `a` being of the field declared first. Members are visited in
the order of their keys, and what is absent is found out last. -/
def FieldFault.first (a b : FieldFault) : FieldFault :=
  match a, b with
  | .bad k _, .bad k' _ => if k' < k then b else a
  | .absent _, .bad _ _ => b
  | _, _ => a

/-- The error of a record in which a field runs into a fault. -/
def FieldFault.error : FieldFault → DecodeError
  | .bad _ cause => cause
  | .absent key => .missingField key

/-- The fields of a record: how each of them is read from a text, how to read them from the members
of an object, and how to read them in order from the items of an array, which leaves some items
over. -/
structure Shape (α : Type) where
  fields : List Scanner.Field
  fromMembers : List (String × Json) → Except FieldFault α
  fromItems : List Json → Except FieldFault (α × List Json)

namespace Shape

variable {α β : Type}

/-- One field. `absent` is its value when an object does not have it, and `cut` its value when an
array ends before it; without such a value it is required there. -/
def field (key : String) (read : Reader α) (absent cut : Option α) : Shape α where
  fields := [⟨key, read.scan, fun v => (read v).map fun _ => ()⟩]
  fromMembers members :=
    match members.lookup key with
    | some v => (read v).mapError (.bad key)
    | none =>
      match absent with
      | some a => .ok a
      | none => .error (.absent key)
  fromItems
    | v :: rest =>
      match read v with
      | .ok a => .ok (a, rest)
      | .error cause => .error (.bad key cause)
    | [] =>
      match cut with
      | some a => .ok (a, [])
      | none => .error (.absent key)

def map (f : α → β) (s : Shape α) : Shape β where
  fields := s.fields
  fromMembers members := (s.fromMembers members).map f
  fromItems items := (s.fromItems items).map fun (a, rest) => (f a, rest)

/-- Reads the fields of two records, the first one's declared first. -/
def seq (f : Shape (α → β)) (s : Shape α) : Shape β where
  fields := f.fields ++ s.fields
  fromMembers members :=
    match f.fromMembers members, s.fromMembers members with
    | .ok g, .ok a => .ok (g a)
    | .error e, .ok _ => .error e
    | .ok _, .error e => .error e
    | .error e, .error e' => .error (e.first e')
  fromItems items := do
    let (g, rest) ← f.fromItems items
    let (a, rest) ← s.fromItems rest
    .ok (g a, rest)

instance : Functor Shape where
  map := map

instance : Seq Shape where
  seq f s := seq f (s ())

def required (key : String) (read : Reader α) : Shape α := field key read none none

/-- A field with a value for when it is absent. -/
def withDefault (key : String) (read : Reader α) (default : α) : Shape α :=
  field key read (some default) (some default)

def optional (key : String) (read : Reader α) : Shape (Option α) :=
  field key (nullable read) (some none) (some none)

/-- A field that may be null, and absent from an object but not from an array. -/
def optionalMember (key : String) (read : Reader α) : Shape (Option α) :=
  field key (nullable read) (some none) none

/-- A field that has a given value when it is absent or null. -/
def orZero (key : String) (read : Reader α) (zero : α) : Shape α :=
  field key (nullOr zero read) (some zero) (some zero)

def decodeMembers (s : Shape α) (members : List (String × Json)) : Except DecodeError α :=
  (s.fromMembers members).mapError FieldFault.error

/-- A record given as an object, in which no field may be given twice, or as an array. -/
def decode (s : Shape α) (name : String) : Reader α :=
  let read : Json → Except DecodeError α
    | .object members => s.decodeMembers members
    | .array items =>
      match s.fromItems items with
      | .ok (a, []) => .ok a
      | .ok (_, _ :: _) => .error (.tooManyItems items.length)
      | .error (.bad _ cause) => .error cause
      | .error (.absent _) => .error (.tooFewItems items.length name s.fields.length)
    | v => .error (.invalidType v s!"struct {name}")
  { scan := .record ⟨s.fields, true, .skipped, read⟩ (.inOrder s.fields read), read }

/-- A record that is given as an object only. Of a field given twice the last value counts. -/
def decodeObject (s : Shape α) (name : String) : Reader α :=
  let read : Json → Except DecodeError α
    | .object members => s.decodeMembers members
    | v => .error (.invalidType v name)
  { scan := .record ⟨s.fields, false, .skipped, read⟩ (.entered read), read }

/-- A record that is given as an object only, in which no field may be given twice. Members that are
no fields can be any values. -/
def decodeOpen (s : Shape α) (name : String) : Reader α :=
  let read : Json → Except DecodeError α
    | .object members => s.decodeMembers members
    | v => .error (.invalidType v s!"struct {name}")
  { scan := .record ⟨s.fields, true, value, read⟩ (.scalar read), read }

end Shape

/-! ## Writing -/

def ofInt32 (n : Int32) : Json := .integer n.toInt

def ofInt64 (n : Int64) : Json := .integer n.toInt

def ofBytes (bytes : Bytes) : Json := .string (Bytes.Base64.encode bytes)

def ofDict {α : Type} (write : α → Json) (m : Dict α) : Json :=
  .object (m.entries.map fun (k, v) => (k, write v))

def ofList {α : Type} (write : α → Json) (items : List α) : Json := .array (items.map write)

end OdooKeeper.Json
