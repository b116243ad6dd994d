import OdooKeeper.Api.Status
import OdooKeeper.Api.Uri
import OdooKeeper.Store.Program

/-! # A store behind an API server

Each request to a store is one exchange over HTTP: how it is sent, and what a reply to it means. -/

namespace OdooKeeper.Api

open Json Json.Shape

/-! ## Sending -/

structure HttpRequest where
  method : String
  uri : String
  contentType : Option String := none
  body : Option Json := none

inductive BuildFault where
  | noName
  | tooLong
  | badCharacter
deriving DecidableEq, Repr

def BuildFault.message : BuildFault → String
  | .noName =>
    "Failed to build request: failed to validate request: A non-empty name is required"
  | .tooLong => "Failed to build request: failed to build request: uri too long"
  | .badCharacter => "Failed to build request: failed to build request: invalid uri character"

/-- The path of the objects of a kind in a namespace. -/
def basePath (k : Kind) (ns : String) : String :=
  let group := if k.group = "" then "/api/" else "/apis/" ++ k.group ++ "/"
  group ++ k.version ++ "/namespaces/" ++ ns ++ "/" ++ Text.lowerAscii k.name ++
    "s"

/-- A request to a path, with a body that is JSON. -/
def build (method uri : String) (body : Option Json) : Except BuildFault HttpRequest :=
  if Uri.lengthLimit < uri.utf8ByteSize then .error .tooLong
  else
    match Uri.ofText? uri with
    | none => .error .badCharacter
    | some uri => .ok { method, uri, contentType := body.map fun _ => "application/json", body }

/-- The path of an object, which must have a name. -/
def objectPath (k : Kind) (ns name : String) : Except BuildFault String :=
  if name = "" then .error .noName else .ok (basePath k ns ++ "/" ++ name)

def send : Request → Except BuildFault HttpRequest
  | .get k ns name => do build "GET" (← objectPath k ns name) none
  | .create k ns o => build "POST" (basePath k ns ++ "?") (some o.toJson)
  | .replace k ns o => do
    build "PUT" ((← objectPath k ns o.metadata.anyName) ++ "?") (some o.toJson)
  | .delete k ns name => do
    let options : Json := .object [("propagationPolicy", .string "Background")]
    build "DELETE" ((← objectPath k ns name) ++ "?") (some options)
  | .list k ns selector =>
    build "GET" (basePath k ns ++ "?&labelSelector=" ++ Uri.escape selector) none
  | .replaceStatus app => do
    let path ← objectPath .app app.metadata.space app.metadata.anyName
    build "PUT" (path ++ "/status?") (some app.toJson)

/-! ## Refusals -/

def readNat (name : String) (bound : Nat) : Reader Nat :=
  (readInteger name 0 (bound - 1)).map Int.toNat

def readCode : Reader Nat := readNat "u16" UInt16.size

/-- What an API server says when it refuses a request. -/
structure Refusal where
  status : String
  message : String := ""
  reason : String := ""
  code : Nat
deriving DecidableEq, Repr

namespace Refusal

def ofJson : Reader Refusal :=
  (mk <$> required "status" readText <*> withDefault "message" readText "" <*>
    withDefault "reason" readText "" <*> required "code" readCode).decode "ErrorResponse"

/-- The refusal in the body of a reply with an error status. A body that is none is quoted. -/
def ofBody (status : Nat) (body : String) : Refusal :=
  let unreadable : Refusal :=
    { status := statusText status
      message := Text.quoted body
      reason := "Failed to parse error data"
      code := status }
  match ofJson.parse body with
  | .ok refusal => refusal
  | .error _ => unreadable

def text (r : Refusal) : String :=
  "ApiError: " ++ r.message ++ ": " ++ r.reason ++ " (ErrorResponse \x7b status: " ++
    Text.quoted r.status ++ ", message: " ++ Text.quoted r.message ++ ", reason: " ++
    Text.quoted r.reason ++ ", code: " ++ toString r.code ++ " \x7d)"

/-- The refusal as a store error. Only its message remains of a conflict. -/
def storeError (r : Refusal) : StoreError :=
  if r.code = 409 then .conflict r.message else .request r.text

end Refusal

/-! ## Receiving -/

inductive Reply where
  | transportError (text : String)
  | response (status : Nat) (body : String)

inductive ReplyFault where
  | transport (text : String)
  | refused (refusal : Refusal)
  | undecodable (reason : String)

/-- The store error that a reply without an answer becomes. -/
def ReplyFault.storeError : ReplyFault → StoreError
  | .transport text => .request ("ServiceError: " ++ text)
  | .refused refusal => refusal.storeError
  | .undecodable reason => .request ("Error deserializing response: " ++ reason)

def Reply.accepted : Reply → Except ReplyFault String
  | .transportError text => .error (.transport text)
  | .response status body =>
    if isErrorStatus status then .error (.refused (.ofBody status body)) else .ok body

def readBody {α : Type} (r : Reader α) (body : String) : Except ReplyFault α :=
  (r.parse body).mapError fun e => .undecodable (e.message body)

/-- What a reader finds in the body of a reply. -/
def Reply.decode {α : Type} (r : Reader α) (reply : Reply) : Except ReplyFault α := do
  readBody r (← reply.accepted)

/-- What a list says of itself; none of it is needed. -/
def readListMetadata : Reader Unit :=
  ((fun _ _ _ _ => ()) <$> optional "continue" readText <*>
    optional "remainingItemCount" readInt64 <*> optional "resourceVersion" readText <*>
    optional "selfLink" readText).decodeObject "ListMeta"

/-- A list of objects; null stands for an empty one. The type of the list is among its other
members. -/
def readItems (k : Kind) : Reader (List (Object k)) :=
  ((fun items _ => items) <$> required "items" (nullOr [] (readList (Object.ofJson k))) <*>
    withDefault "metadata" readListMetadata ()).decodeOpen "ObjectList"

/-! ### Reports -/

/-- One of the causes in a report; none of it is needed. -/
def readCause : Reader Unit :=
  ((fun _ _ _ => ()) <$> withDefault "reason" readText "" <*> withDefault "message" readText "" <*>
    withDefault "field" readText "").decode "StatusCause"

/-- The details in a report; none of them are needed. -/
def readDetails : Reader Unit :=
  ((fun _ _ _ _ _ _ => ()) <$> withDefault "name" readText "" <*>
    withDefault "group" readText "" <*> withDefault "kind" readText "" <*>
    withDefault "uid" readText "" <*> withDefault "causes" (readList readCause) [] <*>
    withDefault "retryAfterSeconds" (readNat "u32" UInt32.size) 0).decode "StatusDetails"

/-- A report on a request; none of it is needed. -/
def readReport : Reader Unit :=
  ((fun _ _ _ _ _ => ()) <$> optional "status" (readVariant ["Success", "Failure"]) <*>
    withDefault "code" readCode 0 <*> withDefault "message" readText "" <*>
    withDefault "reason" readText "" <*> optional "details" readDetails).decode "Status"

/-- The reply to a deletion is a report, if it states that kind, or the deleted object. -/
def Reply.decodeDeletion (k : Kind) (reply : Reply) : Except ReplyFault Unit := do
  let body ← reply.accepted
  let stated := ((← readBody readAny body).get? "kind").bind Json.text?
  if stated = some "Status" then readBody readReport body
  else (readBody (Object.ofJson k) body).map fun _ => ()

/-! ### Answers -/

/-- The answer that a reply to a request means. What is not found is absent, and to delete it is no
failure. -/
def receive : (r : Request) → Reply → r.Answer
  | .get k _ _, reply =>
    match reply.decode (Object.ofJson k) with
    | .ok o => .ok (some o)
    | .error (.refused refusal) =>
      if refusal.reason = "NotFound" then .ok none else .error refusal.storeError
    | .error fault => .error fault.storeError
  | .create k _ _, reply => (reply.decode (Object.ofJson k)).mapError ReplyFault.storeError
  | .replace k _ _, reply => (reply.decode (Object.ofJson k)).mapError ReplyFault.storeError
  | .delete k _ _, reply =>
    match reply.decodeDeletion k with
    | .ok () => .ok ()
    | .error (.refused refusal) => if refusal.code = 404 then .ok () else .error refusal.storeError
    | .error fault => .error fault.storeError
  | .list k _ _, reply => (reply.decode (readItems k)).mapError ReplyFault.storeError
  | .replaceStatus _, reply =>
    (reply.decode (Object.ofJson .app)).mapError ReplyFault.storeError

/-- One exchange: what is sent, if anything, and the answer. -/
def exchange (r : Request) (reply : Reply) : Option HttpRequest × r.Answer :=
  match send r with
  | .error fault => (none, .error (.request fault.message))
  | .ok request => (some request, receive r reply)

end OdooKeeper.Api
