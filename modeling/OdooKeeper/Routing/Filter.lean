import OdooKeeper.Bytes.Sha256
import OdooKeeper.Routing

/-! # Filtering changes

Watching tells that a secret was applied, not whether its payload changed. The filter remembers a
digest of the payload, and only for secrets that concern an app, so that a repeat can be dropped. -/

namespace OdooKeeper

/-! ## Digests -/

/-- One entry of a payload: a tag, and key and value each behind its length. -/
def entryBytes (tag : UInt8) (key : String) (value : Bytes) : Bytes :=
  let key := Bytes.ofText key
  tag :: Bytes.ofNatLittle 8 key.length ++ key ++ Bytes.ofNatLittle 8 value.length ++ value

def Payload.bytes (p : Payload) : Bytes :=
  (p.data.entries.flatMap fun (key, value) => entryBytes 'd'.toUInt8 key value) ++
    p.stringData.entries.flatMap fun (key, value) => entryBytes 's'.toUInt8 key (Bytes.ofText value)

def payloadDigest (secret : Secret) : Bytes := Bytes.Sha256.digest (Payload.of secret).bytes

/-! ## The filter -/

/-- The digest of the payload that each secret was last applied with. -/
structure ChangeFilter where
  digests : OrdMap ObjectKey Bytes := ∅

namespace ChangeFilter

def empty : ChangeFilter := {}

/-- The apps that an added or modified object concerns. A secret applied with the payload it was
last applied with concerns none. -/
def applied (f : ChangeFilter) (object : Watched) (apps : List App) : KeySet × ChangeFilter :=
  let keys := route (.created object) apps
  match object with
  | .secret secret =>
    let id := object.key
    if keys.isEmpty then (keys, { digests := f.digests.erase id })
    else
      let digest := payloadDigest secret
      let next : ChangeFilter := { digests := f.digests.insert id digest }
      if f.digests.get? id = some digest then (∅, next) else (keys, next)
  | _ => (keys, f)

def deleted (f : ChangeFilter) (object : Watched) (apps : List App) : KeySet × ChangeFilter :=
  let keys := route (.deleted object) apps
  match object with
  | .secret _ => (keys, { digests := f.digests.erase object.key })
  | _ => (keys, f)

def tracked (f : ChangeFilter) : Nat := f.digests.size

end ChangeFilter

end OdooKeeper
