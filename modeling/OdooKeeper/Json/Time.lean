import OdooKeeper.Json.Decode
import OdooKeeper.Timestamp.Rfc3339

/-! # Times as JSON

A time is a string in the form of RFC 3339. -/

namespace OdooKeeper.Json

def ofTime (t : Timestamp) : Json := .string t.render

def readTime : Reader Timestamp :=
  .scalar fun
    | .string s => (Timestamp.parse s).mapError fun fault => .malformed fault.message
    | v => .error (.invalidType v "an RFC 3339 formatted date and time string")

end OdooKeeper.Json
