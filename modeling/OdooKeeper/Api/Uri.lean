import OdooKeeper.Bytes

/-! # Paths of requests

Names stand in a path as they are; only the parameters behind it are escaped. -/

namespace OdooKeeper.Api.Uri

/-- A byte of a parameter: letters, digits and four marks stand for themselves, a space is a plus,
and everything else is its hexadecimal number. -/
def escapeByte (b : UInt8) : List Char :=
  let c := Char.ofNat b.toNat
  if b.toNat < 128 ∧ (c.isAlphanum ∨ c ∈ ['*', '-', '.', '_']) then [c]
  else if b.toNat = 32 then ['+']
  else
    ['%', (Nat.digitChar (b.toNat / 16)).toUpper, (Nat.digitChar (b.toNat % 16)).toUpper]

def escape (text : String) : String := String.ofList ((Bytes.ofText text).flatMap escapeByte)

/-- How many bytes a path may have, with all that follows it. -/
def lengthLimit : Nat := 65534

/-- Characters that may stand nowhere: the space, controls and angle brackets. -/
def isFault (c : Char) : Bool := c.toNat ≤ 0x20 || c = '<' || c = '>' || c.toNat = 0x7F

def isPathFault (c : Char) : Bool := isFault c || c.toNat = 0x60

/-- Characters that may not stand behind the question mark. -/
def isQueryFault (c : Char) : Bool := isFault c || c = '"'

/-- The path without its fragment, if all its characters may stand in it. -/
def ofText? (text : String) : Option String :=
  let cs := text.toList.takeWhile fun c => c ≠ '#'
  let path := cs.takeWhile fun c => c ≠ '?'
  let query := (cs.dropWhile fun c => c ≠ '?').drop 1
  if path.any isPathFault || query.any isQueryFault then none else some (String.ofList cs)

end OdooKeeper.Api.Uri
