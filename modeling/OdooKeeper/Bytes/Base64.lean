import OdooKeeper.Bytes

/-! # Base64

The standard alphabet with mandatory padding. Reading refuses a last group whose unused bits are
not zero, so every sequence of bytes has one written form. -/

namespace OdooKeeper.Bytes.Base64

/-! ## Digits -/

def digitChar (n : Nat) : Char :=
  if n < 26 then Char.ofNat ('A'.toNat + n)
  else if n < 52 then Char.ofNat ('a'.toNat + (n - 26))
  else if n < 62 then Char.ofNat ('0'.toNat + (n - 52))
  else if n = 62 then '+'
  else '/'

def digit? (c : Char) : Option Nat :=
  if 'A' ≤ c ∧ c ≤ 'Z' then some (c.toNat - 'A'.toNat)
  else if 'a' ≤ c ∧ c ≤ 'z' then some (c.toNat - 'a'.toNat + 26)
  else if '0' ≤ c ∧ c ≤ '9' then some (c.toNat - '0'.toNat + 52)
  else if c = '+' then some 62
  else if c = '/' then some 63
  else none

/-! ## Writing -/

/-- Three bytes become four digits; a shorter last group is filled up with `=`. -/
def encodeChars : Bytes → List Char
  | [] => []
  | [a] => [digitChar (a.toNat / 4), digitChar (a.toNat % 4 * 16), '=', '=']
  | [a, b] =>
    [digitChar (a.toNat / 4), digitChar (a.toNat % 4 * 16 + b.toNat / 16),
      digitChar (b.toNat % 16 * 4), '=']
  | a :: b :: c :: rest =>
    digitChar (a.toNat / 4) :: digitChar (a.toNat % 4 * 16 + b.toNat / 16) ::
      digitChar (b.toNat % 16 * 4 + c.toNat / 64) :: digitChar (c.toNat % 64) :: encodeChars rest

def encode (bytes : Bytes) : String := String.ofList (encodeChars bytes)

/-! ## Reading -/

def padding : UInt8 := '='.toUInt8

/-- Why a text is no written form. Places in it are counted in bytes. -/
inductive Fault where
  | symbol (place : Nat) (byte : UInt8)
  | length (digits : Nat)
  | lastDigit (place : Nat) (byte : UInt8)
  | padding
deriving DecidableEq, Repr

def Fault.message : Fault → String
  | .symbol place byte => s!"Invalid symbol {byte}, offset {place}."
  | .length digits => s!"Invalid input length: {digits}"
  | .lastDigit place byte => s!"Invalid last symbol {byte}, offset {place}."
  | .padding => "Invalid padding"

def ofByte? (byte : UInt8) : Option Nat := digit? (Char.ofNat byte.toNat)

/-- The six-bit numbers of some bytes, the first of which stands at a place. -/
def readDigits (place : Nat) : Bytes → Except Fault (List Nat)
  | [] => .ok []
  | byte :: rest =>
    match ofByte? byte with
    | some n => (readDigits (place + 1) rest).map (n :: ·)
    | none => .error (.symbol place byte)

/-- The bytes that the digits of a group stand for. -/
def pack : List Nat → Bytes
  | [x, y] => [UInt8.ofNat (x * 4 + y / 16)]
  | [x, y, z] => [UInt8.ofNat (x * 4 + y / 16), UInt8.ofNat (y % 16 * 16 + z / 4)]
  | [x, y, z, w] =>
    [UInt8.ofNat (x * 4 + y / 16), UInt8.ofNat (y % 16 * 16 + z / 4), UInt8.ofNat (z % 4 * 64 + w)]
  | _ => []

/-- The bits of a group that stand for no byte, as a number. -/
def unused : List Nat → Nat
  | [_, y] => y % 16
  | [_, _, z] => z % 4
  | _ => 0

/-- The last group, which starts at a place. It has at least two digits and is filled up to four
characters. -/
def decodeLast (place : Nat) (group : Bytes) : Except Fault Bytes := do
  let symbols := group.takeWhile (· ≠ padding)
  let filling := group.dropWhile (· ≠ padding)
  let digits ← readDigits place symbols
  let next := place + digits.length
  if filling ≠ [] ∧ (digits.length < 2 ∨ filling.any (· ≠ padding)) then
    .error (.symbol next padding)
  else if digits.length < 2 then .error (.length next)
  else if group.length < 4 then .error .padding
  else if unused digits ≠ 0 then .error (.lastDigit (next - 1) (symbols.getLastD 0))
  else .ok (pack digits)

/-- Groups of four, the first of which starts at a place. -/
def decodeGroups (place : Nat) : Bytes → Except Fault Bytes
  | [] => .ok []
  | a :: b :: c :: d :: rest@(_ :: _) => do
    let digits ← readDigits place [a, b, c, d]
    .ok (pack digits ++ (← decodeGroups (place + 4) rest))
  | group => decodeLast place group

/-- The bytes that a text writes down. When a single byte is left over behind the last group, it is
looked at first: it may be the end of a line. -/
def decode (text : String) : Except Fault Bytes :=
  let bytes := ofText text
  let extra := if bytes.length % 4 = 1 then bytes.getLast? else none
  match extra.filter fun byte => byte ≠ padding ∧ (ofByte? byte).isNone with
  | some byte => .error (.symbol (bytes.length - 1) byte)
  | none => decodeGroups 0 bytes

/-- The bytes that a text writes down, if it is a written form. -/
def decode? (text : String) : Option Bytes := (decode text).toOption

end OdooKeeper.Bytes.Base64
