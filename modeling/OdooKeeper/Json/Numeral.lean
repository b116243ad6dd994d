import OdooKeeper.Json.Basic
import OdooKeeper.Json.ParseError

/-! # Numbers in JSON text

A number is read in two steps: its digits, which the grammar decides, and then its value, which some
numbers do not have because they are out of range. -/

namespace OdooKeeper.Json

def spanDigits (cs : List Char) : List Char × List Char :=
  (cs.takeWhile Char.isDigit, cs.dropWhile Char.isDigit)

def digitValue (c : Char) : Nat := c.toNat - '0'.toNat

def digitsValue (cs : List Char) : Nat := cs.foldl (fun n c => n * 10 + digitValue c) 0

/-- A number as it is written, without its sign: the digits before the point, those behind it, and
the exponent with whether it is negative. -/
structure Numeral where
  whole : List Char
  decimals : Option (List Char)
  power : Option (Bool × List Char)
deriving DecidableEq, Repr

namespace Numeral

/-! ## Grammar

Where a digit is missing, the flaw is another one at the end of the text, `atEnd`. -/

/-- Fails where the first of the characters should be a digit. -/
def noDigit {α : Type} (atEnd : Flaw) (cs : List Char) : Except ParseError α :=
  faultOn (if cs.isEmpty then atEnd else .badNumber) cs

/-- The exponent behind a number, if one is written. -/
def readPower (atEnd : Flaw) (cs : List Char) :
    Except ParseError (Option (Bool × List Char) × List Char) :=
  match cs with
  | c :: rest =>
    if c = 'e' ∨ c = 'E' then
      let (negative, rest) := match rest with
        | '+' :: r => (false, r)
        | '-' :: r => (true, r)
        | r => (false, r)
      match spanDigits rest with
      | ([], rest) => noDigit atEnd rest
      | (digits, rest) => .ok (some (negative, digits), rest)
    else .ok (none, c :: rest)
  | [] => .ok (none, [])

/-- The digits behind a decimal point, if one is written. -/
def readDecimals (atEnd : Flaw) (cs : List Char) :
    Except ParseError (Option (List Char) × List Char) :=
  match cs with
  | '.' :: rest =>
    match spanDigits rest with
    | ([], rest) => noDigit atEnd rest
    | (digits, rest) => .ok (some digits, rest)
  | _ => .ok (none, cs)

/-- A number at the start of some characters. Only zero begins with a zero. -/
def read (atEnd : Flaw) (cs : List Char) : Except ParseError (Numeral × List Char) := do
  let (whole, rest) := spanDigits cs
  match whole with
  | [] => noDigit atEnd rest
  | '0' :: digit :: digits => faultOn .badNumber (digit :: digits ++ rest)
  | _ =>
    let (decimals, rest) ← readDecimals atEnd rest
    let (power, rest) ← readPower atEnd rest
    .ok (⟨whole, decimals, power⟩, rest)

/-! ## Value -/

/-- The largest and, without its sign, the least integer that are kept as integers: those of 64 bits
without and with a sign. -/
def integerLimits : Nat × Nat := (18446744073709551615, 9223372036854775808)

def powerLimit : Nat := 2147483647

/-- Appends digits to a number while it stays within the limit. Gives the digits left over as
well. -/
def absorb (limit n : Nat) : List Char → Nat × List Char
  | [] => (n, [])
  | c :: rest =>
    let m := n * 10 + digitValue c
    if limit < m then (n, c :: rest) else absorb limit m rest

def exponent (x : Numeral) : Int :=
  match x.power with
  | none => 0
  | some (negative, digits) => if negative then -(digitsValue digits : Int) else digitsValue digits

/-- The value of a number, unless it is out of range. One with a fraction or an exponent is a
floating point number, and so is an integer that does not fit 64 bits, or a negative zero. Of a
floating point number only the leading digits that fit 64 bits are looked at. -/
def value? (x : Numeral) (negative : Bool) : Option Json :=
  let (n, more) := absorb integerLimits.1 0 x.whole
  let limit := if negative then integerLimits.2 else integerLimits.1
  if x.decimals.isNone ∧ x.power.isNone ∧ more.isEmpty ∧ n ≤ limit ∧ ¬ (negative ∧ n = 0) then
    some (.integer (if negative then -(n : Int) else n))
  else
    let decimals := x.decimals.getD []
    let (digits, unread) := absorb integerLimits.1 n decimals
    let places : Int := decimals.length - unread.length
    (Decimal.Binary64.ofDecimal? negative digits (x.exponent + more.length - places)).map .float

/-- The digits of the exponent behind the one with which it grows too large to be kept. -/
def unreadPower (x : Numeral) : List Char :=
  match x.power with
  | some (false, digits) => (absorb powerLimit 0 digits).2.drop 1
  | _ => []

end Numeral

/-- A number at the start of some characters, `negative` when a sign stood before them. One out of
range is noticed at its end, or already within an exponent that is too large by itself. -/
def number (negative : Bool) (cs : List Char) : Except ParseError (Json × List Char) := do
  let (x, rest) ← Numeral.read .endOfValue cs
  match x.value? negative with
  | some v => .ok (v, rest)
  | none => fault .outOfRange (x.unreadPower ++ rest)

end OdooKeeper.Json
