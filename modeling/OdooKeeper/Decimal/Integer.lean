/-! # Decimal integers

Integers written with ASCII digits and at most one sign. -/

namespace OdooKeeper.Decimal

/-- Why a text is no integer of the wanted range. -/
inductive Fault where
  | empty
  | invalidDigit
  | tooLarge
deriving DecidableEq, Repr

def Fault.message : Fault → String
  | .empty => "cannot parse integer from empty string"
  | .invalidDigit => "invalid digit found in string"
  | .tooLarge => "number too large to fit in target type"

def digit? (c : Char) : Option Nat :=
  if '0' ≤ c ∧ c ≤ '9' then some (c.toNat - '0'.toNat) else none

/-- Appends digits to the number read so far; the first fault from the left decides. -/
def readDigits (limit : Nat) (sofar : Nat) : List Char → Except Fault Nat
  | [] => .ok sofar
  | c :: rest =>
    match digit? c with
    | none => .error .invalidDigit
    | some d =>
      if sofar * 10 + d ≤ limit then readDigits limit (sofar * 10 + d) rest else .error .tooLarge

/-- A natural number up to `limit`, with an optional `+`. -/
def natural (limit : Nat) (text : String) : Except Fault Nat :=
  match text.toList with
  | [] => .error .empty
  | ['+'] => .error .invalidDigit
  | '+' :: digits => readDigits limit 0 digits
  | digits => readDigits limit 0 digits

/-- An integer from `-(limit + 1)` to `limit`, with an optional sign. -/
def integer? (limit : Nat) (cs : List Char) : Option Int :=
  let unsigned (bound : Nat) (digits : List Char) : Option Nat :=
    if digits = [] then none else (readDigits bound 0 digits).toOption
  match cs with
  | '-' :: digits => (unsigned (limit + 1) digits).map fun n => -(n : Int)
  | '+' :: digits => (unsigned limit digits).map fun n => (n : Int)
  | digits => (unsigned limit digits).map fun n => (n : Int)

def int32? (text : String) : Option Int32 := (integer? 2147483647 text.toList).map Int32.ofInt

end OdooKeeper.Decimal
