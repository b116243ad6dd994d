/-! # Binary floating point

Finite double-precision numbers in exact arithmetic, and the shortest decimal that rounds to one. -/

namespace OdooKeeper.Decimal

/-- A finite double-precision number `± mantissa · 2 ^ exponent`, with `mantissa < 2 ^ 53` and
`exponent` the least one, from `-1074` on, that the value admits. -/
structure Binary64 where
  negative : Bool
  mantissa : Nat
  exponent : Int
deriving DecidableEq, Repr, Inhabited

namespace Binary64

def twoTo (n : Nat) : Nat := 1 <<< n

def tenTo (n : Nat) : Nat := Nat.pow 10 n

def mantissaLimit : Nat := twoTo 53

def leastExponent : Int := -1074

def zero (negative : Bool) : Binary64 := ⟨negative, 0, leastExponent⟩

/-- Equal values; the two zeros are equal. -/
def sameValue (x y : Binary64) : Bool := x = y || (x.mantissa = 0 && y.mantissa = 0)

/-! ## Rounding -/

/-- The fraction `num / den` over `2 ^ exponent`. -/
def scaled (num den : Nat) (exponent : Int) : Nat × Nat :=
  if 0 ≤ exponent then (num, den * twoTo exponent.toNat) else (num * twoTo (-exponent).toNat, den)

/-- The nearest integer to a fraction, an exact half going to the even one. -/
def roundHalfEven (num den : Nat) : Nat :=
  let q := num / den
  let r := num % den
  if 2 * r < den then q else if den < 2 * r then q + 1 else q + q % 2

/-- The double nearest to `num / den`, if it is in range. -/
def ofFraction? (negative : Bool) (num den : Nat) : Option Binary64 :=
  if num = 0 ∨ den = 0 then some (zero negative)
  else
    let guess : Int := (Nat.log2 num : Int) - Nat.log2 den - 52
    let quotient (e : Int) : Nat := (scaled num den e).1 / (scaled num den e).2
    let fitting : Int :=
      if quotient (guess - 1) < mantissaLimit then guess - 1
      else if quotient guess < mantissaLimit then guess else guess + 1
    let exponent := max fitting leastExponent
    let (n, d) := scaled num den exponent
    let m := roundHalfEven n d
    let (m, exponent) :=
      if m = mantissaLimit then (mantissaLimit / 2, exponent + 1) else (m, exponent)
    if 971 < exponent then none else some ⟨negative, m, exponent⟩

/-- The double nearest to an integer, if it is in range. -/
def ofNat? (negative : Bool) (n : Nat) : Option Binary64 := ofFraction? negative n 1

/-! ## Reading decimals

A decimal is read in steps, each of them rounded: its digits, and then a power of ten. So what is
read can be a neighbour of the double nearest to the decimal. -/

/-- The greatest power of ten that is a double is the one with this exponent. -/
def greatestPower : Nat := 308

/-- The double nearest to a power of ten, which is in range up to `greatestPower`. -/
def powerOfTen (n : Nat) : Binary64 := (ofNat? false (tenTo n)).getD (zero false)

/-- The mantissa times a power of two, as a fraction. -/
def fraction (x : Binary64) : Nat × Nat :=
  (x.mantissa * twoTo x.exponent.toNat, twoTo (-x.exponent).toNat)

/-- The product, if it is in range. It has the sign of `x`. -/
def times? (x y : Binary64) : Option Binary64 :=
  ofFraction? x.negative (x.fraction.1 * y.fraction.1) (x.fraction.2 * y.fraction.2)

/-- The quotient, if it is in range. It has the sign of `x`. -/
def over? (x y : Binary64) : Option Binary64 :=
  ofFraction? x.negative (x.fraction.1 * y.fraction.2) (x.fraction.2 * y.fraction.1)

/-- The number over `10 ^ n`, by steps of the greatest power. -/
def shrink? (x : Binary64) (n : Nat) : Option Binary64 :=
  if n ≤ greatestPower then x.over? (powerOfTen n)
  else if x.mantissa = 0 then some x
  else (x.over? (powerOfTen greatestPower)).bind fun y => y.shrink? (n - greatestPower)
termination_by n
decreasing_by simp only [greatestPower] at *; omega

/-- The double read from `digits · 10 ^ power`, if it is in range. -/
def ofDecimal? (negative : Bool) (digits : Nat) (power : Int) : Option Binary64 :=
  (ofNat? negative digits).bind fun x =>
    if power < 0 then x.shrink? power.natAbs
    else if power.natAbs ≤ greatestPower then x.times? (powerOfTen power.natAbs)
    else if x.mantissa = 0 then some x else none

/-! ## Shortest digits -/

/-- Twice the distances from the value to the ends of the interval that rounds to it, all over the
same denominator: value, lower gap, upper gap, denominator. -/
def interval (x : Binary64) : Nat × Nat × Nat × Nat :=
  -- below a power of two the neighbour is half as far away
  let narrow := x.mantissa = mantissaLimit / 2 ∧ leastExponent < x.exponent
  let (value, den) :=
    if 0 ≤ x.exponent then (x.mantissa * twoTo x.exponent.toNat * 4, 4)
    else (x.mantissa * 4, 4 * twoTo (-x.exponent).toNat)
  let unit := if 0 ≤ x.exponent then twoTo x.exponent.toNat else 1
  (value, if narrow then unit else 2 * unit, 2 * unit, den)

/-- The multiple of `10 ^ power` nearest to the value, if it rounds to it. Of two that are as near,
the even one. -/
def onGrid? (x : Binary64) (power : Int) : Option Nat :=
  let (value, low, high, den) := x.interval
  let up := if 0 ≤ power then 1 else tenTo (-power).toNat
  let down := if 0 ≤ power then tenTo power.toNat else 1
  -- everything times `up`, over `den * up`; the grid step is `den * down`
  let step := den * down
  let q := value * up / step
  let admits (c : Nat) : Bool :=
    let (point, v) := (c * step, value * up)
    let (gap, bound) := if point ≤ v then (v - point, low * up) else (point - v, high * up)
    if x.mantissa % 2 = 0 then gap ≤ bound else gap < bound
  let below := if q ≠ 0 && admits q then some q else none
  let above := if admits (q + 1) then some (q + 1) else none
  match below, above with
  | some _, some _ => some (roundHalfEven (value * up) step)
  | some a, none => some a
  | none, some b => some b
  | none, none => none

/-- The fewest digits, and the power of ten they count, that round to the number. -/
def shortest (x : Binary64) : Nat × Int :=
  if x.mantissa = 0 then (0, 0)
  else
    let (value, _, _, den) := x.interval
    -- the power of ten at or above the value
    let top : Int := (Nat.toDigits 10 (value / den)).length
    let top : Int :=
      if value / den = 0 then 1 - ((Nat.toDigits 10 (den / value)).length : Int) + 1 else top
    let tries := (List.range 20).map fun (n : Nat) => top - (n : Int)
    match tries.findSome? fun power => (x.onGrid? power).map fun c => (c, power) with
    | some found => found
    | none => (0, 0)

/-- Which numbers are written without an exponent: those with at most `digits` digits before the
decimal point, and of the small ones those with at most `zeros` zeros between the point and the
first other digit. `plus` stands before an exponent that is not negative. -/
structure Layout where
  digits : Nat
  zeros : Nat
  plus : List Char

def layout : Layout := ⟨16, 4, ['+']⟩

/-- The shortest digits as text. There is always a decimal point or an exponent. -/
def text (x : Binary64) : String :=
  let (digits, power) := x.shortest
  let cs := Nat.toDigits 10 digits
  -- how many digits stand before the point
  let point : Int := cs.length + power
  let body : List Char :=
    if 0 ≤ power ∧ point ≤ layout.digits then
      cs ++ List.replicate power.toNat '0' ++ ['.', '0']
    else if 0 < point ∧ point ≤ layout.digits then
      cs.take point.toNat ++ '.' :: cs.drop point.toNat
    else if -(layout.zeros : Int) ≤ point ∧ point ≤ 0 then
      '0' :: '.' :: List.replicate (-point).toNat '0' ++ cs
    else
      let decimals := match cs.drop 1 with
        | [] => []
        | rest => '.' :: rest
      let sign := if 0 < point then layout.plus else ['-']
      cs.take 1 ++ decimals ++ 'e' :: sign ++ Nat.toDigits 10 (point - 1).natAbs
  String.ofList (if x.negative then '-' :: body else body)

end Binary64

end OdooKeeper.Decimal
