/-! # Timestamps

Whole seconds of coordinated universal time and the Gregorian dates they fall on. -/

namespace OdooKeeper

/-! ## Dates -/

structure Date where
  year : Int
  month : Int
  day : Int
deriving DecidableEq, Repr

namespace Date

/-- Days in 400 years, after which the calendar repeats. -/
def daysPerEra : Int := 146097

/-- Days from the first of March of year 0 to the first of January 1970. -/
def epochShift : Int := 719468

/-- Days in the first years of an era. Years begin in March, so that a leap day ends its year. -/
def daysBeforeYear (yearOfEra : Int) : Int := 365 * yearOfEra + yearOfEra / 4 - yearOfEra / 100

/-- The year of an era that a day of the era falls in. -/
def yearOfDay (dayOfEra : Int) : Int :=
  (dayOfEra - dayOfEra / 1460 + dayOfEra / 36524 - dayOfEra / 146096) / 365

/-- Days in the first months of a year that begins in March. -/
def daysBeforeMonth (monthOfYear : Int) : Int := (153 * monthOfYear + 2) / 5

/-- The month that a day of the year falls in, March being month 0. -/
def monthOfDay (dayOfYear : Int) : Int := (5 * dayOfYear + 2) / 153

/-- The date a number of days after the first of January 1970. -/
def ofDays (days : Int) : Date :=
  let era := (days + epochShift) / daysPerEra
  let dayOfEra := (days + epochShift) % daysPerEra
  let year := yearOfDay dayOfEra
  let dayOfYear := dayOfEra - daysBeforeYear year
  let month := monthOfDay dayOfYear
  let day := dayOfYear - daysBeforeMonth month + 1
  if month < 10 then ⟨era * 400 + year, month + 3, day⟩ else ⟨era * 400 + year + 1, month - 9, day⟩

/-- Days from the first of January 1970 to a date. -/
def toDays (date : Date) : Int :=
  let (year, month) :=
    if date.month ≤ 2 then (date.year - 1, date.month + 9) else (date.year, date.month - 3)
  year / 400 * daysPerEra + daysBeforeYear (year % 400) + daysBeforeMonth month + date.day - 1 -
    epochShift

theorem yearOfDay_bounds {d : Int} (h₀ : 0 ≤ d) (h₁ : d < 146097) :
    0 ≤ yearOfDay d ∧ yearOfDay d < 400 := by
  unfold yearOfDay
  omega

theorem dayOfYear_bounds {d : Int} (h₀ : 0 ≤ d) (h₁ : d < 146097) :
    0 ≤ d - daysBeforeYear (yearOfDay d) ∧ d - daysBeforeYear (yearOfDay d) ≤ 365 := by
  -- the century, the last day of the era and the place in four years are told apart first
  have century : d / 36524 = 0 ∨ d / 36524 = 1 ∨ d / 36524 = 2 ∨ d / 36524 = 3 ∨ d / 36524 = 4 := by
    omega
  have last : d / 146096 = 0 ∨ d / 146096 = 1 := by omega
  unfold daysBeforeYear
  obtain ⟨year, hyear⟩ : ∃ year, yearOfDay d = year := ⟨_, rfl⟩
  rw [hyear]
  unfold yearOfDay at hyear
  have place : year - 4 * (d / 1460) = -1 ∨ year - 4 * (d / 1460) = 0 ∨
      year - 4 * (d / 1460) = 1 ∨ year - 4 * (d / 1460) = 2 ∨ year - 4 * (d / 1460) = 3 := by
    omega
  rcases century with h | h | h | h | h <;> rcases last with h' | h' <;> rw [h, h'] at hyear <;>
    rcases place with h'' | h'' | h'' | h'' | h'' <;> omega

theorem toDays_ofDays (days : Int) : (ofDays days).toDays = days := by
  have h₀ : 0 ≤ (days + epochShift) % daysPerEra := by unfold daysPerEra; omega
  have h₁ : (days + epochShift) % daysPerEra < 146097 := by unfold daysPerEra; omega
  have split := Int.mul_ediv_add_emod (days + epochShift) daysPerEra
  unfold ofDays
  generalize (days + epochShift) % daysPerEra = d at *
  generalize (days + epochShift) / daysPerEra = era at *
  have hy := yearOfDay_bounds h₀ h₁
  have hd := dayOfYear_bounds h₀ h₁
  simp only
  generalize yearOfDay d = year at *
  have hm : 0 ≤ monthOfDay (d - daysBeforeYear year) ∧
      monthOfDay (d - daysBeforeYear year) ≤ 11 := by
    unfold monthOfDay
    omega
  have hera : (era * 400 + year) / 400 = era := by omega
  have hyear : (era * 400 + year) % 400 = year := by omega
  generalize monthOfDay (d - daysBeforeYear year) = month at *
  have split : era * daysPerEra + d - epochShift = days := by
    rw [Int.mul_comm]; omega
  by_cases h : month < 10
  · have hlate : ¬ month + 3 ≤ 2 := by omega
    simp only [if_pos h, toDays, if_neg hlate, hera, hyear]
    have : month + 3 - 3 = month := by omega
    rw [this]
    omega
  · have hearly : month - 9 ≤ 2 := by omega
    simp only [if_neg h, toDays, if_pos hearly]
    have h₂ : month - 9 + 9 = month := by omega
    have h₃ : era * 400 + year + 1 - 1 = era * 400 + year := by omega
    rw [h₂, h₃, hera, hyear]
    omega

/-- Whether the calendar has the date: it is the date of its day. -/
def isReal (date : Date) : Bool := ofDays date.toDays = date

end Date

/-! ## Seconds -/

/-- The first second that is told, the first of January of the year -262143. -/
def Timestamp.earliest : Int := -8334601228800

/-- The last second that is told, the end of December of the year 262142. -/
def Timestamp.latest : Int := 8210266876799

/-- A second of coordinated universal time, counted from the start of 1970 without leap seconds. A
leap second bears the number of the last second of its minute. -/
structure Timestamp where
  unix : Int
  leap : Bool
  earliest_le : Timestamp.earliest ≤ unix
  le_latest : unix ≤ Timestamp.latest
  leap_last : leap = true → unix % 60 = 59
deriving DecidableEq, Repr

namespace Timestamp

/-- The second with a number, or the one nearest to it that is told. -/
def ofUnix (n : Int) : Timestamp where
  unix := max earliest (min latest n)
  leap := false
  earliest_le := by omega
  le_latest := by unfold earliest latest; omega
  leap_last := by simp

def date (t : Timestamp) : Date := .ofDays (t.unix / 86400)

def hour (t : Timestamp) : Nat := (t.unix % 86400 / 3600).toNat

def minute (t : Timestamp) : Nat := (t.unix % 3600 / 60).toNat

/-- Seconds of the minute, 60 for a leap second. -/
def second (t : Timestamp) : Nat := (t.unix % 60).toNat + (if t.leap then 1 else 0)

end Timestamp

end OdooKeeper
