import Mathlib.Algebra.Group.Nat.Defs
import OdooKeeper.Timestamp.Rfc3339

/-! # Timestamps that are read back

Reading a timestamp undoes writing it. Each part of the text is read up to the mark behind it. -/

namespace OdooKeeper

/-! ## Dates -/

namespace Date

theorem ofDays_month (days : Int) : 1 ≤ (ofDays days).month ∧ (ofDays days).month ≤ 12 := by
  have hday := dayOfYear_bounds (d := (days + epochShift) % daysPerEra)
    (by unfold daysPerEra; omega) (by unfold daysPerEra; omega)
  unfold ofDays
  simp only
  split <;> unfold monthOfDay at * <;> simp only <;> omega

theorem ofDays_day (days : Int) : 1 ≤ (ofDays days).day ∧ (ofDays days).day ≤ 31 := by
  have hday := dayOfYear_bounds (d := (days + epochShift) % daysPerEra)
    (by unfold daysPerEra; omega) (by unfold daysPerEra; omega)
  unfold ofDays
  simp only
  split <;> unfold daysBeforeMonth monthOfDay <;> simp only <;> omega

end Date

namespace Timestamp

variable {width most n : Nat} {rest : List Char}

theorem date_year (t : Timestamp) : -300000 ≤ t.date.year ∧ t.date.year ≤ 300000 := by
  have hearliest := t.earliest_le
  have hlatest := t.le_latest
  have hyear := Date.yearOfDay_bounds (d := (t.unix / 86400 + Date.epochShift) % Date.daysPerEra)
    (by unfold Date.daysPerEra; omega) (by unfold Date.daysPerEra; omega)
  unfold earliest at hearliest
  unfold latest at hlatest
  unfold date Date.ofDays
  simp only
  split <;> simp only <;> unfold Date.epochShift Date.daysPerEra at * <;> omega

/-! ## Digits -/

theorem length_padded (hwidth : 0 < width) (h : n < 10 ^ width) : (padded width n).length = width := by
  have hdigits := (Nat.length_toDigits_le_iff (b := 10) (by decide) hwidth).mpr h
  simp only [padded, List.length_append, List.length_replicate]
  omega

theorem isDigit_padded : ∀ c ∈ padded width n, c.isDigit = true := by
  intro c hc
  rcases List.mem_append.mp hc with hc | hc
  · rw [List.eq_of_mem_replicate hc]
    rfl
  · exact Nat.isDigit_of_mem_toDigits (by decide) (by decide) hc

theorem padded_ne_nil (width n : Nat) : padded width n ≠ [] := by
  simp [padded, Nat.toDigits_ne_nil]

theorem value_padded :
    (padded width n).foldl (fun n c => n * 10 + (c.toNat - '0'.toNat)) 0 = n := by
  have hvalue : ∀ digits : List Char, digits.foldl (fun n c => n * 10 + (c.toNat - '0'.toNat)) 0 =
      Nat.ofDigitChars 10 digits 0 := by
    intro digits
    rw [Nat.ofDigitChars_eq_foldl]
    simp only [Nat.mul_comm]
  rw [hvalue, padded, Nat.ofDigitChars_append, Nat.ofDigitChars_replicate_zero, Nat.mul_zero,
    Nat.ofDigitChars_ten_toDigits]

def EndsDigits (rest : List Char) : Prop := ∀ c ∈ rest.head?, c.isDigit = false

theorem takeWhile_digits {digits : List Char} (hdigits : ∀ c ∈ digits, c.isDigit = true)
    (hrest : EndsDigits rest) : (digits ++ rest).takeWhile Char.isDigit = digits := by
  rw [List.takeWhile_append_of_pos hdigits]
  cases rest with
  | nil => simp
  | cons c rest => rw [List.takeWhile_cons_of_neg (by simp [hrest c rfl]), List.append_nil]

theorem EndsDigits.take (h : EndsDigits rest) (n : Nat) : EndsDigits (rest.take n) := by
  intro c hc
  cases rest with
  | nil => simp at hc
  | cons first rest =>
    cases n with
    | zero => simp at hc
    | succ n => exact h c hc

theorem readDigits_padded (hmost : (padded width n).length ≤ most)
    (hrest : (padded width n).length = most ∨ EndsDigits rest) (hn : n ≤ 300000) :
    readDigits most (padded width n ++ rest) = .ok (n, rest) := by
  have hdigits : ((padded width n ++ rest).take most).takeWhile Char.isDigit = padded width n := by
    rw [List.take_append, List.take_of_length_le hmost]
    refine takeWhile_digits isDigit_padded ?_
    rcases hrest with hlength | hends
    · rw [hlength, Nat.sub_self, List.take_zero]
      simp [EndsDigits]
    · exact hends.take _
  have hmax : (n : Int) ≤ Int64.maxValue.toInt := by
    have hvalue : Int64.maxValue.toInt = 9223372036854775807 := rfl
    omega
  unfold readDigits
  simp only [hdigits, value_padded, List.drop_left]
  split
  · exact absurd ‹_› (padded_ne_nil width n)
  · exact absurd ‹_› (padded_ne_nil width n)
  · exact if_neg (by omega)

/-! ## Parts -/

theorem isBlank_of_isDigit {c : Char} (h : c.isDigit = true) : Text.isBlank c = false := by
  have hbounds : 48 ≤ c.toNat ∧ c.toNat ≤ 57 := by
    simpa [Char.isDigit, UInt32.le_iff_toNat_le] using h
  simp only [Text.isBlank, Bool.or_eq_false_iff, Bool.and_eq_false_iff, decide_eq_false_iff_not,
    beq_eq_false_iff_ne]
  omega

theorem skipBlanks_cons {c : Char} (h : Text.isBlank c = false) : skipBlanks (c :: rest) = c :: rest :=
  List.dropWhile_cons_of_neg (by simp [h])

theorem padded_eq_cons (width n : Nat) : ∃ c digits, padded width n = c :: digits ∧
    Text.isBlank c = false ∧ c ≠ '-' ∧ c ≠ '+' := by
  obtain ⟨c, digits, hpadded⟩ := List.exists_cons_of_ne_nil (padded_ne_nil width n)
  have hdigit : c.isDigit = true := isDigit_padded c (by rw [hpadded]; exact List.mem_cons_self)
  refine ⟨c, digits, hpadded, isBlank_of_isDigit hdigit, ?_, ?_⟩ <;> rintro rfl <;> cases hdigit

theorem skipBlanks_padded : skipBlanks (padded width n ++ rest) = padded width n ++ rest := by
  obtain ⟨c, digits, hpadded, hblank, -, -⟩ := padded_eq_cons width n
  rw [hpadded]
  exact skipBlanks_cons hblank

theorem readPart_padded {low high : Nat} (hlow : low ≤ n) (hhigh : n ≤ high) (hn : n < 100)
    (rest : List Char) : readPart low high (padded 2 n ++ rest) = .ok (n, rest) := by
  have hlength : (padded 2 n).length = 2 := length_padded (by decide) hn
  unfold readPart
  rw [skipBlanks_padded, readDigits_padded (Nat.le_of_eq hlength) (.inl hlength) (by omega)]
  exact if_pos ⟨hlow, hhigh⟩

theorem readMark_cons {mark : Char} (h : Text.isBlank mark = false) (rest : List Char) :
    readMark mark (mark :: rest) = .ok rest := by
  unfold readMark
  rw [skipBlanks_cons h]
  exact if_pos rfl

section Years

variable {year : Int} (hlow : -300000 ≤ year) (hhigh : year ≤ 300000)
include hlow hhigh

theorem year_fits {read : Int} (hread : read = year) :
    (if Int32.minValue.toInt ≤ read ∧ read ≤ Int32.maxValue.toInt then .ok (read, rest)
      else .error .outOfRange : Except Fault (Int × List Char)) = .ok (year, rest) := by
  have hmin : Int32.minValue.toInt = -2147483648 := rfl
  have hmax : Int32.maxValue.toInt = 2147483647 := rfl
  subst hread
  exact if_pos (by omega)

theorem readYear_plain (h : 0 ≤ year ∧ year ≤ 9999) :
    readYear (padded 4 year.toNat ++ rest) = .ok (year, rest) := by
  obtain ⟨c, digits, hpadded, hblank, hminus, hplus⟩ := padded_eq_cons 4 year.toNat
  have hlength : (padded 4 year.toNat).length = 4 := length_padded (by decide) (by omega)
  have hread : readDigits 4 (padded 4 year.toNat ++ rest) = .ok (year.toNat, rest) :=
    readDigits_padded (Nat.le_of_eq hlength) (.inl hlength) (by omega)
  unfold readYear
  rw [skipBlanks_padded]
  split
  · rename_i hsign
    rw [hpadded] at hsign
    exact absurd (List.cons.inj hsign).1 hminus
  · rename_i hsign
    rw [hpadded] at hsign
    exact absurd (List.cons.inj hsign).1 hplus
  · rw [hread]
    exact year_fits hlow hhigh (by omega)

theorem readYear_yearDigits (hrest : EndsDigits rest) :
    readYear (yearDigits year ++ rest) = .ok (year, rest) := by
  have hsigned : readDigits (padded 4 year.natAbs ++ rest).length (padded 4 year.natAbs ++ rest) =
      .ok (year.natAbs, rest) :=
    readDigits_padded (by simp) (.inr hrest) (by omega)
  by_cases hplain : 0 ≤ year ∧ year ≤ 9999
  · rw [yearDigits, if_pos hplain]
    exact readYear_plain hlow hhigh hplain
  rw [yearDigits, if_neg hplain, List.cons_append]
  by_cases hnegative : year < 0
  · rw [if_pos hnegative, readYear, skipBlanks_cons (by decide)]
    simp only [hsigned]
    exact year_fits hlow hhigh (by omega)
  · rw [if_neg hnegative, readYear, skipBlanks_cons (by decide)]
    simp only [hsigned]
    exact year_fits hlow hhigh (by omega)

end Years

/-! ## The whole -/

theorem hour_le (t : Timestamp) : t.hour ≤ 23 := by
  unfold hour
  omega

theorem minute_le (t : Timestamp) : t.minute ≤ 59 := by
  unfold minute
  omega

theorem second_le (t : Timestamp) : t.second ≤ 60 := by
  unfold second
  split <;> omega

theorem second_eq (t : Timestamp) :
    t.leap = true ∧ t.second = 60 ∧ t.unix % 60 = 59 ∨
      t.leap = false ∧ (t.second : Int) = t.unix % 60 ∧ t.second < 60 := by
  unfold second
  cases hleap : t.leap with
  | false =>
    refine .inr ⟨rfl, ?_⟩
    simp only [Bool.false_eq_true, if_false]
    omega
  | true =>
    have hlast := t.leap_last hleap
    refine .inl ⟨rfl, ?_⟩
    simp only [if_true]
    omega

theorem date_isReal (t : Timestamp) : t.date.isReal = true := by
  rw [Date.isReal, decide_eq_true_eq]
  exact congrArg Date.ofDays (Date.toDays_ofDays _)

theorem unix_parts (t : Timestamp) :
    t.date.toDays * 86400 + t.hour * 3600 + t.minute * 60 + min t.second 59 = t.unix := by
  have hdays : t.date.toDays = t.unix / 86400 := Date.toDays_ofDays _
  have hsecond := t.second_eq
  unfold hour minute
  rw [hdays]
  omega

theorem ofParts_parts (t : Timestamp) : ofParts t.date t.hour t.minute t.second 0 = .ok t := by
  have hrange : earliest ≤ t.unix ∧ t.unix ≤ latest := ⟨t.earliest_le, t.le_latest⟩
  have hinRange : inRange t.unix = true := by simp [inRange, hrange]
  have hunix := t.unix_parts
  have hsecond := t.second_eq
  obtain ⟨unix, leap, hearliest, hlatest, hlast⟩ := t
  unfold ofParts
  simp only [hunix, Int.zero_mul, Int.sub_zero, date_isReal, hinRange, dif_pos hrange]
  rcases hsecond with ⟨rfl, hsixty⟩ | ⟨rfl, -, hsecond⟩
  · rw [dif_pos hsixty]
    rfl
  · rw [dif_neg (by omega)]
    rfl

theorem ofChars_chars (t : Timestamp) : ofChars t.chars = .ok t := by
  have hends : ∀ rest, EndsDigits ('-' :: rest) := by simp [EndsDigits]
  have hyear : ∀ rest, readYear (yearDigits t.date.year ++ '-' :: rest) =
      .ok (t.date.year, '-' :: rest) :=
    fun rest => readYear_yearDigits t.date_year.1 t.date_year.2 (hends rest)
  -- Each part is within its bounds, and no mark is blank.
  obtain ⟨hmonth₁, hmonth₂⟩ : 1 ≤ t.date.month ∧ t.date.month ≤ 12 := Date.ofDays_month _
  obtain ⟨hday₁, hday₂⟩ : 1 ≤ t.date.day ∧ t.date.day ≤ 31 := Date.ofDays_day _
  have hhour := t.hour_le
  have hminute := t.minute_le
  have hsecond := t.second_le
  have hmonth : ∀ rest, readPart 1 12 (padded 2 t.date.month.toNat ++ rest) =
      .ok (t.date.month.toNat, rest) := readPart_padded (by omega) (by omega) (by omega)
  have hday : ∀ rest, readPart 1 31 (padded 2 t.date.day.toNat ++ rest) =
      .ok (t.date.day.toNat, rest) := readPart_padded (by omega) (by omega) (by omega)
  have hhour' : ∀ rest, readPart 0 23 (padded 2 t.hour ++ rest) = .ok (t.hour, rest) :=
    readPart_padded (by omega) (by omega) (by omega)
  have hminute' : ∀ rest, readPart 0 59 (padded 2 t.minute ++ rest) = .ok (t.minute, rest) :=
    readPart_padded (by omega) (by omega) (by omega)
  have hsecond' : ∀ rest, readPart 0 60 (padded 2 t.second ++ rest) = .ok (t.second, rest) :=
    readPart_padded (by omega) (by omega) (by omega)
  have hdash : ∀ rest, readMark '-' ('-' :: rest) = .ok rest := readMark_cons (by decide)
  have hcolon : ∀ rest, readMark ':' (':' :: rest) = .ok rest := readMark_cons (by decide)
  have hdate : (⟨t.date.year, t.date.month.toNat, t.date.day.toNat⟩ : Date) = t.date := by
    rw [Int.toNat_of_nonneg (by omega), Int.toNat_of_nonneg (by omega)]
  have hfraction : skipFraction ['Z'] = .ok ['Z'] := rfl
  have hzone : readZone (skipBlanks ['Z']) = .ok (0, []) := rfl
  simp only [ofChars, chars, List.append_assoc, List.cons_append, bind, Except.bind, hyear, hmonth,
    hday, hhour', hminute', hsecond', hdash, hcolon, true_or, if_true, hfraction, hzone, hdate]
  exact t.ofParts_parts

theorem parse_render (t : Timestamp) : parse t.render = .ok t := by
  rw [parse, render, String.toList_ofList]
  exact ofChars_chars t

end Timestamp

end OdooKeeper
