import OdooKeeper.Decimal.Integer

/-! # Decimal integers, read and written

A text is read as an integer exactly when it denotes one in the range, with as many leading zeros as
it likes. What is written for an integer denotes it. -/

namespace OdooKeeper.Decimal

variable {limit sofar n : Nat} {cs digits : List Char} {i : Int}

/-! ## Digits -/

theorem digit?_eq_some_iff {c : Char} {d : Nat} :
    digit? c = some d ↔ c.isDigit = true ∧ c.toNat - '0'.toNat = d := by
  unfold digit? Char.isDigit
  rw [Option.ite_none_right_eq_some, Option.some.injEq, Bool.and_eq_true, decide_eq_true_eq,
    decide_eq_true_eq]
  rfl

theorem le_ofDigitChars (sofar : Nat) (cs : List Char) : sofar ≤ Nat.ofDigitChars 10 cs sofar := by
  induction cs generalizing sofar with
  | nil => exact Nat.le_refl _
  | cons c rest ih =>
    rw [Nat.ofDigitChars_cons]
    have hrest := ih (10 * sofar + (c.toNat - '0'.toNat))
    omega

theorem readDigits_eq_ok_iff (h : sofar ≤ limit) : readDigits limit sofar cs = .ok n ↔
    (∀ c ∈ cs, c.isDigit = true) ∧ Nat.ofDigitChars 10 cs sofar = n ∧ n ≤ limit := by
  induction cs generalizing sofar with
  | nil =>
    simp only [readDigits, Except.ok.injEq, List.not_mem_nil, false_imp_iff, implies_true, true_and,
      Nat.ofDigitChars_nil]
    omega
  | cons c rest ih =>
    rw [readDigits, List.forall_mem_cons, Nat.ofDigitChars_cons]
    cases hdigit : digit? c with
    | none =>
      have hnot : ¬ c.isDigit = true := by
        intro hc
        have hsome := digit?_eq_some_iff.mpr ⟨hc, rfl⟩
        rw [hdigit] at hsome
        cases hsome
      simp [hnot]
    | some d =>
      obtain ⟨hc, rfl⟩ := digit?_eq_some_iff.mp hdigit
      simp only [hc, true_and, Nat.mul_comm sofar 10]
      split
      · rename_i hle
        exact ih hle
      · rename_i hgt
        have hgrows := le_ofDigitChars (10 * sofar + (c.toNat - '0'.toNat)) rest
        constructor
        · intro hread
          cases hread
        · rintro ⟨-, rfl, hle⟩
          omega

/-- A number over the limit is told apart from a character that is no digit: what comes first in the
text decides. -/
theorem readDigits_eq_tooLarge_iff (h : sofar ≤ limit) :
    readDigits limit sofar cs = .error .tooLarge ↔
      ∃ digits, digits <+: cs ∧ (∀ c ∈ digits, c.isDigit = true) ∧
        limit < Nat.ofDigitChars 10 digits sofar := by
  induction cs generalizing sofar with
  | nil =>
    simp only [readDigits, List.prefix_nil, exists_eq_left, Nat.ofDigitChars_nil, reduceCtorEq,
      false_iff]
    omega
  | cons c rest ih =>
    rw [readDigits]
    cases hdigit : digit? c with
    | none =>
      simp only [Except.error.injEq, reduceCtorEq, false_iff]
      rintro ⟨digits, hstart, hdigits, hover⟩
      rcases List.prefix_cons_iff.mp hstart with rfl | ⟨more, rfl, -⟩
      · rw [Nat.ofDigitChars_nil] at hover
        omega
      · have hsome := digit?_eq_some_iff.mpr ⟨hdigits c List.mem_cons_self, rfl⟩
        rw [hdigit] at hsome
        cases hsome
    | some d =>
      obtain ⟨hc, rfl⟩ := digit?_eq_some_iff.mp hdigit
      simp only [Nat.mul_comm sofar 10]
      split
      · rename_i hle
        rw [ih hle]
        constructor
        · rintro ⟨digits, hstart, hdigits, hover⟩
          refine ⟨c :: digits, by simpa using hstart, List.forall_mem_cons.mpr ⟨hc, hdigits⟩, ?_⟩
          rwa [Nat.ofDigitChars_cons]
        · rintro ⟨digits, hstart, hdigits, hover⟩
          rcases List.prefix_cons_iff.mp hstart with rfl | ⟨more, rfl, hmore⟩
          · rw [Nat.ofDigitChars_nil] at hover
            omega
          · rw [Nat.ofDigitChars_cons] at hover
            exact ⟨more, hmore, (List.forall_mem_cons.mp hdigits).2, hover⟩
      · rename_i hgt
        simp only [true_iff]
        refine ⟨[c], by simp, by simpa using hc, ?_⟩
        rw [Nat.ofDigitChars_cons, Nat.ofDigitChars_nil]
        omega

theorem readDigits_ne_empty : readDigits limit sofar cs ≠ .error .empty := by
  induction cs generalizing sofar with
  | nil => nofun
  | cons c rest ih =>
    rw [readDigits]
    split
    · nofun
    · split
      · exact ih
      · nofun

/-! ## Natural numbers -/

def withoutPlus : List Char → List Char
  | '+' :: rest => rest
  | cs => cs

@[simp] theorem withoutPlus_nil : withoutPlus [] = [] := rfl

/-- The text denotes the number: one or more digits, behind at most a `+`. -/
structure DenotesNatural (cs : List Char) (n : Nat) : Prop where
  filled : withoutPlus cs ≠ []
  digits : ∀ c ∈ withoutPlus cs, c.isDigit = true
  value : Nat.ofDigitChars 10 (withoutPlus cs) 0 = n

/-- Digits at the start of the text, behind at most a `+`, denote more than the limit. -/
def Overruns (limit : Nat) (cs : List Char) : Prop :=
  ∃ digits, digits <+: withoutPlus cs ∧ (∀ c ∈ digits, c.isDigit = true) ∧
    limit < Nat.ofDigitChars 10 digits 0

/-- What is wrong with a text that is no number up to the limit. -/
inductive Misses (limit : Nat) (cs : List Char) : Fault → Prop where
  | empty (h : cs = []) : Misses limit cs .empty
  | tooLarge (h : Overruns limit cs) : Misses limit cs .tooLarge
  | invalidDigit (filled : cs ≠ []) (other : ∀ n, ¬ DenotesNatural cs n)
      (within : ¬ Overruns limit cs) : Misses limit cs .invalidDigit

theorem DenotesNatural.unique {m : Nat} (h : DenotesNatural cs n) (h' : DenotesNatural cs m) :
    n = m := by
  rw [← h.value, h'.value]

theorem DenotesNatural.overruns (h : DenotesNatural cs n) (hover : limit < n) :
    Overruns limit cs := by
  refine ⟨withoutPlus cs, List.prefix_rfl, h.digits, ?_⟩
  rw [h.value]
  exact hover

theorem natural_eq (limit : Nat) (text : String) :
    natural limit text =
      if text.toList = [] then .error .empty
      else if withoutPlus text.toList = [] then .error .invalidDigit
      else readDigits limit 0 (withoutPlus text.toList) := by
  unfold natural withoutPlus
  generalize text.toList = cs
  rcases cs with _ | ⟨c, rest⟩
  · rfl
  · by_cases hplus : c = '+'
    · subst hplus
      cases rest <;> rfl
    · simp [hplus]

theorem natural_eq_ok_iff {text : String} : natural limit text = .ok n ↔
    DenotesNatural text.toList n ∧ n ≤ limit := by
  rw [natural_eq]
  split
  · rename_i hempty
    simp only [reduceCtorEq, false_iff]
    rintro ⟨⟨hfilled, -, -⟩, -⟩
    exact hfilled (by rw [hempty, withoutPlus_nil])
  · split
    · rename_i hnone
      simp only [reduceCtorEq, false_iff]
      rintro ⟨⟨hfilled, -, -⟩, -⟩
      exact hfilled hnone
    · rename_i hfilled
      rw [readDigits_eq_ok_iff (Nat.zero_le limit)]
      constructor
      · rintro ⟨hdigits, hvalue, hle⟩
        exact ⟨⟨hfilled, hdigits, hvalue⟩, hle⟩
      · rintro ⟨⟨-, hdigits, hvalue⟩, hle⟩
        exact ⟨hdigits, hvalue, hle⟩

theorem natural_eq_tooLarge_iff {text : String} : natural limit text = .error .tooLarge ↔
    Overruns limit text.toList := by
  have hnone : withoutPlus text.toList = [] → ¬ Overruns limit text.toList := by
    rintro hnone ⟨digits, hstart, -, hover⟩
    rw [hnone, List.prefix_nil] at hstart
    rw [hstart, Nat.ofDigitChars_nil] at hover
    omega
  rw [natural_eq]
  split
  · rename_i hempty
    simp only [Except.error.injEq, reduceCtorEq, false_iff]
    exact hnone (by rw [hempty, withoutPlus_nil])
  · split
    · rename_i hplus
      simp only [Except.error.injEq, reduceCtorEq, false_iff]
      exact hnone hplus
    · exact readDigits_eq_tooLarge_iff (Nat.zero_le limit)

theorem natural_eq_empty_iff {text : String} : natural limit text = .error .empty ↔
    text.toList = [] := by
  rw [natural_eq]
  split
  · rename_i hempty
    simp only [hempty]
  · rename_i hfilled
    split
    · simp only [Except.error.injEq, reduceCtorEq, hfilled]
    · simp only [readDigits_ne_empty, hfilled]

theorem natural_eq_error_iff {text : String} {fault : Fault} : natural limit text = .error fault ↔
    Misses limit text.toList fault := by
  constructor
  · intro h
    cases fault with
    | empty => exact .empty (natural_eq_empty_iff.mp h)
    | tooLarge => exact .tooLarge (natural_eq_tooLarge_iff.mp h)
    | invalidDigit =>
      refine .invalidDigit ?_ ?_ ?_
      · intro hempty
        rw [natural_eq_empty_iff.mpr hempty] at h
        cases h
      · intro n hn
        rcases Nat.lt_or_ge limit n with hover | hle
        · rw [natural_eq_tooLarge_iff.mpr (hn.overruns hover)] at h
          cases h
        · rw [natural_eq_ok_iff.mpr ⟨hn, hle⟩] at h
          cases h
      · intro hover
        rw [natural_eq_tooLarge_iff.mpr hover] at h
        cases h
  · intro h
    cases h with
    | empty h => exact natural_eq_empty_iff.mpr h
    | tooLarge h => exact natural_eq_tooLarge_iff.mpr h
    | invalidDigit filled other within =>
      cases hread : natural limit text with
      | ok n => exact absurd (natural_eq_ok_iff.mp hread).1 (other n)
      | error fault =>
        cases fault with
        | empty => exact absurd (natural_eq_empty_iff.mp hread) filled
        | tooLarge => exact absurd (natural_eq_tooLarge_iff.mp hread) within
        | invalidDigit => rfl

/-! ## Integers -/

/-- The text denotes the integer: one or more digits, behind at most one sign. -/
inductive Denotes : List Char → Int → Prop where
  | plain {digits : List Char} (filled : digits ≠ []) (h : ∀ c ∈ digits, c.isDigit = true) :
      Denotes digits (Nat.ofDigitChars 10 digits 0)
  | plus {digits : List Char} (filled : digits ≠ []) (h : ∀ c ∈ digits, c.isDigit = true) :
      Denotes ('+' :: digits) (Nat.ofDigitChars 10 digits 0)
  | minus {digits : List Char} (filled : digits ≠ []) (h : ∀ c ∈ digits, c.isDigit = true) :
      Denotes ('-' :: digits) (-(Nat.ofDigitChars 10 digits 0))

theorem Denotes.mem {c : Char} (h : Denotes cs i) (hc : c ∈ cs) :
    c.isDigit = true ∨ c = '+' ∨ c = '-' := by
  cases h with
  | plain _ hdigits => exact .inl (hdigits c hc)
  | plus _ hdigits =>
    rcases List.mem_cons.mp hc with rfl | hc
    · exact .inr (.inl rfl)
    · exact .inl (hdigits c hc)
  | minus _ hdigits =>
    rcases List.mem_cons.mp hc with rfl | hc
    · exact .inr (.inr rfl)
    · exact .inl (hdigits c hc)

theorem readSigned_iff {sign : Int → Int} :
    ((if digits = [] then none else (readDigits limit 0 digits).toOption) >>= fun n =>
      pure (n : Int)).map sign = some i ↔
    digits ≠ [] ∧ (∀ c ∈ digits, c.isDigit = true) ∧ Nat.ofDigitChars 10 digits 0 ≤ limit ∧
      sign (Nat.ofDigitChars 10 digits 0) = i := by
  by_cases hempty : digits = []
  · simp [hempty]
  cases hread : readDigits limit 0 digits with
  | ok n =>
    obtain ⟨hdigits, rfl, hle⟩ := (readDigits_eq_ok_iff (Nat.zero_le limit)).mp hread
    simp only [hempty, if_false, Except.toOption, Option.bind_eq_bind, Option.bind_some,
      Option.pure_def, Option.map_some, Option.some.injEq, ne_eq, not_false_eq_true, true_and]
    exact ⟨fun h => ⟨hdigits, hle, h⟩, fun h => h.2.2⟩
  | error fault =>
    simp only [hempty, if_false, Except.toOption, Option.bind_eq_bind, Option.bind_none,
      Option.map_none, reduceCtorEq, false_iff]
    rintro ⟨-, hdigits, hle, -⟩
    have hok := (readDigits_eq_ok_iff (Nat.zero_le limit)).mpr ⟨hdigits, rfl, hle⟩
    rw [hread] at hok
    cases hok

theorem integer?_eq_some_iff : integer? limit cs = some i ↔
    Denotes cs i ∧ -(limit + 1 : Int) ≤ i ∧ i ≤ limit := by
  unfold integer?
  constructor
  · intro h
    split at h <;> obtain ⟨hfilled, hdigits, hle, rfl⟩ := readSigned_iff.mp h
    · exact ⟨.minus hfilled hdigits, by omega, by omega⟩
    · exact ⟨.plus hfilled hdigits, by omega, by omega⟩
    · exact ⟨.plain hfilled hdigits, by omega, by omega⟩
  · rintro ⟨hdenotes, hlow, hhigh⟩
    cases hdenotes with
    | plain hfilled hdigits =>
      split
      · exact absurd (hdigits _ List.mem_cons_self) (by decide)
      · exact absurd (hdigits _ List.mem_cons_self) (by decide)
      · exact readSigned_iff.mpr ⟨hfilled, hdigits, by omega, rfl⟩
    | plus hfilled hdigits => exact readSigned_iff.mpr ⟨hfilled, hdigits, by omega, rfl⟩
    | minus hfilled hdigits => exact readSigned_iff.mpr ⟨hfilled, hdigits, by omega, rfl⟩

theorem denotes_toString (i : Int) : Denotes (toString i).toList i := by
  have hdigits : ∀ m : Nat, m.repr.toList ≠ [] ∧ (∀ c ∈ m.repr.toList, c.isDigit = true) ∧
      Nat.ofDigitChars 10 m.repr.toList 0 = m := by
    intro m
    rw [Nat.toList_repr]
    exact ⟨Nat.toDigits_ne_nil, fun c hc => Nat.isDigit_of_mem_toDigits (by decide) (by decide) hc,
      Nat.ofDigitChars_ten_toDigits⟩
  cases i with
  | ofNat m =>
    obtain ⟨hfilled, hall, hvalue⟩ := hdigits m
    have hdenotes := Denotes.plain hfilled hall
    rwa [hvalue] at hdenotes
  | negSucc m =>
    obtain ⟨hfilled, hall, hvalue⟩ := hdigits m.succ
    have hdenotes := Denotes.minus hfilled hall
    have htext : (toString (Int.negSucc m)).toList = '-' :: m.succ.repr.toList := by
      change ("-" ++ m.succ.repr).toList = _
      simp
    rw [hvalue] at hdenotes
    rw [htext]
    exact hdenotes

theorem integer?_toString (hlow : -(limit + 1 : Int) ≤ i) (hhigh : i ≤ limit) :
    integer? limit (toString i).toList = some i :=
  integer?_eq_some_iff.mpr ⟨denotes_toString i, hlow, hhigh⟩

theorem int32?_toString (n : Int32) : int32? (toString n.toInt) = some n := by
  have hlow := n.le_toInt
  have hhigh := n.toInt_lt
  rw [int32?, integer?_toString (by omega) (by omega), Option.map_some, Int32.ofInt_toInt]

theorem int32?_toInt_eq_some_iff {text : String} : (int32? text).map Int32.toInt = some i ↔
    Denotes text.toList i ∧ -2147483648 ≤ i ∧ i ≤ 2147483647 := by
  rw [int32?, Option.map_map, Option.map_eq_some_iff]
  constructor
  · rintro ⟨j, hj, rfl⟩
    obtain ⟨hdenotes, hlow, hhigh⟩ := integer?_eq_some_iff.mp hj
    rw [Function.comp_apply, Int32.toInt_ofInt_of_le (by omega) (by omega)]
    exact ⟨hdenotes, by omega, by omega⟩
  · rintro ⟨hdenotes, hlow, hhigh⟩
    exact ⟨i, integer?_eq_some_iff.mpr ⟨hdenotes, by omega, by omega⟩,
      Int32.toInt_ofInt_of_le (by omega) (by omega)⟩

end OdooKeeper.Decimal
