import Mathlib.Data.List.DropRight
import OdooKeeper.Connection
import OdooKeeper.Proofs.Numerals

/-! # Texts between blanks

Trimming a text takes away the blanks at both ends and nothing else. So a secret holds an integer
exactly when its text is one, written in digits with at most a sign, between any blanks. It holds a
boolean exactly when its text is one of few words between any blanks. -/

namespace OdooKeeper

/-! ## Blanks at the ends -/

namespace Text

variable {core text : List Char}

/-- The text is the core with blanks on both sides, if any. -/
def Padded (core text : List Char) : Prop :=
  ∃ before after, text = before ++ core ++ after ∧
    (∀ c ∈ before, isBlank c = true) ∧ ∀ c ∈ after, isBlank c = true

/-- The text has no blank at either end. -/
structure Trimmed (text : List Char) : Prop where
  first : ∀ c, text.head? = some c → isBlank c = false
  last : ∀ c, text.getLast? = some c → isBlank c = false

theorem Padded.refl (text : List Char) : Padded text text := ⟨[], [], by simp⟩

theorem trimChars_eq_rdropWhile (text : List Char) :
    trimChars text = (text.dropWhile isBlank).rdropWhile isBlank := rfl

theorem trimmed_trimChars (text : List Char) : Trimmed (trimChars text) := by
  rw [trimChars_eq_rdropWhile]
  refine ⟨fun c hc => ?_, fun c hc => ?_⟩
  · obtain ⟨rest, hrest⟩ := List.rdropWhile_prefix isBlank (text.dropWhile isBlank)
    have hfirst : (text.dropWhile isBlank).head? = some c := by
      rw [← hrest, List.head?_append, hc, Option.some_or]
    have hstop := List.head?_dropWhile_not isBlank text
    rwa [hfirst] at hstop
  · have hne : (text.dropWhile isBlank).rdropWhile isBlank ≠ [] := by
      intro hnil
      rw [hnil] at hc
      cases hc
    obtain rfl := Option.some.inj ((List.getLast?_eq_getLast_of_ne_nil hne).symm.trans hc)
    exact Bool.eq_false_iff.mpr (List.rdropWhile_last_not isBlank _ hne)

theorem padded_trimChars (text : List Char) : Padded (trimChars text) text := by
  refine ⟨text.takeWhile isBlank, (text.dropWhile isBlank).rtakeWhile isBlank, ?_,
    fun c hc => List.mem_takeWhile_imp hc, fun c hc => List.mem_rtakeWhile_imp hc⟩
  rw [trimChars_eq_rdropWhile, List.append_assoc, List.rdropWhile_append_rtakeWhile,
    List.takeWhile_append_dropWhile]

theorem Trimmed.trimChars_eq (h : Trimmed text) : trimChars text = text := by
  have hfirst : text.dropWhile isBlank = text := by
    cases text with
    | nil => rfl
    | cons c rest => exact List.dropWhile_cons_of_neg (Bool.eq_false_iff.mp (h.first c rfl))
  rw [trimChars_eq_rdropWhile, hfirst, List.rdropWhile_eq_self_iff]
  intro hne
  exact Bool.eq_false_iff.mp (h.last _ (List.getLast?_eq_getLast_of_ne_nil hne))

theorem Padded.trimChars_eq (h : Padded core text) : trimChars text = trimChars core := by
  obtain ⟨before, after, rfl, hbefore, hafter⟩ := h
  have hdrop : trimChars (before ++ core ++ after) =
      ((core ++ after).dropWhile isBlank).rdropWhile isBlank := by
    rw [trimChars_eq_rdropWhile, List.append_assoc, List.dropWhile_append_of_pos hbefore]
  rw [hdrop, List.dropWhile_append]
  split
  · -- The core is blank, so nothing is left on either side.
    rename_i hblank
    rw [List.isEmpty_iff] at hblank
    rw [List.dropWhile_eq_nil_iff.mpr hafter, trimChars_eq_rdropWhile, hblank]
  · rw [List.rdropWhile, List.reverse_append, List.dropWhile_append_of_pos fun c hc =>
      hafter c (List.mem_reverse.mp hc)]
    rfl

/-- Trimming leaves the core that has no blank at either end, and there is only one. -/
theorem trimChars_eq_iff : trimChars text = core ↔ Padded core text ∧ Trimmed core := by
  constructor
  · rintro rfl
    exact ⟨padded_trimChars text, trimmed_trimChars text⟩
  · rintro ⟨hpadded, htrimmed⟩
    rw [hpadded.trimChars_eq, htrimmed.trimChars_eq]

theorem trimmed_iff : Trimmed text ↔ trimChars text = text :=
  ⟨Trimmed.trimChars_eq, fun h => h ▸ trimmed_trimChars text⟩

instance (text : List Char) : Decidable (Trimmed text) := decidable_of_iff _ trimmed_iff.symm

end Text

/-! ## Integers -/

theorem Decimal.Denotes.trimmed {number : List Char} {i : Int} (h : Denotes number i) :
    Text.Trimmed number := by
  have hsolid : ∀ c ∈ number, Text.isBlank c = false := by
    intro c hc
    rcases h.mem hc with hdigit | rfl | rfl
    · rw [Char.isDigit, Bool.and_eq_true, decide_eq_true_eq, decide_eq_true_eq] at hdigit
      have hlow : 48 ≤ c.toNat := hdigit.1
      have hhigh : c.toNat ≤ 57 := hdigit.2
      unfold Text.isBlank
      grind
    · decide
    · decide
  exact ⟨fun c hc => hsolid c (List.mem_of_mem_head? hc),
    fun c hc => hsolid c (List.mem_of_mem_getLast? hc)⟩

namespace ValueForm

variable {raw : String}

theorem int32_parse_eq_iff {i : Int} : (int32.parse raw).map Int32.toInt = some i ↔
    (∃ number, Text.Padded number raw.toList ∧ Decimal.Denotes number i) ∧
      -2147483648 ≤ i ∧ i ≤ 2147483647 := by
  simp only [int32, Decimal.int32?_toInt_eq_some_iff, Text.trim, String.toList_ofList]
  constructor
  · rintro ⟨hdenotes, hrange⟩
    exact ⟨⟨_, Text.padded_trimChars _, hdenotes⟩, hrange⟩
  · rintro ⟨⟨number, hpadded, hdenotes⟩, hrange⟩
    rw [Text.trimChars_eq_iff.mpr ⟨hpadded, hdenotes.trimmed⟩]
    exact ⟨hdenotes, hrange⟩

theorem int32_parse_eq_some_iff {n : Int32} : int32.parse raw = some n ↔
    ∃ number, Text.Padded number raw.toList ∧ Decimal.Denotes number n.toInt := by
  have hlow := n.le_toInt
  have hhigh := n.toInt_lt
  have hinj : Function.Injective Int32.toInt := fun _ _ => Int32.toInt_inj.mp
  rw [← (Option.map_injective hinj).eq_iff, Option.map_some, int32_parse_eq_iff]
  exact and_iff_left ⟨by omega, by omega⟩

theorem int32_parse_padded {n : Int32} (h : Text.Padded (toString n.toInt).toList raw.toList) :
    int32.parse raw = some n :=
  int32_parse_eq_some_iff.mpr ⟨_, h, Decimal.denotes_toString n.toInt⟩

/-- A secret holds an integer of 32 bits exactly when its text, between blanks, is one or more
digits behind at most one sign that denote it. -/
theorem int32_exact (raw : String) :
    (∀ i : Int, (int32.parse raw).map Int32.toInt = some i ↔
      (∃ number, Text.Padded number raw.toList ∧ Decimal.Denotes number i) ∧
        -2147483648 ≤ i ∧ i ≤ 2147483647) ∧
    ∀ n : Int32, Text.Padded (toString n.toInt).toList raw.toList → int32.parse raw = some n :=
  ⟨fun _ => int32_parse_eq_iff, fun _ => int32_parse_padded⟩

example : int32.parse " +0005432\n" = some 5432 ∧ int32.parse "2147483648" = none := by
  decide +kernel

theorem int32_exact_lowest :
    Text.Padded (toString Int32.minValue.toInt).toList "\u2003-2147483648\r\n".toList ∧
      int32.parse "\u2003-2147483648\r\n" = some Int32.minValue := by
  have hpadded :
      Text.Padded (toString Int32.minValue.toInt).toList "\u2003-2147483648\r\n".toList :=
    ⟨['\u2003'], ['\r', '\n'], by decide +kernel, List.all_eq_true.mp (by decide),
      List.all_eq_true.mp (by decide)⟩
  exact ⟨hpadded, (int32_exact _).2 _ hpadded⟩

/-! ## Booleans -/

/-- The first letter of the name of a boolean, and the others. -/
def boolName : Bool → Char × List Char
  | true => ('t', ['r', 'u', 'e'])
  | false => ('f', ['a', 'l', 's', 'e'])

/-- A boolean is written as its digit, its name or the first letter of that. The name and the letter
may be in capitals, and the name may start with one. -/
inductive BoolWord (b : Bool) : List Char → Prop where
  | digit : BoolWord b [if b then '1' else '0']
  | letter : BoolWord b [(boolName b).1]
  | capital : BoolWord b [(boolName b).1.toUpper]
  | name : BoolWord b ((boolName b).1 :: (boolName b).2)
  | capitalized : BoolWord b ((boolName b).1.toUpper :: (boolName b).2)
  | capitals : BoolWord b (((boolName b).1 :: (boolName b).2).map Char.toUpper)

variable {b : Bool} {word : List Char}

theorem BoolWord.trimmed (h : BoolWord b word) : Text.Trimmed word := by
  cases b <;> cases h <;> decide

theorem boolWord_iff : BoolWord b word ↔ String.ofList word ∈ if b then trueWords else falseWords := by
  constructor
  · intro h
    cases b <;> cases h <;> decide
  · intro h
    have hword : word ∈ (if b then trueWords else falseWords).map String.toList :=
      List.mem_map.mpr ⟨_, h, String.toList_ofList⟩
    cases b <;>
      simp only [Bool.false_eq_true, if_false, if_true, falseWords, trueWords, List.map_cons,
        List.map_nil, List.mem_cons, List.not_mem_nil, or_false] at hword <;>
      rcases hword with rfl | rfl | rfl | rfl | rfl | rfl
    all_goals
      first | exact .digit | exact .letter | exact .capital | exact .capitals | exact .name |
        exact .capitalized

theorem bool_parse_eq_iff : bool.parse raw = some b ↔
    ∃ word, Text.Padded word raw.toList ∧ BoolWord b word := by
  have hapart : ∀ word ∈ trueWords, word ∉ falseWords := by decide
  have hparse : bool.parse raw = some b ↔
      Text.trim raw ∈ if b then trueWords else falseWords := by
    simp only [bool]
    cases b <;> grind
  rw [hparse, Text.trim, ← boolWord_iff]
  constructor
  · intro hword
    exact ⟨_, Text.padded_trimChars _, hword⟩
  · rintro ⟨word, hpadded, hword⟩
    rwa [Text.trimChars_eq_iff.mpr ⟨hpadded, hword.trimmed⟩]

end ValueForm

end OdooKeeper
