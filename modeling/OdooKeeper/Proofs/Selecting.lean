import OdooKeeper.Proofs.Modules
import OdooKeeper.Proofs.Trimming
import OdooKeeper.Store.Selector

/-! # Selectors, written and read

A selector is read as the labels that it was written for, whatever blanks and empty segments stand
around them. Every label that is read from a selector can be written in one. -/

namespace OdooKeeper

/-! ## Cutting -/

namespace Text

variable {sep : Char} {cs core key value text : List Char}

theorem cutAt?_append (h : sep ∉ key) (value : List Char) :
    cutAt? sep (key ++ sep :: value) = some (key, value) := by
  induction key with
  | nil => simp [cutAt?]
  | cons c rest ih =>
    rw [List.mem_cons, not_or] at h
    rw [List.cons_append, cutAt?, if_neg (Ne.symm h.1), ih h.2]
    rfl

theorem cutAt?_eq_none (h : sep ∉ cs) : cutAt? sep cs = none := by
  induction cs with
  | nil => rfl
  | cons c rest ih =>
    rw [List.mem_cons, not_or] at h
    rw [cutAt?, if_neg (Ne.symm h.1), ih h.2]
    rfl

theorem cutAt?_eq_some_iff :
    cutAt? sep cs = some (key, value) ↔ cs = key ++ sep :: value ∧ sep ∉ key := by
  constructor
  · intro h
    by_cases hsep : sep ∈ cs
    · obtain ⟨before, after, rfl, hbefore⟩ := List.eq_append_cons_of_mem hsep
      rw [cutAt?_append hbefore] at h
      cases h
      exact ⟨rfl, hbefore⟩
    · rw [cutAt?_eq_none hsep] at h
      cases h
  · rintro ⟨rfl, hkey⟩
    exact cutAt?_append hkey value

theorem not_mem_of_blank {c : Char} (hc : isBlank c = false) (h : ∀ d ∈ cs, isBlank d = true) :
    c ∉ cs := by
  intro hmem
  rw [h c hmem] at hc
  cases hc

theorem Padded.mem_iff {c : Char} (h : Padded core text) (hc : isBlank c = false) :
    c ∈ text ↔ c ∈ core := by
  obtain ⟨before, after, rfl, hbefore, hafter⟩ := h
  simp [not_mem_of_blank hc hbefore, not_mem_of_blank hc hafter]

theorem Padded.cutAt? (h : Padded core text) (hsep : isBlank sep = false) :
    (cutAt? sep core).map (fun parts => (trimChars parts.1, trimChars parts.2)) =
      (cutAt? sep text).map fun parts => (trimChars parts.1, trimChars parts.2) := by
  by_cases hmem : sep ∈ core
  · obtain ⟨key, value, rfl, hkey⟩ := List.eq_append_cons_of_mem hmem
    obtain ⟨before, after, rfl, hbefore, hafter⟩ := h
    have hcut : before ++ (key ++ sep :: value) ++ after =
        (before ++ key) ++ sep :: (value ++ after) := by simp
    have hbefore' : sep ∉ before ++ key := by simp [not_mem_of_blank hsep hbefore, hkey]
    have hpadded : Padded key (before ++ key) := ⟨before, [], by simp, hbefore, by simp⟩
    have hpadded' : Padded value (value ++ after) := ⟨[], after, by simp, by simp, hafter⟩
    rw [hcut, cutAt?_append hkey, cutAt?_append hbefore', Option.map_some, Option.map_some,
      hpadded.trimChars_eq, hpadded'.trimChars_eq]
  · rw [cutAt?_eq_none hmem, cutAt?_eq_none fun htext => hmem ((h.mem_iff hsep).mp htext)]

end Text

namespace Selector

variable {segment : String} {label : String × String} {segments : List String}
  {labels : List (String × String)}

/-! ## One label -/

/-- The segment is the key and the value of the label with `=` between them, and with any blanks at
both ends of each. -/
def Writes (segment : String) (label : String × String) : Prop :=
  ∃ key value, segment.toList = key ++ '=' :: value ∧ Text.Padded label.1.toList key ∧
    Text.Padded label.2.toList value

/-- A selector can ask for the label: no part has a comma, or a blank at an end, and the key has
no `=`. -/
structure Selectable (label : String × String) : Prop where
  key : Text.Trimmed label.1.toList
  value : Text.Trimmed label.2.toList
  keyComma : ',' ∉ label.1.toList
  valueComma : ',' ∉ label.2.toList
  equals : '=' ∉ label.1.toList

theorem selectable_iff : Selectable label ↔ Text.Trimmed label.1.toList ∧
    Text.Trimmed label.2.toList ∧ ',' ∉ label.1.toList ∧ ',' ∉ label.2.toList ∧
      '=' ∉ label.1.toList :=
  ⟨fun ⟨key, value, keyComma, valueComma, equals⟩ => ⟨key, value, keyComma, valueComma, equals⟩,
    fun ⟨key, value, keyComma, valueComma, equals⟩ => ⟨key, value, keyComma, valueComma, equals⟩⟩

instance (label : String × String) : Decidable (Selectable label) :=
  decidable_of_iff _ selectable_iff.symm

theorem labelOf?_eq (segment : List Char) : labelOf? segment =
    (Text.cutAt? '=' segment).map fun parts =>
      (String.ofList (Text.trimChars parts.1), String.ofList (Text.trimChars parts.2)) := by
  have hcut := congrArg (Option.map fun parts => (String.ofList parts.1, String.ofList parts.2))
    ((Text.padded_trimChars segment).cutAt? (show Text.isBlank '=' = false by decide))
  rwa [Option.map_map, Option.map_map] at hcut

theorem labelOf?_eq_some_iff : labelOf? segment.toList = some label ↔
    Writes segment label ∧ Text.Trimmed label.1.toList ∧ Text.Trimmed label.2.toList ∧
      '=' ∉ label.1.toList := by
  obtain ⟨key, value⟩ := label
  rw [labelOf?_eq, Option.map_eq_some_iff]
  constructor
  · rintro ⟨⟨before, after⟩, hcut, hlabel⟩
    obtain ⟨hsegment, hequals⟩ := Text.cutAt?_eq_some_iff.mp hcut
    cases hlabel
    simp only [String.toList_ofList]
    refine ⟨⟨before, after, hsegment, ?_, ?_⟩, Text.trimmed_trimChars _,
      Text.trimmed_trimChars _, ?_⟩
    · rw [String.toList_ofList]
      exact Text.padded_trimChars before
    · rw [String.toList_ofList]
      exact Text.padded_trimChars after
    · rwa [← (Text.padded_trimChars before).mem_iff (by decide)]
  · rintro ⟨⟨before, after, hsegment, hkey, hvalue⟩, hkey', hvalue', hequals⟩
    refine ⟨(before, after), Text.cutAt?_eq_some_iff.mpr ⟨hsegment, ?_⟩, ?_⟩
    · rwa [hkey.mem_iff (by decide)]
    · rw [Text.trimChars_eq_iff.mpr ⟨hkey, hkey'⟩, Text.trimChars_eq_iff.mpr ⟨hvalue, hvalue'⟩,
        String.ofList_toList, String.ofList_toList]

/-! ## All labels -/

/-- The segments write the labels one after another, with any blank segments among them. -/
inductive Spells : List String → List (String × String) → Prop where
  | nil : Spells [] []
  | blank {segment : String} {segments : List String} {labels : List (String × String)}
      (blank : ∀ c ∈ segment.toList, Text.isBlank c = true) (rest : Spells segments labels) :
      Spells (segment :: segments) labels
  | label {segment : String} {segments : List String} {label : String × String}
      {labels : List (String × String)} (writes : Writes segment label)
      (rest : Spells segments labels) : Spells (segment :: segments) (label :: labels)

theorem Writes.comma (h : Writes segment label) (hlabel : Selectable label) :
    ',' ∉ segment.toList := by
  obtain ⟨key, value, hsegment, hkey, hvalue⟩ := h
  rw [hsegment, List.mem_append, List.mem_cons, hkey.mem_iff (by decide),
    hvalue.mem_iff (by decide)]
  simp [hlabel.keyComma, hlabel.valueComma]

theorem Spells.comma (h : Spells segments labels) (hlabels : ∀ label ∈ labels, Selectable label) :
    ∀ segment ∈ segments, ',' ∉ segment.toList := by
  induction h with
  | nil => simp
  | blank hblank rest ih =>
    exact List.forall_mem_cons.mpr ⟨Text.not_mem_of_blank (by decide) hblank, ih hlabels⟩
  | label writes rest ih =>
    obtain ⟨hlabel, hlabels⟩ := List.forall_mem_cons.mp hlabels
    exact List.forall_mem_cons.mpr ⟨writes.comma hlabel, ih hlabels⟩

theorem Spells.filterMap_labelOf? (h : Spells segments labels) (hlabels : ∀ label ∈ labels, Selectable label) :
    (segments.map String.toList).filterMap labelOf? = labels := by
  induction h with
  | nil => rfl
  | blank hblank rest ih =>
    have hnone := Text.cutAt?_eq_none (Text.not_mem_of_blank (c := '=') (by decide) hblank)
    rw [List.map_cons, List.filterMap_cons, labelOf?_eq, hnone]
    exact ih hlabels
  | label writes rest ih =>
    obtain ⟨hlabel, hlabels⟩ := List.forall_mem_cons.mp hlabels
    have hsome := labelOf?_eq_some_iff.mpr ⟨writes, hlabel.key, hlabel.value, hlabel.equals⟩
    rw [List.map_cons, List.filterMap_cons, hsome]
    exact congrArg _ (ih hlabels)

theorem parse_of_spells (h : Spells segments labels)
    (hlabels : ∀ label ∈ labels, Selectable label) : parse (",".intercalate segments) = labels := by
  have hcomma : ",".toList = [','] := by decide
  rw [parse, String.toList_intercalate, hcomma]
  by_cases hnil : segments = []
  · subst hnil
    cases h
    decide
  · have hpieces : Text.segmentsOf ',' ([','].intercalate (segments.map String.toList)) =
        segments.map String.toList := by
      refine Text.segmentsOf_intercalate (by simpa using hnil) fun piece hpiece => ?_
      obtain ⟨segment, hsegment, rfl⟩ := List.mem_map.mp hpiece
      exact h.comma hlabels segment hsegment
    rw [hpieces, h.filterMap_labelOf? hlabels]

theorem selectable_of_mem_parse {selector : String} (h : label ∈ parse selector) :
    Selectable label := by
  obtain ⟨piece, hpiece, hlabel⟩ := List.mem_filterMap.mp h
  have hcomma : ',' ∉ piece := Text.sep_not_mem_segmentsOf hpiece
  rw [← String.toList_ofList (l := piece)] at hcomma hlabel
  obtain ⟨⟨key, value, hsegment, hkey, hvalue⟩, hkey', hvalue', hequals⟩ :=
    labelOf?_eq_some_iff.mp hlabel
  rw [hsegment, List.mem_append, List.mem_cons, hkey.mem_iff (by decide),
    hvalue.mem_iff (by decide), not_or, not_or] at hcomma
  exact ⟨hkey', hvalue', hcomma.1, hcomma.2.2, hequals⟩

/-- Segments that spell labels, joined with commas, are read as these labels, if a selector can ask
for them. Of other labels no text is read. -/
theorem parse_exact :
    (∀ segments labels, Spells segments labels → (∀ label ∈ labels, Selectable label) →
      parse (",".intercalate segments) = labels) ∧
    ∀ selector, ∀ label ∈ parse selector, Selectable label :=
  ⟨fun _ _ => parse_of_spells, fun _ _ => selectable_of_mem_parse⟩

theorem parse_exact_spaced :
    Spells [" a = 1 ", "\t", "b=x=y", "="] [("a", "1"), ("b", "x=y"), ("", "")] ∧
      (∀ label ∈ [("a", "1"), ("b", "x=y"), ("", "")], Selectable label) ∧
      parse (",".intercalate [" a = 1 ", "\t", "b=x=y", "="]) =
        [("a", "1"), ("b", "x=y"), ("", "")] := by
  have hblank : ∀ c ∈ [' '], Text.isBlank c = true := List.all_eq_true.mp (by decide)
  have hspaced : Writes " a = 1 " ("a", "1") :=
    ⟨" a ".toList, " 1 ".toList, by decide, ⟨[' '], [' '], by decide, hblank, hblank⟩,
      ⟨[' '], [' '], by decide, hblank, hblank⟩⟩
  have hequals : Writes "b=x=y" ("b", "x=y") :=
    ⟨"b".toList, "x=y".toList, by decide, .refl _, .refl _⟩
  have hempty : Writes "=" ("", "") := ⟨[], [], by decide, .refl _, .refl _⟩
  have hspells : Spells [" a = 1 ", "\t", "b=x=y", "="] [("a", "1"), ("b", "x=y"), ("", "")] :=
    .label hspaced (.blank (List.all_eq_true.mp (by decide)) (.label hequals (.label hempty .nil)))
  have hlabels : ∀ label ∈ [("a", "1"), ("b", "x=y"), ("", "")], Selectable label := by decide
  exact ⟨hspells, hlabels, parse_exact.1 _ _ hspells hlabels⟩

end Selector

end OdooKeeper
