import Mathlib.Algebra.Group.Nat.Defs
import OdooKeeper.Proofs.Execution
import OdooKeeper.Proofs.Numerals
import OdooKeeper.Settings

/-! # Settings from variables

Each setting is read from a variable of its own. The variables are read in a fixed order, and the
first one whose value has another form than it should have decides on the flaw. -/

namespace OdooKeeper

namespace Settings

/-! ## Variables and their forms -/

inductive Variable where
  | ns
  | concurrency
  | requeueTransient
  | requeueJobPoll
  | resync
  | gateWorkload
  | logLevel
  | logFormat

inductive Form where
  | text
  | number (limit : Nat)
  | truth
  | logFormat

namespace Variable

def name : Variable → String
  | .ns => "ODOO_OPERATOR_NAMESPACE"
  | .concurrency => "ODOO_OPERATOR_CONCURRENCY"
  | .requeueTransient => "ODOO_OPERATOR_REQUEUE_SECS"
  | .requeueJobPoll => "ODOO_OPERATOR_JOB_POLL_SECS"
  | .resync => "ODOO_OPERATOR_RESYNC_SECS"
  | .gateWorkload => "ODOO_OPERATOR_GATE_WORKLOAD"
  | .logLevel => "ODOO_OPERATOR_LOG_LEVEL"
  | .logFormat => "ODOO_OPERATOR_LOG_FORMAT"

def inOrder : List Variable :=
  [.ns, .concurrency, .requeueTransient, .requeueJobPoll, .resync, .gateWorkload, .logLevel,
    .logFormat]

theorem mem_inOrder (v : Variable) : v ∈ inOrder := by
  cases v <;> simp [inOrder]

def form : Variable → Form
  | .ns | .logLevel => .text
  | .concurrency => .number (2 ^ 16 - 1)
  | .requeueTransient | .requeueJobPoll | .resync => .number (2 ^ 64 - 1)
  | .gateWorkload => .truth
  | .logFormat => .logFormat

def value? (lookup : String → Option String) (v : Variable) : Option String := given? lookup v.name

end Variable

def formatWords : LogFormat → List String
  | .compact => ["compact", "text", "auto"]
  | .json => ["json"]

namespace Form

def Accepts (raw : String) : Form → Prop
  | .text => True
  | .number limit => ∃ n, Decimal.DenotesNatural (Text.trim raw).toList n ∧ n ≤ limit
  | .truth => Text.trim raw = "true" ∨ Text.trim raw = "false"
  | .logFormat => ∃ format, Text.lowerAscii (Text.trim raw) ∈ formatWords format

/-- The flaw that a value of another form leads to. -/
def Blames (name raw : String) : Form → Flaw → Prop
  | .text, _ => False
  | .number limit, flaw => ∃ fault, Decimal.Misses limit (Text.trim raw).toList fault ∧
      flaw = .number name raw fault
  | .truth, flaw => ¬ truth.Accepts raw ∧ flaw = .truth name raw
  | .logFormat, flaw => ¬ logFormat.Accepts raw ∧
      flaw = .logFormat (Text.lowerAscii (Text.trim raw))

end Form

/-! ## What the settings are -/

def NumberFor (limit default : Nat) : Option String → Nat → Prop
  | none, n => n = default
  | some raw, n => Decimal.DenotesNatural (Text.trim raw).toList n ∧ n ≤ limit

def TruthFor (default : Bool) : Option String → Bool → Prop
  | none, b => b = default
  | some raw, b => Text.trim raw = if b then "true" else "false"

def FormatFor : Option String → LogFormat → Prop
  | none, format => format = .compact
  | some raw, format => Text.lowerAscii (Text.trim raw) ∈ formatWords format

/-- Each setting is what its variable says, or its default when that is not given. -/
structure Reads (lookup : String → Option String) (s : Settings) : Prop where
  ns : s.ns = (Variable.ns.value? lookup).map Text.trim
  concurrency : NumberFor (2 ^ 16 - 1) 2 (Variable.concurrency.value? lookup) s.concurrency
  requeueTransient :
    NumberFor (2 ^ 64 - 1) 15 (Variable.requeueTransient.value? lookup) s.pass.requeueTransient
  requeueJobPoll :
    NumberFor (2 ^ 64 - 1) 30 (Variable.requeueJobPoll.value? lookup) s.pass.requeueJobPoll
  resync : NumberFor (2 ^ 64 - 1) 300 (Variable.resync.value? lookup) s.resync
  gateWorkload : TruthFor true (Variable.gateWorkload.value? lookup) s.pass.gateWorkload
  logLevel : s.logLevel = ((Variable.logLevel.value? lookup).map Text.trim).getD "info"
  logFormat : FormatFor (Variable.logFormat.value? lookup) s.logFormat

/-- The settings agree on what the variable says. -/
def Variable.Agrees (s s' : Settings) : Variable → Prop
  | .ns => s.ns = s'.ns
  | .concurrency => s.concurrency = s'.concurrency
  | .requeueTransient => s.pass.requeueTransient = s'.pass.requeueTransient
  | .requeueJobPoll => s.pass.requeueJobPoll = s'.pass.requeueJobPoll
  | .resync => s.resync = s'.resync
  | .gateWorkload => s.pass.gateWorkload = s'.pass.gateWorkload
  | .logLevel => s.logLevel = s'.logLevel
  | .logFormat => s.logFormat = s'.logFormat

/-! ## One variable -/

variable {lookup other : String → Option String} {name raw : String} {limit default n : Nat}
  {flaw : Flaw} {s s' : Settings}

theorem numberOr_eq_ok_iff : numberOr lookup name limit default = .ok n ↔
    NumberFor limit default (given? lookup name) n := by
  unfold numberOr
  cases given? lookup name with
  | none => simp [NumberFor, eq_comm]
  | some raw =>
    simp only [NumberFor, Except.mapError_eq_ok_iff]
    exact Decimal.natural_eq_ok_iff

theorem numberOr_eq_error_iff : numberOr lookup name limit default = .error flaw ↔
    ∃ raw ∈ given? lookup name, (Form.number limit).Blames name raw flaw := by
  unfold numberOr
  cases given? lookup name with
  | none => simp
  | some raw =>
    simp only [Option.mem_some_iff, exists_eq_left', Form.Blames, ← Decimal.natural_eq_error_iff]
    exact Except.mapError_eq_error_iff

theorem truthOr_eq_ok_iff {default b : Bool} : truthOr lookup name default = .ok b ↔
    TruthFor default (given? lookup name) b := by
  unfold truthOr
  cases given? lookup name with
  | none => simp [TruthFor, eq_comm]
  | some raw =>
    simp only [TruthFor]
    split
    · rename_i htrue
      cases b <;> simp [htrue]
    · rename_i htrue
      split
      · rename_i hfalse
        cases b <;> simp [hfalse]
      · rename_i hfalse
        cases b <;> simp [htrue, hfalse]

theorem truthOr_eq_error_iff {default : Bool} : truthOr lookup name default = .error flaw ↔
    ∃ raw ∈ given? lookup name, Form.truth.Blames name raw flaw := by
  unfold truthOr
  cases given? lookup name with
  | none => simp
  | some raw =>
    simp only [Option.mem_some_iff, exists_eq_left', Form.Blames, Form.Accepts, not_or]
    split
    · rename_i htrue
      simp [htrue]
    · rename_i htrue
      split
      · rename_i hfalse
        simp [hfalse]
      · rename_i hfalse
        simp only [htrue, hfalse, not_false_eq_true, and_self, true_and, Except.error.injEq]
        exact eq_comm

theorem formatWords_disjoint {word : String} {format format' : LogFormat}
    (h : word ∈ formatWords format) (h' : word ∈ formatWords format') : format = format' := by
  have hapart : ∀ w ∈ formatWords .compact, w ∉ formatWords .json := by decide
  cases format <;> cases format'
  · rfl
  · exact absurd h' (hapart word h)
  · exact absurd h (hapart word h')
  · rfl

theorem readLogFormat_cases (raw : String) :
    (∃ format, Text.lowerAscii (Text.trim raw) ∈ formatWords format ∧
      readLogFormat raw = .ok format) ∨
    (¬ Form.logFormat.Accepts raw ∧
      readLogFormat raw = .error (.logFormat (Text.lowerAscii (Text.trim raw)))) := by
  unfold readLogFormat Form.Accepts
  generalize Text.lowerAscii (Text.trim raw) = word
  simp only
  split
  · rename_i hcompact
    exact .inl ⟨.compact, by simpa [formatWords] using hcompact, rfl⟩
  · rename_i hcompact
    split
    · rename_i hjson
      exact .inl ⟨.json, by simpa [formatWords] using hjson, rfl⟩
    · rename_i hjson
      refine .inr ⟨?_, rfl⟩
      rintro ⟨format, hformat⟩
      cases format with
      | compact => exact hcompact (by simpa [formatWords] using hformat)
      | json => exact hjson (by simpa [formatWords] using hformat)

theorem readLogFormat_eq_ok_iff {format : LogFormat} : readLogFormat raw = .ok format ↔
    Text.lowerAscii (Text.trim raw) ∈ formatWords format := by
  rcases readLogFormat_cases raw with ⟨format', hword, hread⟩ | ⟨hnone, hread⟩
  · rw [hread, Except.ok.injEq]
    constructor
    · rintro rfl
      exact hword
    · exact formatWords_disjoint hword
  · rw [hread]
    simp only [reduceCtorEq, false_iff]
    intro hword
    exact hnone ⟨format, hword⟩

theorem readLogFormat_eq_error_iff : readLogFormat raw = .error flaw ↔
    Form.logFormat.Blames name raw flaw := by
  rcases readLogFormat_cases raw with ⟨format, hword, hread⟩ | ⟨hnone, hread⟩
  · rw [hread]
    simp only [reduceCtorEq, false_iff]
    rintro ⟨hnone, -⟩
    exact hnone ⟨format, hword⟩
  · rw [hread, Except.error.injEq, Form.Blames]
    simp only [hnone, not_false_eq_true, true_and]
    exact eq_comm

/-- The log format of a variable, or the compact one when the variable is not given. -/
def logFormatOr (lookup : String → Option String) (name : String) : Except Flaw LogFormat :=
  match given? lookup name with
  | none => .ok .compact
  | some raw => readLogFormat raw

theorem logFormatOr_eq_ok_iff {format : LogFormat} : logFormatOr lookup name = .ok format ↔
    FormatFor (given? lookup name) format := by
  unfold logFormatOr
  cases given? lookup name with
  | none => simp [FormatFor, eq_comm]
  | some raw => exact readLogFormat_eq_ok_iff

theorem logFormatOr_eq_error_iff : logFormatOr lookup name = .error flaw ↔
    ∃ raw ∈ given? lookup name, Form.logFormat.Blames name raw flaw := by
  unfold logFormatOr
  cases given? lookup name with
  | none => simp
  | some raw =>
    simp only [Option.mem_some_iff, exists_eq_left']
    exact readLogFormat_eq_error_iff

/-! ## All variables -/

def fault? {ε α : Type} : Except ε α → Option ε
  | .ok _ => none
  | .error e => some e

theorem fault?_eq_some_iff {ε α : Type} {x : Except ε α} {e : ε} :
    fault? x = some e ↔ x = .error e := by
  cases x <;> simp [fault?]

theorem fault?_eq_none_iff {ε α : Type} {x : Except ε α} : fault? x = none ↔ ∃ a, x = .ok a := by
  cases x <;> simp [fault?]

theorem fault?_bind {ε α β : Type} {x : Except ε α} {f : α → Except ε β} {rest : Option ε}
    (h : ∀ a, fault? (f a) = rest) : fault? (x >>= f) = (fault? x).or rest := by
  cases x with
  | ok a => exact h a
  | error e => rfl

theorem findSome?_cons_or {α β : Type} (f : α → Option β) (a : α) (l : List α) :
    (a :: l).findSome? f = (f a).or (l.findSome? f) := by
  rw [List.findSome?_cons]
  cases f a <;> rfl

def Variable.flaw? (lookup : String → Option String) : Variable → Option Flaw
  | .ns | .logLevel => none
  | .concurrency => fault? (numberOr lookup concurrency.name (2 ^ 16 - 1) 2)
  | .requeueTransient => fault? (numberOr lookup requeueTransient.name (2 ^ 64 - 1) 15)
  | .requeueJobPoll => fault? (numberOr lookup requeueJobPoll.name (2 ^ 64 - 1) 30)
  | .resync => fault? (numberOr lookup resync.name (2 ^ 64 - 1) 300)
  | .gateWorkload => fault? (truthOr lookup gateWorkload.name true)
  | .logFormat => fault? (logFormatOr lookup logFormat.name)

theorem ofLookup_eq (lookup : String → Option String) : ofLookup lookup = (do
    let concurrency ← numberOr lookup Variable.concurrency.name (2 ^ 16 - 1) 2
    let requeueTransient ← numberOr lookup Variable.requeueTransient.name (2 ^ 64 - 1) 15
    let requeueJobPoll ← numberOr lookup Variable.requeueJobPoll.name (2 ^ 64 - 1) 30
    let resync ← numberOr lookup Variable.resync.name (2 ^ 64 - 1) 300
    let gateWorkload ← truthOr lookup Variable.gateWorkload.name true
    let logFormat ← logFormatOr lookup Variable.logFormat.name
    let ns := (Variable.ns.value? lookup).map Text.trim
    let logLevel := ((Variable.logLevel.value? lookup).map Text.trim).getD "info"
    .ok
      { ns, concurrency, resync, logLevel, logFormat
        pass := { requeueTransient, requeueJobPoll, gateWorkload } }) := by
  unfold ofLookup logFormatOr
  simp only [Variable.name]
  cases given? lookup "ODOO_OPERATOR_LOG_FORMAT" <;> rfl

theorem fault?_ofLookup (lookup : String → Option String) :
    fault? (ofLookup lookup) = Variable.inOrder.findSome? (Variable.flaw? lookup) := by
  simp only [Variable.inOrder, findSome?_cons_or, List.findSome?_nil, Variable.flaw?,
    Option.none_or]
  rw [ofLookup_eq]
  refine fault?_bind fun concurrency => ?_
  refine fault?_bind fun requeueTransient => ?_
  refine fault?_bind fun requeueJobPoll => ?_
  refine fault?_bind fun resync => ?_
  refine fault?_bind fun gateWorkload => ?_
  exact fault?_bind fun logFormat => rfl

/-! ## Which settings are read -/

theorem NumberFor.unique {value : Option String} {m : Nat} (h : NumberFor limit default value n)
    (h' : NumberFor limit default value m) : n = m := by
  cases value with
  | none => exact Eq.trans h (Eq.symm h')
  | some raw => exact h.1.unique h'.1

theorem TruthFor.unique {value : Option String} {default b c : Bool} (h : TruthFor default value b)
    (h' : TruthFor default value c) : b = c := by
  cases value with
  | none => exact Eq.trans h (Eq.symm h')
  | some raw =>
    have hsame := Eq.trans (Eq.symm h) h'
    cases b <;> cases c <;> simp_all

theorem FormatFor.unique {value : Option String} {format format' : LogFormat}
    (h : FormatFor value format) (h' : FormatFor value format') : format = format' := by
  cases value with
  | none => exact Eq.trans h (Eq.symm h')
  | some raw => exact formatWords_disjoint h h'

theorem exists_numberFor_iff {value : Option String} : (∃ n, NumberFor limit default value n) ↔
    ∀ raw ∈ value, (Form.number limit).Accepts raw := by
  cases value <;> simp [NumberFor, Form.Accepts]

theorem exists_truthFor_iff {value : Option String} {default : Bool} :
    (∃ b, TruthFor default value b) ↔ ∀ raw ∈ value, Form.truth.Accepts raw := by
  cases value <;> simp [TruthFor, Form.Accepts, or_comm]

theorem exists_formatFor_iff {value : Option String} : (∃ format, FormatFor value format) ↔
    ∀ raw ∈ value, Form.logFormat.Accepts raw := by
  cases value <;> simp [FormatFor, Form.Accepts]

theorem ofLookup_reads (h : ofLookup lookup = .ok s) : Reads lookup s := by
  rw [ofLookup_eq] at h
  obtain ⟨concurrency, hconcurrency, h⟩ := Except.bind_eq_ok h
  obtain ⟨requeueTransient, htransient, h⟩ := Except.bind_eq_ok h
  obtain ⟨requeueJobPoll, hpoll, h⟩ := Except.bind_eq_ok h
  obtain ⟨resync, hresync, h⟩ := Except.bind_eq_ok h
  obtain ⟨gateWorkload, hgate, h⟩ := Except.bind_eq_ok h
  obtain ⟨logFormat, hformat, h⟩ := Except.bind_eq_ok h
  cases h
  exact
    { ns := rfl
      concurrency := numberOr_eq_ok_iff.mp hconcurrency
      requeueTransient := numberOr_eq_ok_iff.mp htransient
      requeueJobPoll := numberOr_eq_ok_iff.mp hpoll
      resync := numberOr_eq_ok_iff.mp hresync
      gateWorkload := truthOr_eq_ok_iff.mp hgate
      logLevel := rfl
      logFormat := logFormatOr_eq_ok_iff.mp hformat }

theorem Reads.agrees (h : Reads lookup s) (h' : Reads other s') {v : Variable}
    (hvalue : v.value? lookup = v.value? other) : v.Agrees s s' := by
  cases v with
  | ns => exact (h.ns.trans (congrArg _ hvalue)).trans h'.ns.symm
  | concurrency => exact h.concurrency.unique (hvalue ▸ h'.concurrency)
  | requeueTransient => exact h.requeueTransient.unique (hvalue ▸ h'.requeueTransient)
  | requeueJobPoll => exact h.requeueJobPoll.unique (hvalue ▸ h'.requeueJobPoll)
  | resync => exact h.resync.unique (hvalue ▸ h'.resync)
  | gateWorkload => exact h.gateWorkload.unique (hvalue ▸ h'.gateWorkload)
  | logLevel =>
    have hsame := h.logLevel
    rw [hvalue] at hsame
    exact hsame.trans h'.logLevel.symm
  | logFormat => exact h.logFormat.unique (hvalue ▸ h'.logFormat)

theorem eq_of_agrees (h : ∀ v : Variable, v.Agrees s s') : s = s' := by
  obtain ⟨ns, concurrency, resync, logLevel, logFormat, requeueTransient, requeueJobPoll, gate⟩ := s
  obtain ⟨ns', concurrency', resync', logLevel', logFormat', requeueTransient', requeueJobPoll',
    gate'⟩ := s'
  obtain rfl : ns = ns' := h .ns
  obtain rfl : concurrency = concurrency' := h .concurrency
  obtain rfl : resync = resync' := h .resync
  obtain rfl : logLevel = logLevel' := h .logLevel
  obtain rfl : logFormat = logFormat' := h .logFormat
  obtain rfl : requeueTransient = requeueTransient' := h .requeueTransient
  obtain rfl : requeueJobPoll = requeueJobPoll' := h .requeueJobPoll
  obtain rfl : gate = gate' := h .gateWorkload
  rfl

/-! ## Which flaw is reported -/

theorem Variable.flaw?_eq_some_iff (v : Variable) : v.flaw? lookup = some flaw ↔
    ∃ raw ∈ v.value? lookup, v.form.Blames v.name raw flaw := by
  cases v with
  | ns | logLevel => simp [flaw?, form, Form.Blames]
  | concurrency | requeueTransient | requeueJobPoll | resync =>
    exact fault?_eq_some_iff.trans numberOr_eq_error_iff
  | gateWorkload => exact fault?_eq_some_iff.trans truthOr_eq_error_iff
  | logFormat => exact fault?_eq_some_iff.trans logFormatOr_eq_error_iff

theorem Variable.flaw?_eq_none_iff (v : Variable) : v.flaw? lookup = none ↔
    ∀ raw ∈ v.value? lookup, v.form.Accepts raw := by
  cases v with
  | ns | logLevel => simp [flaw?, form, Form.Accepts]
  | concurrency | requeueTransient | requeueJobPoll | resync =>
    refine fault?_eq_none_iff.trans ?_
    simp only [numberOr_eq_ok_iff]
    exact exists_numberFor_iff
  | gateWorkload =>
    refine fault?_eq_none_iff.trans ?_
    simp only [truthOr_eq_ok_iff]
    exact exists_truthFor_iff
  | logFormat =>
    refine fault?_eq_none_iff.trans ?_
    simp only [logFormatOr_eq_ok_iff]
    exact exists_formatFor_iff

theorem ofLookup_eq_error_iff : ofLookup lookup = .error flaw ↔
    ∃ before v after, Variable.inOrder = before ++ v :: after ∧
      (∀ w ∈ before, ∀ raw ∈ w.value? lookup, w.form.Accepts raw) ∧
      ∃ raw ∈ v.value? lookup, v.form.Blames v.name raw flaw := by
  rw [← fault?_eq_some_iff, fault?_ofLookup, List.findSome?_eq_some_iff]
  simp only [Variable.flaw?_eq_some_iff, Variable.flaw?_eq_none_iff]
  constructor
  · rintro ⟨before, v, after, horder, hflaw, hbefore⟩
    exact ⟨before, v, after, horder, hbefore, hflaw⟩
  · rintro ⟨before, v, after, horder, hbefore, hflaw⟩
    exact ⟨before, v, after, horder, hflaw, hbefore⟩

theorem exists_ofLookup_ok_iff : (∃ s, ofLookup lookup = .ok s) ↔
    ∀ v : Variable, ∀ raw ∈ v.value? lookup, v.form.Accepts raw := by
  rw [← fault?_eq_none_iff, fault?_ofLookup, List.findSome?_eq_none_iff]
  simp only [Variable.flaw?_eq_none_iff]
  constructor
  · intro h v
    exact h v v.mem_inOrder
  · intro h v _
    exact h v

theorem Reads.accepts (h : Reads lookup s) (v : Variable) :
    ∀ raw ∈ v.value? lookup, v.form.Accepts raw := by
  cases v with
  | ns | logLevel => exact fun _ _ => trivial
  | concurrency => exact exists_numberFor_iff.mp ⟨_, h.concurrency⟩
  | requeueTransient => exact exists_numberFor_iff.mp ⟨_, h.requeueTransient⟩
  | requeueJobPoll => exact exists_numberFor_iff.mp ⟨_, h.requeueJobPoll⟩
  | resync => exact exists_numberFor_iff.mp ⟨_, h.resync⟩
  | gateWorkload => exact exists_truthFor_iff.mp ⟨_, h.gateWorkload⟩
  | logFormat => exact exists_formatFor_iff.mp ⟨_, h.logFormat⟩

theorem ofLookup_eq_ok_iff : ofLookup lookup = .ok s ↔ Reads lookup s := by
  constructor
  · exact ofLookup_reads
  · intro h
    obtain ⟨s', hs'⟩ := exists_ofLookup_ok_iff.mpr h.accepts
    rw [hs', eq_of_agrees fun v => (ofLookup_reads hs').agrees h (v := v) rfl]

theorem given?_given? (lookup : String → Option String) : given? (given? lookup) = given? lookup := by
  funext name
  simp [given?, Option.filter_filter]

theorem ofLookup_given? (lookup : String → Option String) :
    ofLookup (given? lookup) = ofLookup lookup := by
  simp only [ofLookup, numberOr, truthOr, given?_given?]

/-- The settings are read when every value that is given has its form. Else the first variable in
the order of reading whose value has not its form decides on the flaw. -/
theorem ofLookup_exact (lookup : String → Option String) :
    ofLookup (given? lookup) = ofLookup lookup ∧
    ((∃ s, ofLookup lookup = .ok s) ↔
      ∀ v : Variable, ∀ raw ∈ v.value? lookup, v.form.Accepts raw) ∧
    (∀ s, ofLookup lookup = .ok s ↔ Reads lookup s) ∧
    (∀ other s s', ofLookup lookup = .ok s → ofLookup other = .ok s' →
      ∀ v : Variable, v.value? lookup = v.value? other → v.Agrees s s') ∧
    ∀ flaw, ofLookup lookup = .error flaw ↔
      ∃ before v after, Variable.inOrder = before ++ v :: after ∧
        (∀ w ∈ before, ∀ raw ∈ w.value? lookup, w.form.Accepts raw) ∧
        ∃ raw ∈ v.value? lookup, v.form.Blames v.name raw flaw := by
  refine ⟨ofLookup_given? lookup, exists_ofLookup_ok_iff, fun s => ofLookup_eq_ok_iff, ?_,
    fun flaw => ofLookup_eq_error_iff⟩
  intro other s s' h h' v hvalue
  exact (ofLookup_reads h).agrees (ofLookup_reads h') hvalue

/-- Values with blanks around them, a sign, capitals, and a value of blanks only. -/
def Sample.environment : String → Option String
  | "ODOO_OPERATOR_CONCURRENCY" => some "\u00a0+0004 "
  | "ODOO_OPERATOR_REQUEUE_SECS" => some " \u3000\t"
  | "ODOO_OPERATOR_GATE_WORKLOAD" => some "false\n"
  | "ODOO_OPERATOR_LOG_FORMAT" => some "JSON"
  | _ => none

def Sample.largest : String → Option String
  | "ODOO_OPERATOR_CONCURRENCY" => some "65535"
  | "ODOO_OPERATOR_RESYNC_SECS" => some "18446744073709551615"
  | "ODOO_OPERATOR_LOG_FORMAT" => some " json"
  | _ => none

theorem ofLookup_exact_sample :
    ∃ s s', ofLookup Sample.environment = .ok s ∧ ofLookup Sample.largest = .ok s' ∧
      Reads Sample.environment s ∧ s.concurrency = 4 ∧ s'.concurrency = 65535 ∧
      s.pass.requeueTransient = s'.pass.requeueTransient := by
  have h : (ofLookup Sample.environment).toOption =
      some { concurrency := 4, logFormat := .json, pass := { gateWorkload := false } } := by
    decide +kernel
  have h' : (ofLookup Sample.largest).toOption =
      some { concurrency := 65535, resync := 18446744073709551615, logFormat := .json } := by
    decide +kernel
  have hok := Except.eq_ok_of_toOption h
  have hok' := Except.eq_ok_of_toOption h'
  obtain ⟨-, -, hreads, hagrees, -⟩ := ofLookup_exact Sample.environment
  have hsame := hagrees _ _ _ hok hok' .requeueTransient (by decide +kernel)
  exact ⟨_, _, hok, hok', (hreads _).mp hok, rfl, rfl, hsame⟩

example : ofLookup (fun name => if name = "ODOO_OPERATOR_CONCURRENCY" then some "65536" else none) =
    .error (.number "ODOO_OPERATOR_CONCURRENCY" "65536" .tooLarge) := by
  cbv

end Settings

end OdooKeeper
