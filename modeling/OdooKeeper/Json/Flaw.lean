/-! # Flaws of JSON text

Why a text is no JSON value, and where. The place is part of the wording, behind the reason. -/

namespace OdooKeeper.Json

/-! ## Reasons with a place -/

/-- A reason and the line and column of a text that it speaks of. There is no line 0: it stands for
no place at all. -/
structure Located where
  reason : String
  line : Nat := 0
  column : Nat := 0
deriving DecidableEq, Repr

namespace Located

def lineMark : List Char := " at line ".toList

def columnMark : List Char := " column ".toList

/-- The wording of a reason with its place, if it has one. -/
def text (r : Located) : String :=
  if r.line = 0 then r.reason
  else
    r.reason ++ String.ofList lineMark ++ toString r.line ++ String.ofList columnMark ++
      toString r.column

def place? (cs : List Char) : Option Nat :=
  let n := cs.foldl (fun n c => n * 10 + (c.toNat - '0'.toNat)) 0
  if cs.isEmpty ∨ UInt64.size ≤ n then none else some n

/-- A line and a column, and nothing behind them. -/
def places? (cs : List Char) : Option (Nat × Nat) :=
  let rest := cs.dropWhile Char.isDigit
  let column := rest.drop columnMark.length
  if columnMark.isPrefixOf rest ∧ column.all Char.isDigit then do
    some (← place? (cs.takeWhile Char.isDigit), ← place? column)
  else none

/-- Where the last mark of a line begins, counted from `sofar`, and what follows the mark. -/
def lastMark? (sofar : Nat) (found : Option (Nat × List Char)) : List Char →
    Option (Nat × List Char)
  | [] => found
  | c :: rest =>
    let here := lineMark.isPrefixOf (c :: rest)
    lastMark? (sofar + 1)
      (if here then some (sofar, (c :: rest).drop lineMark.length) else found) rest

/-- The reason that a wording gives, and the place if the wording ends in one. -/
def ofText (wording : String) : Located :=
  let cs := wording.toList
  match lastMark? 0 none cs with
  | none => { reason := wording }
  | some (length, rest) =>
    match places? rest with
    | none => { reason := wording }
    | some (line, column) => { reason := String.ofList (cs.take length), line, column }

end Located

/-! ## Flaws -/

inductive Flaw where
  | endOfValue
  | endOfString
  | endOfArray
  | endOfObject
  | noValue
  | noWord
  | noKey
  | noColon
  | noItemEnd
  | noMemberEnd
  | trailingComma
  | trailing
  | badNumber
  | outOfRange
  | badEscape
  | loneSurrogate
  | brokenPair
  | controlCharacter
  | tooDeep
deriving DecidableEq, Repr

def Flaw.message : Flaw → String
  | .endOfValue => "EOF while parsing a value"
  | .endOfString => "EOF while parsing a string"
  | .endOfArray => "EOF while parsing a list"
  | .endOfObject => "EOF while parsing an object"
  | .noValue => "expected value"
  | .noWord => "expected ident"
  | .noKey => "key must be a string"
  | .noColon => "expected `:`"
  | .noItemEnd => "expected `,` or `]`"
  | .noMemberEnd => "expected `,` or `\x7d`"
  | .trailingComma => "trailing comma"
  | .trailing => "trailing characters"
  | .badNumber => "invalid number"
  | .outOfRange => "number out of range"
  | .badEscape => "invalid escape"
  | .loneSurrogate => "lone leading surrogate in hex escape"
  | .brokenPair => "unexpected end of hex escape"
  | .controlCharacter => "control character (\\u0000-\\u001F) found while parsing a string"
  | .tooDeep => "recursion limit exceeded"

end OdooKeeper.Json
