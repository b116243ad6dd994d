import OdooKeeper.Json.Numeral

/-! # Reading JSON text

The grammar of JSON with a bound on how deep arrays and objects may be nested. What is not looked at
is skipped: it has to be well-formed, but its numbers may be out of range, its strings may escape
what is no character, and it may be nested as deep as it likes. -/

namespace OdooKeeper.Json

def skipBlank (cs : List Char) : List Char :=
  cs.dropWhile fun c => c = ' ' || c = '\n' || c = '\t' || c = '\r'

/-! ## Strings -/

def hexDigit? (c : Char) : Option Nat :=
  if '0' ≤ c ∧ c ≤ '9' then some (c.toNat - '0'.toNat)
  else if 'a' ≤ c ∧ c ≤ 'f' then some (c.toNat - 'a'.toNat + 10)
  else if 'A' ≤ c ∧ c ≤ 'F' then some (c.toNat - 'A'.toNat + 10)
  else none

def hexUnit? : List Char → Option (Nat × List Char)
  | a :: b :: c :: d :: rest => do
    let a ← hexDigit? a
    let b ← hexDigit? b
    let c ← hexDigit? c
    let d ← hexDigit? d
    some (((a * 16 + b) * 16 + c) * 16 + d, rest)
  | _ => none

/-- Four hexadecimal digits. Four bytes are read before any of them is looked at. -/
def hexUnit (cs : List Char) : Except ParseError (Nat × List Char) :=
  if byteCount (cs.take 4) < 4 then fault .endOfString []
  else
    match hexUnit? cs with
    | some (unit, rest) => .ok (unit, rest)
    | none => faultPast 4 .badEscape cs

/-- The characters that stand behind a backslash, and what each of them means. -/
def escapes : List (Char × Char) :=
  [('"', '"'), ('\\', '\\'), ('/', '/'), ('b', '\x08'), ('f', '\x0c'), ('n', '\n'), ('r', '\r'),
    ('t', '\t')]

/-- One character of the mark between the two units of a pair. -/
def pairMark (mark : Char) (cs : List Char) : Except ParseError (List Char) :=
  match cs with
  | [] => fault .endOfString []
  | c :: rest => if c = mark then .ok rest else faultOn .brokenPair (c :: rest)

/-- The character of an escape, `cs` being what follows the backslash. A character beyond the basic
plane is written as two units; a unit of such a pair may not stand alone. -/
def escaped (cs : List Char) : Except ParseError (Char × List Char) :=
  match cs with
  | [] => fault .endOfString []
  | 'u' :: rest => do
    let (unit, rest) ← hexUnit rest
    if 0xDC00 ≤ unit ∧ unit ≤ 0xDFFF then fault .loneSurrogate rest
    else if 0xD800 ≤ unit ∧ unit ≤ 0xDBFF then
      let (low, rest) ← hexUnit (← pairMark 'u' (← pairMark '\\' rest))
      if 0xDC00 ≤ low ∧ low ≤ 0xDFFF then
        .ok (Char.ofNat (0x10000 + (unit - 0xD800) * 0x400 + (low - 0xDC00)), rest)
      else fault .loneSurrogate rest
    else .ok (Char.ofNat unit, rest)
  | c :: rest =>
    match escapes.lookup c with
    | some meant => .ok (meant, rest)
    | none => faultOn .badEscape (c :: rest)

/-- The characters of a string up to its closing quote. Each step reads at least one character, so
`fuel` never runs out when it is the number of characters. -/
def stringBody (fuel : Nat) (newestFirst cs : List Char) :
    Except ParseError (String × List Char) :=
  match fuel with
  | 0 => fault .endOfString []
  | fuel + 1 =>
    match cs with
    | [] => fault .endOfString []
    | '"' :: rest => .ok (String.ofList newestFirst.reverse, rest)
    | '\\' :: rest => do
      let (c, rest) ← escaped rest
      stringBody fuel (c :: newestFirst) rest
    | c :: rest =>
      if c.toNat < 0x20 then fault .controlCharacter rest
      else stringBody fuel (c :: newestFirst) rest

/-- A string, `cs` being what follows its opening quote. -/
def unquote (cs : List Char) : Except ParseError (String × List Char) :=
  stringBody (cs.length + 1) [] cs

/-! ## Words and marks -/

/-- What follows the rest of a word, at the start of the characters. -/
def skipWord (letters cs : List Char) : Except ParseError (List Char) :=
  match letters, cs with
  | [], cs => .ok cs
  | _ :: _, [] => fault .endOfValue []
  | letter :: letters, c :: rest =>
    if c = letter then skipWord letters rest else faultOn .noWord (c :: rest)

def colon (cs : List Char) : Except ParseError (List Char) :=
  match skipBlank cs with
  | [] => fault .endOfObject []
  | ':' :: rest => .ok rest
  | rest => faultOn .noColon rest

/-! ## What is skipped -/

/-- What follows an escape, `cs` being what follows the backslash. -/
def skipEscape (cs : List Char) : Except ParseError (List Char) :=
  match cs with
  | [] => fault .endOfString []
  | 'u' :: rest => (hexUnit rest).map Prod.snd
  | c :: rest => if (escapes.lookup c).isSome then .ok rest else faultOn .badEscape (c :: rest)

/-- What follows the closing quote of a string. Each step reads at least one character, so `fuel`
never runs out when it is the number of characters. -/
def skipString (fuel : Nat) (cs : List Char) : Except ParseError (List Char) :=
  match fuel with
  | 0 => fault .endOfString []
  | fuel + 1 =>
    match cs with
    | [] => fault .endOfString []
    | '"' :: rest => .ok rest
    | '\\' :: rest => do skipString fuel (← skipEscape rest)
    | c :: rest =>
      if c.toNat < 0x20 then fault .controlCharacter (c :: rest) else skipString fuel rest

/-- What follows the closing bracket of an array, given what follows an item. Each step reads at
least one character, so `fuel` never runs out when it is more than their number. -/
def skipItems (item : List Char → Except ParseError (List Char)) (fuel : Nat) (cs : List Char) :
    Except ParseError (List Char) :=
  match fuel with
  | 0 => fault .endOfArray []
  | fuel + 1 => do
    match skipBlank (← item cs) with
    | [] => fault .endOfArray []
    | ',' :: rest => skipItems item fuel rest
    | ']' :: rest => .ok rest
    | rest => faultOn .noItemEnd rest

/-- What follows a member, given what follows its value. -/
def skipMember (value : List Char → Except ParseError (List Char)) (cs : List Char) :
    Except ParseError (List Char) :=
  match skipBlank cs with
  | [] => fault .endOfObject []
  | '"' :: rest => do value (← colon (← skipString (rest.length + 1) rest))
  | rest => faultOn .noKey rest

/-- What follows the closing brace of an object, given what follows the value of a member. Each step
reads at least one character, so `fuel` never runs out when it is more than their number. -/
def skipMembers (value : List Char → Except ParseError (List Char)) (fuel : Nat) (cs : List Char) :
    Except ParseError (List Char) :=
  match fuel with
  | 0 => fault .endOfObject []
  | fuel + 1 => do
    match skipBlank (← skipMember value cs) with
    | [] => fault .endOfObject []
    | ',' :: rest => skipMembers value fuel rest
    | '\x7d' :: rest => .ok rest
    | rest => faultOn .noMemberEnd rest

/-- What follows a value. A value within another is shorter, so `fuel` never runs out when it is
more than the number of characters. -/
def skipWithin (fuel : Nat) (cs : List Char) : Except ParseError (List Char) :=
  match fuel with
  | 0 => fault .noValue cs
  | fuel + 1 =>
    match skipBlank cs with
    | [] => fault .endOfValue []
    | 'n' :: rest => skipWord ['u', 'l', 'l'] rest
    | 't' :: rest => skipWord ['r', 'u', 'e'] rest
    | 'f' :: rest => skipWord ['a', 'l', 's', 'e'] rest
    | '-' :: rest => (Numeral.read .badNumber rest).map Prod.snd
    | '"' :: rest => skipString (rest.length + 1) rest
    | '[' :: rest =>
      match skipBlank rest with
      | [] => fault .endOfArray []
      | ']' :: rest => .ok rest
      | rest => skipItems (skipWithin fuel) (rest.length + 1) rest
    | '\x7b' :: rest =>
      match skipBlank rest with
      | '\x7d' :: rest => .ok rest
      | rest => skipMembers (skipWithin fuel) (rest.length + 1) rest
    | c :: rest =>
      if c.isDigit then (Numeral.read .badNumber (c :: rest)).map Prod.snd
      else faultOn .noValue (c :: rest)

def skip (cs : List Char) : Except ParseError (List Char) := skipWithin (cs.length + 1) cs

/-! ## Values -/

/-- The rest of the word that stands for a value, at the start of the characters. -/
def word (value : Json) (letters cs : List Char) : Except ParseError (Json × List Char) :=
  (skipWord letters cs).map fun rest => (value, rest)

/-- A value that is no array and no object, at the start of the characters. -/
def scalar (cs : List Char) : Except ParseError (Json × List Char) :=
  match cs with
  | [] => fault .endOfValue []
  | 'n' :: rest => word .null ['u', 'l', 'l'] rest
  | 't' :: rest => word (.bool true) ['r', 'u', 'e'] rest
  | 'f' :: rest => word (.bool false) ['a', 'l', 's', 'e'] rest
  | '-' :: rest => number true rest
  | '"' :: rest => (unquote rest).map fun (s, rest) => (.string s, rest)
  | c :: rest => if c.isDigit then number false (c :: rest) else faultOn .noValue (c :: rest)

/-- Goes on to an item, the `first` one or one behind a comma: whether there is one, and the
characters that begin with it or with the closing bracket. -/
def nextItem (first : Bool) (cs : List Char) : Except ParseError (Bool × List Char) :=
  match skipBlank cs with
  | [] => fault .endOfArray []
  | ']' :: rest => .ok (false, ']' :: rest)
  | rest =>
    if first then .ok (true, rest)
    else
      match rest with
      | ',' :: rest =>
        match skipBlank rest with
        | [] => fault .endOfValue []
        | ']' :: rest => faultOn .trailingComma (']' :: rest)
        | rest => .ok (true, rest)
      | rest => faultOn .noItemEnd rest

/-- Goes on to a member, the `first` one or one behind a comma: its key, if there is one, and what
follows the key or else begins with the closing brace. -/
def nextKey (first : Bool) (cs : List Char) : Except ParseError (Option String × List Char) :=
  let key (rest : List Char) : Except ParseError (Option String × List Char) :=
    (unquote rest).map fun (key, rest) => (some key, rest)
  match skipBlank cs with
  | [] => fault .endOfObject []
  | '\x7d' :: rest => .ok (none, '\x7d' :: rest)
  | '"' :: rest => if first then key rest else faultOn .noMemberEnd ('"' :: rest)
  | ',' :: rest =>
    if first then faultOn .noKey (',' :: rest)
    else
      match skipBlank rest with
      | [] => fault .endOfValue []
      | '"' :: rest => key rest
      | '\x7d' :: rest => faultOn .trailingComma ('\x7d' :: rest)
      | rest => faultOn .noKey rest
  | rest => faultOn (if first then .noKey else .noMemberEnd) rest

/-- The items of an array and its closing bracket. Each step reads at least one character, so `fuel`
never runs out when it is more than their number. -/
def items (item : List Char → Except ParseError (Json × List Char)) (fuel : Nat)
    (newestFirst : List Json) (cs : List Char) : Except ParseError (Json × List Char) :=
  match fuel with
  | 0 => fault .endOfArray []
  | fuel + 1 => do
    match ← nextItem newestFirst.isEmpty cs with
    | (false, rest) => .ok (.array newestFirst.reverse, rest.drop 1)
    | (true, rest) =>
      let (v, rest) ← item rest
      items item fuel (v :: newestFirst) rest

/-- The members of an object and its closing brace. Each step reads at least one character, so
`fuel` never runs out when it is more than their number. -/
def members (value : List Char → Except ParseError (Json × List Char)) (fuel : Nat)
    (newestFirst : List (String × Json)) (cs : List Char) : Except ParseError (Json × List Char) :=
  match fuel with
  | 0 => fault .endOfObject []
  | fuel + 1 => do
    match ← nextKey newestFirst.isEmpty cs with
    | (none, rest) => .ok (ofMembers newestFirst.reverse, rest.drop 1)
    | (some key, rest) =>
      let (v, rest) ← value (← colon rest)
      members value fuel ((key, v) :: newestFirst) rest

/-- A value with at most `depth` arrays and objects around one another. -/
def value (depth : Nat) (cs : List Char) : Except ParseError (Json × List Char) :=
  match depth, skipBlank cs with
  | 0, '[' :: rest => faultOn .tooDeep ('[' :: rest)
  | 0, '\x7b' :: rest => faultOn .tooDeep ('\x7b' :: rest)
  | depth + 1, '[' :: rest => items (value depth) (rest.length + 1) [] rest
  | depth + 1, '\x7b' :: rest => members (value depth) (rest.length + 1) [] rest
  | _, rest => scalar rest

def depthLimit : Nat := 127

/-- Goes on to the end of a text, behind the value that it writes down. -/
def atEnd {α : Type} (read : α × List Char) : Except ParseError α :=
  match skipBlank read.2 with
  | [] => .ok read.1
  | rest => faultOn .trailing rest

def parse (text : String) : Except ParseError Json := do
  atEnd (← value depthLimit text.toList)

end OdooKeeper.Json
