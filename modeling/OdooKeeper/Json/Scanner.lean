import OdooKeeper.Json.Parser

/-! # Reading wanted values from JSON text

A text is read with a value of some form in mind. What does not fit is noticed on the way, at its
place in the text, and what is not wanted is skipped. -/

namespace OdooKeeper.Json

/-- Reads a value at the start of some characters, with at most so many arrays and objects around
one another, and gives what follows it as well. -/
abbrev Scanner := (depth : Nat) → List Char → Except ParseError (Json × List Char)

namespace Scanner

variable {α : Type}

/-! ## Single values -/

/-- A value with what follows it, if it passes a check. -/
def checked (check : Json → Except DecodeError α) (v : Json) (rest : List Char) :
    Except ParseError (Json × List Char) :=
  match check v with
  | .ok _ => .ok (v, rest)
  | .error e => misfit e rest

/-- A value that is skipped; null stands for it. -/
def skipped : Scanner := fun _ cs => (skip cs).map fun rest => (.null, rest)

/-- A value that passes a check which no array and no object passes. These are not read into. -/
def scalar (check : Json → Except DecodeError α) : Scanner := fun _ cs =>
  match skipBlank cs with
  | '[' :: rest => checked check (.array []) ('[' :: rest)
  | '\x7b' :: rest => checked check (.object []) ('\x7b' :: rest)
  | cs => do
    let (v, rest) ← Json.scalar cs
    checked check v rest

def nullable (inner : Scanner) : Scanner := fun depth cs =>
  match skipBlank cs with
  | 'n' :: rest => word .null ['u', 'l', 'l'] rest
  | cs => inner depth cs

/-! ## Arrays and objects -/

/-- Goes into an array or an object whose opening bracket is the first of the characters. -/
def enter (depth : Nat) (cs : List Char)
    (inside : Nat → List Char → Except ParseError (Json × List Char)) :
    Except ParseError (Json × List Char) :=
  match depth with
  | 0 => faultOn .tooDeep cs
  | depth + 1 => inside depth (cs.drop 1)

/-- Where an error is placed that concerns an array as a whole: behind its closing bracket or a
comma, if one comes next. -/
def closeArray (cs : List Char) : List Char :=
  match skipBlank cs with
  | ']' :: rest => rest
  | ',' :: rest => skipBlank rest
  | rest => rest

/-- Where an error is placed that concerns an object as a whole: behind its closing brace, if that
comes next. -/
def closeObject (cs : List Char) : List Char :=
  match skipBlank cs with
  | '\x7d' :: rest => rest
  | rest => rest

/-- A value that passes a check which no array and no object passes. Their opening brackets are
read. -/
def entered (check : Json → Except DecodeError α) : Scanner := fun depth cs =>
  match skipBlank cs with
  | '[' :: rest =>
    enter depth ('[' :: rest) fun _ rest => checked check (.array []) (closeArray rest)
  | '\x7b' :: rest =>
    enter depth ('\x7b' :: rest) fun _ rest => checked check (.object []) (closeObject rest)
  | cs => scalar check depth cs

/-- An array of values of one form; nothing else passes the check. -/
def list (item : Scanner) (check : Json → Except DecodeError α) : Scanner := fun depth cs =>
  match skipBlank cs with
  | '[' :: rest =>
    enter depth ('[' :: rest) fun depth rest => items (item depth) (rest.length + 1) [] rest
  | cs => scalar check depth cs

/-- An object of values of one form; nothing else passes the check. -/
def dict (value : Scanner) (check : Json → Except DecodeError α) : Scanner := fun depth cs =>
  match skipBlank cs with
  | '\x7b' :: rest =>
    enter depth ('\x7b' :: rest) fun depth rest => members (value depth) (rest.length + 1) [] rest
  | cs => scalar check depth cs

/-! ## Records -/

/-- A field of a record: its key, how its value is read, and a check of what only the record as a
whole is to blame for. -/
structure Field where
  key : String
  scan : Scanner
  check : Json → Except DecodeError Unit

/-- How the members of a record are read: its fields, whether a field may be given only `once`, how
members of other keys are read, and what the whole has to pass. -/
structure Members (α : Type) where
  fields : List Field
  once : Bool
  others : Scanner
  check : Json → Except DecodeError α

/-- The members of a record and its closing brace. Each step reads at least one character, so `fuel`
never runs out when it is more than their number. -/
def Members.read (r : Members α) (depth fuel : Nat) (first : Bool)
    (newestFirst : List (String × Json)) (cs : List Char) : Except ParseError (Json × List Char) :=
  match fuel with
  | 0 => fault .endOfObject []
  | fuel + 1 => do
    match ← nextKey first cs with
    | (none, rest) => checked r.check (ofMembers newestFirst.reverse) (rest.drop 1)
    | (some key, rest) =>
      match r.fields.find? fun f => f.key = key with
      | none =>
        let (_, rest) ← r.others depth (← colon rest)
        r.read depth fuel false newestFirst rest
      | some field =>
        if r.once ∧ (newestFirst.lookup key).isSome then
          misfit (.duplicateField key) (closeObject rest)
        else
          let (v, rest) ← field.scan depth (← colon rest)
          match field.check v with
          | .error e => misfit e (closeObject rest)
          | .ok () => r.read depth fuel false ((key, v) :: newestFirst) rest

/-- A record given as an object. How else it may be given, `otherwise` says. -/
def record (r : Members α) (otherwise : Scanner) : Scanner := fun depth cs =>
  match skipBlank cs with
  | '\x7b' :: rest =>
    enter depth ('\x7b' :: rest) fun depth rest => r.read depth (rest.length + 1) true [] rest
  | cs => otherwise depth cs

/-- The closing bracket of an array that has all its items. -/
def endArray (cs : List Char) : Except ParseError (List Char) :=
  match skipBlank cs with
  | [] => fault .endOfArray []
  | ']' :: rest => .ok rest
  | ',' :: rest =>
    match skipBlank rest with
    | ']' :: rest => faultOn .trailingComma (']' :: rest)
    | rest => faultOn .trailing rest
  | rest => faultOn .trailing rest

/-- The fields of a record as items of an array, and its closing bracket. An array that ends early
has to pass the check. -/
def fieldItems (check : Json → Except DecodeError α) (depth : Nat) (fields : List Field)
    (newestFirst : List Json) (cs : List Char) : Except ParseError (Json × List Char) :=
  match fields with
  | [] => (endArray cs).map fun rest => (.array newestFirst.reverse, rest)
  | field :: fields => do
    match ← nextItem newestFirst.isEmpty cs with
    | (false, rest) => checked check (.array newestFirst.reverse) (rest.drop 1)
    | (true, rest) =>
      let (v, rest) ← field.scan depth rest
      match field.check v with
      | .error e => misfit e (closeArray rest)
      | .ok () => fieldItems check depth fields (v :: newestFirst) rest

/-- A record given as an array of its fields in order; else nothing passes the check. -/
def inOrder (fields : List Field) (check : Json → Except DecodeError α) : Scanner := fun depth cs =>
  match skipBlank cs with
  | '[' :: rest =>
    enter depth ('[' :: rest) fun depth rest => fieldItems check depth fields [] rest
  | cs => scalar check depth cs

/-! ## Names -/

/-- A name: a string, or an object with the name as its only key and null as its value. -/
def variant (name : Json → Except DecodeError α) (content : Json → Except DecodeError Unit) :
    Scanner := fun depth cs =>
  match skipBlank cs with
  | [] => fault .endOfValue []
  | '"' :: rest => scalar name depth ('"' :: rest)
  | '\x7b' :: rest =>
    enter depth ('\x7b' :: rest) fun depth rest => do
      let (v, rest) ← scalar name depth rest
      let (_, rest) ← scalar content depth (← colon rest)
      match skipBlank rest with
      | [] => fault .endOfObject []
      | '\x7d' :: rest => .ok (v, rest)
      | rest => fault .noValue rest
  | cs => faultOn .noValue cs

end Scanner

end OdooKeeper.Json
