import OdooKeeper.Timestamp
import OdooKeeper.Text.Blank

/-! # Timestamps as text

Timestamps are written in universal time with whole seconds. Reading accepts any offset and drops
fractions of a second. -/

namespace OdooKeeper.Timestamp

/-! ## Writing -/

/-- The digits of a number, filled up with zeros from the left. -/
def padded (width n : Nat) : List Char :=
  let digits := Nat.toDigits 10 n
  List.replicate (width - digits.length) '0' ++ digits

/-- A year has four digits; one that needs more, or is negative, has a sign as well. -/
def yearDigits (year : Int) : List Char :=
  if 0 ≤ year ∧ year ≤ 9999 then padded 4 year.toNat
  else (if year < 0 then '-' else '+') :: padded 4 year.natAbs

def chars (t : Timestamp) : List Char :=
  yearDigits t.date.year ++ '-' :: padded 2 t.date.month.toNat ++
    '-' :: padded 2 t.date.day.toNat ++ 'T' :: padded 2 t.hour ++ ':' :: padded 2 t.minute ++
    ':' :: padded 2 t.second ++ ['Z']

def render (t : Timestamp) : String := String.ofList t.chars

/-! ## Reading -/

inductive Fault where
  | outOfRange
  | impossible
  | invalid
  | tooShort
  | trailing
deriving DecidableEq, Repr

def Fault.message : Fault → String
  | .outOfRange => "input is out of range"
  | .impossible => "no possible date and time matching input"
  | .invalid => "input contains invalid characters"
  | .tooShort => "premature end of input"
  | .trailing => "trailing input"

def skipBlanks (cs : List Char) : List Char := cs.dropWhile Text.isBlank

/-- At most `most` digits, and at least one. Their value has to fit 64 bits with a sign. -/
def readDigits (most : Nat) (cs : List Char) : Except Fault (Nat × List Char) :=
  let digits := (cs.take most).takeWhile Char.isDigit
  let n := digits.foldl (fun n c => n * 10 + (c.toNat - '0'.toNat)) 0
  match digits, cs with
  | [], [] => .error .tooShort
  | [], _ => .error .invalid
  | _, _ =>
    if Int64.maxValue.toInt < n then .error .outOfRange else .ok (n, cs.drop digits.length)

/-- At most two digits whose value lies between two bounds. -/
def readPart (low high : Nat) (cs : List Char) : Except Fault (Nat × List Char) := do
  let (n, rest) ← readDigits 2 (skipBlanks cs)
  if low ≤ n ∧ n ≤ high then .ok (n, rest) else .error .outOfRange

/-- A year: up to four digits, or a sign and any number of them. It has to fit 32 bits. -/
def readYear (cs : List Char) : Except Fault (Int × List Char) := do
  let (year, rest) ← match skipBlanks cs with
    | '-' :: rest => do
      let (n, rest) ← readDigits rest.length rest
      .ok (-(n : Int), rest)
    | '+' :: rest => do
      let (n, rest) ← readDigits rest.length rest
      .ok ((n : Int), rest)
    | rest => do
      let (n, rest) ← readDigits 4 rest
      .ok ((n : Int), rest)
  if Int32.minValue.toInt ≤ year ∧ year ≤ Int32.maxValue.toInt then .ok (year, rest)
  else .error .outOfRange

def readMark (mark : Char) (cs : List Char) : Except Fault (List Char) :=
  match skipBlanks cs with
  | [] => .error .tooShort
  | c :: rest => if c = mark then .ok rest else .error .invalid

/-- What follows a fraction of a second, if there is one. -/
def skipFraction (cs : List Char) : Except Fault (List Char) :=
  match cs with
  | '.' :: rest => do
    let (_, rest) ← readDigits 9 rest
    .ok (rest.dropWhile Char.isDigit)
  | _ => .ok cs

/-- Two digits of an offset. One ASCII character alone is too few of them, any other is none. -/
def readPair (cs : List Char) : Except Fault (Nat × List Char) :=
  match cs with
  | a :: b :: rest =>
    if a.isDigit && b.isDigit then
      .ok ((a.toNat - '0'.toNat) * 10 + (b.toNat - '0'.toNat), rest)
    else .error .invalid
  | [a] => .error (if a.toNat < 128 then .tooShort else .invalid)
  | [] => .error .tooShort

/-- The offset from universal time in minutes, to the east positive. -/
def readOffset (cs : List Char) : Except Fault (Int × List Char) :=
  match cs with
  | [] => .error .tooShort
  | c :: rest =>
    if c = 'Z' ∨ c = 'z' then .ok (0, rest)
    else if c = '+' ∨ c = '-' ∨ c = '\u2212' then do
      let (hours, rest) ← readPair rest
      let (minutes, rest) ← readPair (rest.dropWhile fun c => c = ':' || Text.isBlank c)
      if 59 < minutes then .error .outOfRange
      else
        let offset : Int := hours * 60 + minutes
        .ok (if c = '+' then offset else -offset, rest)
    else .error .invalid

/-- The offset, for which universal time can be named in letters as well. -/
def readZone (cs : List Char) : Except Fault (Int × List Char) :=
  if (cs.take 3).map Char.toUpper = ['U', 'T', 'C'] then .ok (0, cs.drop 3) else readOffset cs

/-- Whether a number is that of a second that is told. -/
def inRange (unix : Int) : Bool := earliest ≤ unix && unix ≤ latest

/-- The second at a date and a time of day, `offset` minutes east. There has to be such a date, the
offset is less than a day, and it may not lead beyond the seconds that are told. -/
def ofParts (date : Date) (hour minute second : Nat) (offset : Int) : Except Fault Timestamp :=
  let there : Int := date.toDays * 86400 + hour * 3600 + minute * 60 + min second 59
  let unix := there - offset * 60
  if !date.isReal || !inRange there || 1440 ≤ offset.natAbs then .error .outOfRange
  else if h : earliest ≤ unix ∧ unix ≤ latest then
    if leap : second = 60 ∧ unix % 60 = 59 then .ok ⟨unix, true, h.1, h.2, fun _ => leap.2⟩
    else .ok ⟨unix, false, h.1, h.2, by simp⟩
  else .error .impossible

def ofChars (cs : List Char) : Except Fault Timestamp := do
  let (year, cs) ← readYear cs
  let cs ← readMark '-' cs
  let (month, cs) ← readPart 1 12 cs
  let cs ← readMark '-' cs
  let (day, cs) ← readPart 1 31 cs
  let cs ← match cs with
    | [] => .error .tooShort
    | c :: cs => if c = 'T' ∨ c = 't' ∨ c = ' ' then .ok cs else .error .invalid
  let (hour, cs) ← readPart 0 23 cs
  let cs ← readMark ':' cs
  let (minute, cs) ← readPart 0 59 cs
  let cs ← readMark ':' cs
  let (second, cs) ← readPart 0 60 cs
  let cs ← skipFraction cs
  let (offset, cs) ← readZone (skipBlanks cs)
  if (skipBlanks cs).isEmpty then ofParts ⟨year, month, day⟩ hour minute second offset
  else .error .trailing

def parse (text : String) : Except Fault Timestamp := ofChars text.toList

end OdooKeeper.Timestamp
