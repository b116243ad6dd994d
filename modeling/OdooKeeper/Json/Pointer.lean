import OdooKeeper.Json.Basic
import OdooKeeper.Text.Segments

/-! # JSON pointers

Paths through a value: `/` before each step, with `~1` for a slash and `~0` for a tilde. -/

namespace OdooKeeper.Json

def unescapeStep : List Char → List Char
  | '~' :: '1' :: rest => '/' :: unescapeStep rest
  | '~' :: '0' :: rest => '~' :: unescapeStep rest
  | c :: rest => c :: unescapeStep rest
  | [] => []

/-- The position that a step names in an array: digits without sign or leading zero. -/
def indexOfStep? (step : String) : Option Nat :=
  match step.toList with
  | ['0'] => some 0
  | '0' :: _ => none
  | [] => none
  | digits =>
    if digits.all Char.isDigit then
      some (digits.foldl (fun n c => n * 10 + (c.toNat - '0'.toNat)) 0)
    else none

def step? (v : Json) (step : String) : Option Json :=
  match v with
  | .object members => members.lookup step
  | .array items => (indexOfStep? step).bind fun i => items[i]?
  | _ => none

/-- The value at a pointer, if there is one. -/
def pointer? (v : Json) (path : String) : Option Json :=
  match Text.segmentsOf '/' path.toList with
  | [] => some v
  | [[]] => some v
  | [] :: steps => steps.foldlM (fun v s => v.step? (String.ofList (unescapeStep s))) v
  | _ => none

end OdooKeeper.Json
