import OdooKeeper.Bytes
import OdooKeeper.Json.DecodeError
import OdooKeeper.Json.Flaw

/-! # Errors with a place in a text

A text can fail to be JSON, or be JSON that says something else than what is wanted. Either way the
error has a place: a line, and a column that counts the bytes of the line that have been read. -/

namespace OdooKeeper.Json

/-- What is wrong with a text: its grammar or its content. -/
inductive Cause where
  | grammar (flaw : Flaw)
  | content (error : DecodeError)

def Cause.message : Cause → String
  | .grammar flaw => flaw.message
  | .content error => error.message

/-- What is wrong with a text, and how many bytes of it stand behind the place. -/
structure ParseError where
  cause : Cause
  left : Nat

def byteCount (cs : List Char) : Nat := cs.foldl (fun n c => n + c.utf8Size) 0

/-- Fails `n` bytes behind the start of the characters, or at their end if they are fewer. -/
def faultPast {α : Type} (n : Nat) (flaw : Flaw) (cs : List Char) : Except ParseError α :=
  .error ⟨.grammar flaw, byteCount cs - n⟩

def fault {α : Type} (flaw : Flaw) (cs : List Char) : Except ParseError α := faultPast 0 flaw cs

def faultOn {α : Type} (flaw : Flaw) (cs : List Char) : Except ParseError α := faultPast 1 flaw cs

/-- Fails in front of the characters because of the content before them. -/
def misfit {α : Type} (error : DecodeError) (cs : List Char) : Except ParseError α :=
  .error ⟨.content error, byteCount cs⟩

def lineFeed : UInt8 := 10

/-- The wording of an error in a text, with its place. -/
def ParseError.message (e : ParseError) (text : String) : String :=
  let bytes := Bytes.ofText text
  let read := bytes.take (bytes.length - e.left)
  Located.text
    { reason := e.cause.message
      line := read.count lineFeed + 1
      column := (read.reverse.takeWhile (· ≠ lineFeed)).length }

end OdooKeeper.Json
