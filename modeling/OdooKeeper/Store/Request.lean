import OdooKeeper.Object

/-! # Requests to a store

A store keeps objects by kind, namespace and name. Absence is no failure: reading what is not there
gives nothing, and deleting it succeeds. -/

namespace OdooKeeper

/-- Why a store does not do what it is asked. -/
inductive StoreError where
  | conflict (message : String)
  | request (message : String)
deriving DecidableEq, Repr

def StoreError.message : StoreError → String
  | .conflict message => "conflict: " ++ message
  | .request message => "request failed: " ++ message

inductive Verb where
  | get
  | create
  | replace
  | delete
  | list
  | replaceStatus
deriving DecidableEq, Repr

namespace Verb

def all : List Verb := [.get, .create, .replace, .delete, .list, .replaceStatus]

def name : Verb → String
  | .get => "Get"
  | .create => "Create"
  | .replace => "Replace"
  | .delete => "Delete"
  | .list => "List"
  | .replaceStatus => "ReplaceStatus"

def ofName? (name : String) : Option Verb := all.find? fun v => v.name = name

/-- Whether the verb changes an object other than an app's status. -/
def isWrite : Verb → Bool
  | .create | .replace | .delete => true
  | _ => false

end Verb

/-- A request to a store. A replacement that bears a `resourceVersion` is refused unless the stored
object still has that version. A selector lists the labels that objects must have. -/
inductive Request where
  | get (kind : Kind) (ns name : String)
  | create (kind : Kind) (ns : String) (object : Object kind)
  | replace (kind : Kind) (ns : String) (object : Object kind)
  | delete (kind : Kind) (ns name : String)
  | list (kind : Kind) (ns selector : String)
  | replaceStatus (app : App)

/-- A request without the objects it carries; for a list the name is the selector. -/
structure Call where
  verb : Verb
  kind : Kind
  ns : String
  name : String
deriving DecidableEq, Repr

namespace Request

abbrev Value : Request → Type
  | .get kind _ _ => Option (Object kind)
  | .create kind _ _ => Object kind
  | .replace kind _ _ => Object kind
  | .delete _ _ _ => Unit
  | .list kind _ _ => List (Object kind)
  | .replaceStatus _ => App

abbrev Answer (r : Request) : Type := Except StoreError r.Value

def call : Request → Call
  | .get kind ns name => ⟨.get, kind, ns, name⟩
  | .create kind ns object => ⟨.create, kind, ns, object.name⟩
  | .replace kind ns object => ⟨.replace, kind, ns, object.name⟩
  | .delete kind ns name => ⟨.delete, kind, ns, name⟩
  | .list kind ns selector => ⟨.list, kind, ns, selector⟩
  | .replaceStatus app => ⟨.replaceStatus, .app, app.metadata.space, app.metadata.anyName⟩

end Request

end OdooKeeper
