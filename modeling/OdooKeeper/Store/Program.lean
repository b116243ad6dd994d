import OdooKeeper.Store.Request

/-! # Programs over a store

What is done with a store is described apart from the store: a program asks one request after
another, each depending on the answers so far. Any store can run it, and other actors may change a
store between two requests. -/

namespace OdooKeeper

inductive Program (α : Type) where
  | done (result : α)
  | call (request : Request) (next : request.Answer → Program α)

namespace Program

variable {α β γ : Type}

def bind (p : Program α) (f : α → Program β) : Program β :=
  match p with
  | .done a => f a
  | .call request next => .call request fun answer => (next answer).bind f

instance : Monad Program where
  pure := .done
  bind := bind

@[simp] theorem pure_eq (a : α) : (pure a : Program α) = .done a := rfl

@[simp] theorem done_bind (a : α) (f : α → Program β) : (Program.done a >>= f) = f a := rfl

@[simp] theorem call_bind (r : Request) (next : r.Answer → Program α) (f : α → Program β) :
    (Program.call r next >>= f) = .call r fun answer => next answer >>= f := rfl

theorem bind_done (p : Program α) : p.bind .done = p := by
  induction p with
  | done a => rfl
  | call r next ih => simp only [bind, ih]

theorem bind_assoc (p : Program α) (f : α → Program β) (g : β → Program γ) :
    (p.bind f).bind g = p.bind fun a => (f a).bind g := by
  induction p with
  | done a => rfl
  | call r next ih => simp only [bind, ih]

instance : LawfulMonad Program :=
  LawfulMonad.mk' Program bind_done (fun _ _ => rfl) bind_assoc

def ask (request : Request) : Program request.Answer := .call request .done

def get (kind : Kind) (ns name : String) : Program (Except StoreError (Option (Object kind))) :=
  ask (.get kind ns name)

def create {kind : Kind} (ns : String) (object : Object kind) :
    Program (Except StoreError (Object kind)) :=
  ask (.create kind ns object)

/-- Puts an object in the place of the stored one. -/
def replace {kind : Kind} (ns : String) (object : Object kind) :
    Program (Except StoreError (Object kind)) :=
  ask (.replace kind ns object)

def delete (kind : Kind) (ns name : String) : Program (Except StoreError Unit) :=
  ask (.delete kind ns name)

/-- Reads the objects of a namespace that have given labels. -/
def list (kind : Kind) (ns selector : String) : Program (Except StoreError (List (Object kind))) :=
  ask (.list kind ns selector)

/-- Puts the status of an app in the place of the stored one. -/
def replaceStatus (app : App) : Program (Except StoreError App) := ask (.replaceStatus app)

end Program

end OdooKeeper
