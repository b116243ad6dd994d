import OdooKeeper.Failure
import OdooKeeper.Store.Program

/-! # Attempts

Programs over a store that may fail. The first failure ends an attempt. -/

namespace OdooKeeper

abbrev Attempt (α : Type) := ExceptT Failure Program α

namespace Attempt

variable {α : Type}

/-- A request whose refusal is a failure of an operation on an object. -/
def request (role : Role) (operation : Operation) (name : String)
    (p : Program (Except StoreError α)) : Attempt α :=
  ExceptT.mk (p >>= fun answer => pure (answer.mapError (.store role operation name)))

/-- What is already known to have succeeded or failed. -/
def ofExcept (result : Except Failure α) : Attempt α := ExceptT.mk (pure result)

/-- An attempt whose failure is put into a wider one. -/
def within (wrap : Failure → Failure) (a : Attempt α) : Attempt α :=
  ExceptT.mk (a.run >>= fun result => pure (result.mapError wrap))

end Attempt

end OdooKeeper
