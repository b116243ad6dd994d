import OdooKeeper.App.Names

/-! # Owners

The reference that marks an object as belonging to an app. -/

namespace OdooKeeper

/-- The references with the one to the app among them. A reference that the app controls the object
stays; otherwise it takes the place of whatever other controller there was. -/
def ownerList (refs : List OwnerReference) (owner : OwnerReference) : List OwnerReference :=
  if refs.any fun r => r.uid = owner.uid && r.controls then refs
  else (refs.filter fun r => !r.controls && r.uid ≠ owner.uid) ++ [owner]

namespace Object

variable {k : Kind}

/-- The object as one that belongs to the app, if the app can own anything. -/
def ensureOwner (object : Object k) (app : App) : Object k :=
  match app.ownerReference? with
  | none => object
  | some owner =>
    { object with
      metadata :=
        { object.metadata with ownerReferences := some (ownerList object.metadata.owners owner) } }

def isControlledBy (object : Object k) (app : App) : Bool :=
  object.metadata.owners.any fun r => r.controls && some r.uid = app.metadata.uid

end Object

end OdooKeeper
