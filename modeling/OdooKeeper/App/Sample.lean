import OdooKeeper.App.Names

/-! # Samples

A small app and a secret that it can read, for trying things out. -/

namespace OdooKeeper

/-- An app whose database password is read from the secret `db-creds`. -/
def App.sample (name ns : String) : App where
  metadata :=
    { name := some name
      ns := some ns
      uid := some ("uid-" ++ name)
      generation := some 1 }
  content :=
    { spec :=
        { name
          database :=
            { host := "postgres.db.svc"
              passwordRef := some { name := "db-creds", key := "password" } }
          modules := ["base"] } }

def Secret.ofTexts (ns name : String) (pairs : List (String × String)) : Secret where
  metadata := { name := some name, ns := some ns }
  content :=
    { data := some (OrdMap.ofList (pairs.map fun (key, text) => (key, Bytes.ofText text))) }

end OdooKeeper
