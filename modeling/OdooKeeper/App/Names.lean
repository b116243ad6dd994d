import OdooKeeper.Object
import OdooKeeper.ObjectKey

/-! # Names that an app gives

The names of the objects that serve an app derive from its own name, unless the app names them. -/

namespace OdooKeeper

/-- The key of the credentials secret that holds the admin password. -/
def adminPasswordKey : String := "password"

/-- The key of the config secret that holds the configuration file. -/
def configFileKey : String := "odoo.conf"

def httpPort : Int32 := 8069

def pollPort : Int32 := 8072

def givenText? (text : Option String) : Option String := text.filter fun s => s ≠ ""

namespace App

def instanceName (app : App) : String := app.metadata.anyName

/-- The namespace of the app and of what serves it. -/
def space (app : App) : String := app.metadata.space

def key (app : App) : ObjectKey := ⟨app.space, app.instanceName⟩

/-- The credentials secret that the user named, if any. -/
def userAdminSecretName? (app : App) : Option String :=
  givenText? app.content.spec.config.adminSecretName

def adminSecretName (app : App) : String :=
  app.userAdminSecretName?.getD (app.instanceName ++ "-admin-password")

def configSecretName (app : App) : String := app.instanceName ++ "-config"

def claimName (app : App) : String :=
  (givenText? app.content.spec.filestore.name).getD (app.instanceName ++ "-filestore")

def deploymentName (app : App) : String := app.instanceName

def initJobName (app : App) : String := app.instanceName ++ "-init"

def httpServiceName (app : App) : String := app.instanceName ++ "-http"

def pollServiceName (app : App) : String := app.instanceName ++ "-poll"

def selectorLabels (app : App) : Dict String := OrdMap.singleton "app" app.instanceName

/-- The references of the app's database settings that count. -/
def secretRefs (app : App) : List SecretRef := app.content.spec.database.secretRefs

/-- Whether the configuration of the app depends on a secret: through a reference, or because the
user named it as the credentials secret. -/
def usesSecret (app : App) (secret : String) : Bool :=
  (app.secretRefs.any fun r => r.name = secret) || app.userAdminSecretName? = some secret

/-- The reference that marks an object as the app's. An app without a name or an identity has
none. -/
def ownerReference? (app : App) : Option OwnerReference :=
  match app.metadata.name, app.metadata.uid with
  | some name, some uid =>
    some
      { apiVersion := Kind.app.apiVersion
        kind := Kind.app.name
        name
        uid
        controller := some true }
  | _, _ => none

end App

end OdooKeeper
