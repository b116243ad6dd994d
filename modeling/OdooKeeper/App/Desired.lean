import OdooKeeper.App.Names

/-! # What an app should consist of

The objects that serve an app, as they are when nothing else has touched them. -/

namespace OdooKeeper

def configMount : String := "/opt/odoo"

def dataVolume : String := "odoo-data"

def configVolume : String := "config"

def withoutEndSlashes (path : String) : String :=
  String.ofList (path.toList.reverse.dropWhile fun c => c = '/').reverse

namespace App

def metadataOf (app : App) (name : String) : Metadata := { name := some name, ns := some app.space }

/-! ## Secrets and storage -/

def adminSecret (app : App) (password : String) : Secret where
  metadata := app.metadataOf app.adminSecretName
  content := { data := some (OrdMap.singleton adminPasswordKey (Bytes.ofText password)) }

def configSecret (app : App) (file : String) : Secret where
  metadata := app.metadataOf app.configSecretName
  content := { data := some (OrdMap.singleton configFileKey (Bytes.ofText file)) }

def filestoreClaim (app : App) : Claim where
  metadata := app.metadataOf app.claimName
  content :=
    { spec := some
        { accessModes := some app.content.spec.filestore.accessModes
          storageClassName := givenText? app.content.spec.filestore.storageClassName
          resources := some
            { requests := some (OrdMap.singleton "storage" app.content.spec.filestore.size) } } }

/-! ## Pods -/

def containerPort (name : String) (port : Int32) : ContainerPort where
  name := some name
  containerPort := port
  protocol := some "TCP"

/-- The mount of a directory of the data volume. -/
def dataMount (dataDir directory : String) : VolumeMount where
  name := dataVolume
  mountPath := withoutEndSlashes dataDir ++ "/" ++ directory
  subPath := some directory
  readOnly := some false

def serveCommand : List String := ["/entrypoint.sh", "-c", configMount ++ "/" ++ configFileKey]

def container (app : App) : Container where
  name := "odoo"
  image := some app.content.spec.image
  imagePullPolicy := some app.content.spec.imagePullPolicy
  command := some serveCommand
  ports := some [containerPort "http" httpPort, containerPort "poll" pollPort]
  volumeMounts := some
    [dataMount app.content.spec.config.dataDir "filestore",
      dataMount app.content.spec.config.dataDir "sessions",
      { name := configVolume, mountPath := configMount, readOnly := some true }]
  terminationMessagePath := some "/dev/termination-log"
  terminationMessagePolicy := some "File"

def volumes (app : App) : List Volume :=
  [{ name := dataVolume, claim := some { claimName := app.claimName } },
    { name := configVolume
      secret := some
        { secretName := some app.configSecretName
          items := some [{ key := configFileKey, path := configFileKey }]
          defaultMode := some 0o444 } }]

def podSpec (app : App) : PodSpec where
  containers := [app.container]
  volumes := some app.volumes
  securityContext := some
    { runAsUser := some 100
      runAsGroup := some 101
      runAsNonRoot := some true
      fsGroup := some 101 }
  restartPolicy := some "Always"
  dnsPolicy := some "ClusterFirst"
  terminationGracePeriodSeconds := some 30
  schedulerName := some "default-scheduler"

/-! ## Workloads -/

def deployment (app : App) : Deployment where
  metadata := app.metadataOf app.deploymentName
  content :=
    { spec := some
        { replicas := some app.content.spec.replicas
          selector := { matchLabels := some app.selectorLabels }
          template :=
            { metadata := some { labels := some app.selectorLabels }, spec := some app.podSpec }
          strategy := some
            { type := some "RollingUpdate"
              rollingUpdate := some
                { maxSurge := some (.text "25%"), maxUnavailable := some (.text "25%") } }
          revisionHistoryLimit := some 10
          progressDeadlineSeconds := some 600 } }

def modulesArgument (modules : List String) : String := ",".intercalate modules

def initCommand (modules : List String) : List String :=
  serveCommand ++ ["--stop-after-init", "--no-http", "--init", modulesArgument modules]

/-- The pod that installs the modules of the app. -/
def initPodSpec (app : App) : PodSpec :=
  { app.podSpec with
    containers :=
      [{ app.container with command := some (initCommand app.content.spec.modules), ports := none }]
    restartPolicy := some "Never" }

/-- The job that installs the modules of the app. -/
def initJob (app : App) : Job where
  metadata := app.metadataOf app.initJobName
  content :=
    { spec := some
        { template := { spec := some app.initPodSpec }
          parallelism := some 1
          backoffLimit := some 2 } }

/-! ## Services -/

/-- A service that passes a port on to the app's pods. -/
def service (app : App) (name : String) (port : Int32) : Service where
  metadata := app.metadataOf name
  content :=
    { spec := some
        { selector := some app.selectorLabels
          ports := some
            [{ name := some "http"
               port := port
               targetPort := some (.int port)
               protocol := some "TCP" }]
          type := some "ClusterIP"
          sessionAffinity := some "None"
          internalTrafficPolicy := some "Cluster" } }

def httpService (app : App) : Service := app.service app.httpServiceName httpPort

def pollService (app : App) : Service := app.service app.pollServiceName pollPort

end App

end OdooKeeper
