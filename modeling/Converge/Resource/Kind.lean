import Converge.Table

/-!
# Kinds of resources

The five kinds of resources that can be reconciled, and the names each goes by: in
manifests, on the command line, in the paths of the HTTP interface, and in reports.
-/

namespace Converge

inductive Kind where
  | deploymentConfig
  | persistentVolumeClaim
  | route
  | service
  | secret
deriving DecidableEq, Repr, Inhabited

namespace Kind

def all : List Kind := [.deploymentConfig, .persistentVolumeClaim, .route, .service, .secret]

/-- The name in manifests. -/
def name : Kind → String
  | .deploymentConfig => "DeploymentConfig"
  | .persistentVolumeClaim => "PersistentVolumeClaim"
  | .route => "Route"
  | .service => "Service"
  | .secret => "Secret"

/-- The short name on the command line. -/
def shortName : Kind → String
  | .deploymentConfig => "dc"
  | .persistentVolumeClaim => "pvc"
  | .route => "route"
  | .service => "service"
  | .secret => "secret"

/-- The API group, empty for the core group. -/
def group : Kind → String
  | .deploymentConfig => "apps.openshift.io"
  | .route => "route.openshift.io"
  | _ => ""

def version : Kind → String := fun _ => "v1"

/-- Group and version, the core group left out. -/
def apiVersion (k : Kind) : String :=
  if k.group = "" then k.version else k.group ++ "/" ++ k.version

/-- The name of the collection in paths. -/
def plural : Kind → String
  | .deploymentConfig => "deploymentconfigs"
  | .persistentVolumeClaim => "persistentvolumeclaims"
  | .route => "routes"
  | .service => "services"
  | .secret => "secrets"

/-- The noun in descriptions of actions. -/
def noun : Kind → String
  | .deploymentConfig => "deployment"
  | .persistentVolumeClaim => "PVC"
  | .route => "route"
  | .service => "service"
  | .secret => "secret"

/-- The word in the keys of a report. -/
def reportWord : Kind → String
  | .deploymentConfig => "deployment"
  | .persistentVolumeClaim => "pvc"
  | .route => "route"
  | .service => "service"
  | .secret => "secret"

/-- The words a kind may be given by, in lower case. -/
def words : Kind → List String
  | .deploymentConfig => ["deploymentconfig", "deploymentconfigs", "dc", "deployment"]
  | .persistentVolumeClaim => ["persistentvolumeclaim", "persistentvolumeclaims", "pvc"]
  | .route => ["route", "routes"]
  | .service => ["service", "services", "svc"]
  | .secret => ["secret", "secrets"]

/-- The kind that a word in any case stands for. Folding ASCII letters is enough: no
word has a letter that is the lower case of a letter outside ASCII. -/
def ofWord? (word : String) : Option Kind :=
  all.find? fun k => k.words.contains (String.ofList (word.toList.map Char.toLower))

/-- The place among all kinds. -/
def index (k : Kind) : Nat := all.idxOf k

/-- The kinds by their names in manifests. -/
def byName : List (String × Kind) := all.map fun k => (k.name, k)

end Kind

end Converge
