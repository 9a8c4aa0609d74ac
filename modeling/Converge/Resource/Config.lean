import Converge.Resource.Deployment
import Converge.Resource.Route
import Converge.Resource.Secret
import Converge.Resource.Service
import Converge.Resource.VolumeClaim

/-!
# Resource configurations

A configuration is one of the five resources; its field `kind` says which. The tag
may stand anywhere among the fields, and its absence is reported before anything else.
-/

namespace Converge

inductive Config where
  | deployment (d : Deployment)
  | volumeClaim (v : VolumeClaim)
  | route (r : Route)
  | service (s : Service)
  | secret (s : Secret)

namespace Config

def kind : Config → Kind
  | .deployment _ => .deploymentConfig
  | .volumeClaim _ => .persistentVolumeClaim
  | .route _ => .route
  | .service _ => .service
  | .secret _ => .secret

def name : Config → String
  | .deployment d => d.name
  | .volumeClaim v => v.name
  | .route r => r.name
  | .service s => s.name
  | .secret s => s.name

/-- The descriptor of the resource in a namespace. -/
def build : Config → String → Except Invalid Descriptor
  | .deployment d => d.build
  | .volumeClaim v => v.build
  | .route r => r.build
  | .service s => s.build
  | .secret s => s.build

/-- Read a resource of a known kind. -/
def ofContent (kind : Kind) (c : Content) : Except Mismatch Config :=
  match kind with
  | .deploymentConfig => (Deployment.read c).map .deployment
  | .persistentVolumeClaim => (VolumeClaim.read c).map .volumeClaim
  | .route => (Route.read c).map .route
  | .service => (Service.read c).map .service
  | .secret => (Secret.read c).map .secret

/-- The kind that a JSON tag names. -/
def tagOfJson : Json → Except Mismatch Kind
  | .str name => Content.alternative Kind.byName name
  | v => .error (.invalidType (Content.ofJson v).found "variant identifier")

/-- Read a resource from JSON: an object with a field `kind`, or an array whose first
item is the kind and whose others are the fields in their order. -/
def ofJson : Json → Except Mismatch Config
  | .arr [] => .error (.missingField "kind")
  | .arr (tag :: items) => do
    let kind ← tagOfJson tag
    ofContent kind (.seq (Content.ofItems items))
  | .obj fields =>
    match Entries.get? "kind" fields with
    | none => .error (.missingField "kind")
    | some tag => do
      let kind ← tagOfJson tag
      ofContent kind (.map (Content.ofFields (Entries.erase "kind" fields)))
  | v => .error (.invalidType (Content.ofJson v).found "internally tagged enum ResourceConfig")

end Config

end Converge
