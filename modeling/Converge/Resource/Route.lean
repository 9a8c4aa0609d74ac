import Converge.Content.Record
import Converge.Resource.Descriptor
import Converge.Resource.Name
import Converge.Resource.Port

/-!
# Routes

A route leads from a host name to a port of a service.
-/

namespace Converge

structure Route where
  name : String
  labels : Table String String
  host : Option String
  /-- The service the route leads to. -/
  serviceName : String
  /-- The port of that service. -/
  servicePort : Option PortRef

namespace Route

/-- The target port; an empty name is none. -/
def targetPort? (r : Route) : Option PortRef :=
  match r.servicePort with
  | some (.name s) => if s.isEmpty then none else some (.name s)
  | port => port

/-- The manifest's `spec`. -/
def spec (r : Route) (port : PortRef) : Json :=
  let host := match r.host with
    | none => []
    | some host => if host.isEmpty then [] else [("host", Json.str host)]
  .obj (host ++ [("to", .obj [("kind", .str "Service"), ("name", .str r.serviceName)]),
    ("port", .obj [("targetPort", port.toJson)])])

def build (r : Route) (ns : String) : Except Invalid Descriptor := do
  checkName "Route" r.name
  checkName "Route target service" r.serviceName
  match r.targetPort? with
  | none => throw (.noTargetPort r.name)
  | some port =>
    return { Descriptor.bare .route r.name ns (Table.ofList [("spec", r.spec port)]) with
      labels := r.labels }

def nameField : Content.Field String := ⟨["name", "route_name"], Content.text, none⟩
def labelsField : Content.Field (Option (Table String String)) :=
  ⟨["labels"], Content.optional Content.texts, some none⟩
def hostField : Content.Field (Option String) :=
  ⟨["host"], Content.optional Content.text, some none⟩
def serviceNameField : Content.Field String := ⟨["service_name", "to"], Content.text, some ""⟩
def servicePortField : Content.Field (Option PortRef) :=
  ⟨["service_port", "port"], Content.optional PortRef.read, some none⟩

def read (c : Content) : Except Mismatch Route := do
  let found ← Content.fields .held "struct RouteSpec"
    [nameField.slot, labelsField.slot, hostField.slot, serviceNameField.slot,
      servicePortField.slot] c
  let name ← nameField.value found
  let labels ← labelsField.value found
  let host ← hostField.value found
  let serviceName ← serviceNameField.value found
  let servicePort ← servicePortField.value found
  return ⟨name, labels.getD .empty, host, serviceName, servicePort⟩

end Route

end Converge
