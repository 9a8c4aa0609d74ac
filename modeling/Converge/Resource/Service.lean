import Converge.Content.Record
import Converge.Resource.Descriptor
import Converge.Resource.Name
import Converge.Resource.Port

/-!
# Services

A service offers ports of the pods that its selector picks. Ports without a name are
named `port0`, `port1`, … in their order; the count goes up only at a port that had
no name.
-/

namespace Converge

structure ServicePort where
  name : Option String
  port : Int
  targetPort : Option PortRef
  protocol : Option String
  nodePort : Option Int

structure Service where
  name : String
  labels : Table String String
  ports : List ServicePort
  selector : Table String String
  loadBalancer : Bool

namespace ServicePort

/-- The given name; an empty one is none. -/
def givenName? (p : ServicePort) : Option String := p.name.filter fun s => !s.isEmpty

def toJson (p : ServicePort) (name : String) : Json :=
  .obj ([("name", .str name), ("port", .int p.port)] ++
    (p.targetPort.map fun t => ("targetPort", t.toJson)).toList ++
    (p.protocol.map fun s => ("protocol", Json.str s)).toList ++
    (p.nodePort.map fun n => ("nodePort", Json.int n)).toList)

/-- Ports with their names, the next generated name having the number `count`. -/
def nameFrom (count : Nat) : List ServicePort → List Json
  | [] => []
  | p :: rest =>
    match p.givenName? with
    | some name => p.toJson name :: nameFrom count rest
    | none => p.toJson ("port" ++ toString count) :: nameFrom (count + 1) rest

/-- Ports with their names. -/
def nameAll (ports : List ServicePort) : List Json := nameFrom 0 ports

def nameField : Content.Field (Option String) :=
  ⟨["name"], Content.optional Content.text, some none⟩
def portField : Content.Field Int := ⟨["port"], Content.int32, none⟩
def targetPortField : Content.Field (Option PortRef) :=
  ⟨["target_port", "targetPort"], Content.optional PortRef.read, some none⟩
def protocolField : Content.Field (Option String) :=
  ⟨["protocol"], Content.optional Content.text, some none⟩
def nodePortField : Content.Field (Option Int) :=
  ⟨["node_port", "nodePort"], Content.optional Content.int32, some none⟩

def read (surplus : Content.Surplus) (c : Content) : Except Mismatch ServicePort := do
  let found ← Content.fields surplus "struct ServicePortSpec"
    [nameField.slot, portField.slot, targetPortField.slot, protocolField.slot,
      nodePortField.slot] c
  let name ← nameField.value found
  let port ← portField.value found
  let targetPort ← targetPortField.value found
  let protocol ← protocolField.value found
  let nodePort ← nodePortField.value found
  return ⟨name, port, targetPort, protocol, nodePort⟩

/-- The ports of a JSON array. -/
def listOfJson (v : Json) : Except Mismatch (List ServicePort) :=
  Content.sequence (read .direct) (Content.ofJson v)

end ServicePort

namespace Service

/-- The manifest's `spec`. -/
def spec (s : Service) : Json :=
  .obj ([("selector", Json.ofTexts s.selector), ("ports", .arr (ServicePort.nameAll s.ports))] ++
    if s.loadBalancer then [("type", .str "LoadBalancer")] else [])

def build (s : Service) (ns : String) : Except Invalid Descriptor := do
  checkName "Service" s.name
  if s.ports.isEmpty then throw (.noPorts s.name)
  if s.selector.isEmpty then throw (.noSelector s.name)
  return { Descriptor.bare .service s.name ns (Table.ofList [("spec", s.spec)]) with
    labels := s.labels }

def nameField : Content.Field String := ⟨["name", "service_name"], Content.text, none⟩
def labelsField : Content.Field (Option (Table String String)) :=
  ⟨["labels"], Content.optional Content.texts, some none⟩
def portsField : Content.Field (List ServicePort) :=
  ⟨["ports"], Content.sequence (ServicePort.read .held), some []⟩
def selectorField : Content.Field (Table String String) :=
  ⟨["selector"], Content.texts, some .empty⟩
def loadBalancerField : Content.Field Bool :=
  ⟨["load_balancer", "loadbalancer"], Content.boolean, some false⟩

def read (c : Content) : Except Mismatch Service := do
  let found ← Content.fields .held "struct ServiceSpec"
    [nameField.slot, labelsField.slot, portsField.slot, selectorField.slot,
      loadBalancerField.slot] c
  let name ← nameField.value found
  let labels ← labelsField.value found
  let ports ← portsField.value found
  let selector ← selectorField.value found
  let loadBalancer ← loadBalancerField.value found
  return ⟨name, labels.getD .empty, ports, selector, loadBalancer⟩

end Service

end Converge
