import Converge.Content.Choice
import Converge.Content.Record
import Converge.Resource.Descriptor
import Converge.Resource.Name

/-!
# Deployments

A deployment configuration runs containers in a number of replicas. A container may
have any fields beside those named here; they are passed on as they are.
-/

namespace Converge

inductive Strategy where
  | rolling
  | recreate
deriving DecidableEq, Repr

def Strategy.name : Strategy → String
  | .rolling => "Rolling"
  | .recreate => "Recreate"

structure Container where
  name : String
  image : String
  /-- Environment variables. -/
  env : Table String String
  ports : List Int
  /-- All other fields. -/
  extra : Table String Json

structure Deployment where
  name : String
  labels : Table String String
  replicas : Int
  containers : List Container
  strategy : Strategy
  volumes : Option (List Json)

/-- Environment variables as a list. -/
def envList (env : Table String String) : List Json :=
  env.entries.map fun (name, value) => .obj [("name", .str name), ("value", .str value)]

/-- Ports of a container as a list. -/
def containerPorts (ports : List Int) : List Json :=
  ports.map fun port => .obj [("containerPort", .int port)]

namespace Container

/-- A container as part of a manifest. -/
def toJson (c : Container) : Json :=
  let fields := (Table.ofList [("name", .str c.name), ("image", .str c.image)]).insertAll
    c.extra.entries
  let fields := if c.env.isEmpty then fields else fields.insert "env" (.arr (envList c.env))
  let fields := if c.ports.isEmpty then fields
    else fields.insert "ports" (.arr (containerPorts c.ports))
  Json.ofTable fields

def build (c : Container) : Except Invalid Json :=
  if c.name.isEmpty || c.image.isEmpty then .error .incompleteContainer else .ok c.toJson

def nameField : Content.Field String := ⟨["name"], Content.text, none⟩
def imageField : Content.Field String := ⟨["image"], Content.text, none⟩
def envField : Content.Field (Table String String) := ⟨["env"], Content.texts, some .empty⟩
def portsField : Content.Field (List Int) := ⟨["ports"], Content.sequence Content.int32, some []⟩

/-- The fields with a meaning here. -/
def slots : List Content.Slot := [nameField.slot, imageField.slot, envField.slot, portsField.slot]

/-- Part a container's entries into the named fields and all others. Other keys may be
texts or counts here, so that a count is refused only once all fields are read. -/
def part (seen : Content.Found.Fields) (others : List (Content × Content)) :
    List (Content × Content) → Except Mismatch (Content.Found.Fields × List (Content × Content))
  | [] => .ok (seen, others)
  | (.str s, c) :: rest =>
    match slots.find? fun slot => slot.names.contains s with
    | none => part seen (others ++ [(.str s, c)]) rest
    | some slot => do
      if (Entries.get? slot.name seen).isSome then throw (.duplicateField slot.name)
      slot.check c
      part (seen ++ [(slot.name, c)]) others rest
  | (.int n, c) :: rest =>
    if 0 ≤ n then part seen (others ++ [(.int n, c)]) rest
    else .error (.invalidType (.int n) "field identifier")
  | (key, _) :: _ => .error (.invalidType key.found "field identifier")

def read : Content → Except Mismatch Container
  | .map entries => do
    let (found, others) ← part [] [] entries
    let name ← nameField.value found
    let image ← imageField.value found
    let env ← envField.value found
    let ports ← portsField.value found
    let extra ← Content.toFields others
    return ⟨name, image, env, ports, Table.ofList extra⟩
  | c => .error (.invalidType c.found "struct ContainerSpec")

end Container

namespace Deployment

/-- The manifest's `spec`. -/
def spec (d : Deployment) (containers : List Json) : Json :=
  let volumes := match d.volumes with
    | none => []
    | some volumes => [("volumes", .arr volumes)]
  .obj [
    ("template", .obj [
      ("metadata", .obj (Descriptor.textsField "labels" d.labels)),
      ("spec", .obj ([("containers", .arr containers)] ++ volumes))]),
    ("replicas", .int d.replicas),
    ("strategy", .obj [("type", .str d.strategy.name)])]

def build (d : Deployment) (ns : String) : Except Invalid Descriptor := do
  checkName "DeploymentConfig" d.name
  if d.containers.isEmpty then throw (.noContainers d.name)
  if d.replicas < 0 then throw (.negativeReplicas d.name)
  let containers ← d.containers.mapM Container.build
  return { Descriptor.bare .deploymentConfig d.name ns
      (Table.ofList [("spec", d.spec containers)]) with labels := d.labels }

def nameField : Content.Field String := ⟨["name", "deployment_name"], Content.text, none⟩
def labelsField : Content.Field (Option (Table String String)) :=
  ⟨["labels"], Content.optional Content.texts, some none⟩
def replicasField : Content.Field Int := ⟨["replicas"], Content.int32, some 1⟩
def containersField : Content.Field (List Container) :=
  ⟨["containers"], Content.sequence Container.read, some []⟩
def strategyField : Content.Field Strategy :=
  ⟨["strategy"], Content.choice [("Rolling", .rolling), ("Recreate", .recreate)], some .rolling⟩
def volumesField : Content.Field (Option (List Json)) :=
  ⟨["volumes"], Content.optional (Content.sequence Content.toJson), some none⟩

def read (c : Content) : Except Mismatch Deployment := do
  let found ← Content.fields .held "struct DeploymentConfigSpec"
    [nameField.slot, labelsField.slot, replicasField.slot, containersField.slot,
      strategyField.slot, volumesField.slot] c
  let name ← nameField.value found
  let labels ← labelsField.value found
  let replicas ← replicasField.value found
  let containers ← containersField.value found
  let strategy ← strategyField.value found
  let volumes ← volumesField.value found
  return ⟨name, labels.getD .empty, replicas, containers, strategy, volumes⟩

end Deployment

end Converge
