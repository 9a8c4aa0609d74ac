import Converge.Proofs.Containers
import Mathlib.Data.List.Forall2

/-!
# What becomes of a deployment

Everything in the manifest of a deployment can be told from the object that the deployment was
read of: the containers one by one and in their order, the labels in two places, the volumes as
they stand, and then the number of replicas and the strategy.
-/

namespace Converge

namespace Deployment

/-! ## The manifest, from the object -/

/-- Labels as a field, if there are any. -/
def labelFields (v : Json) : List (String × Json) :=
  if (v.given "labels").fieldList.isEmpty then [] else [("labels", v.given "labels")]

def volumeFields (v : Json) : List (String × Json) :=
  if (v.given "volumes").isNull then [] else [("volumes", v.given "volumes")]

/-- One replica, if nothing else is given. -/
def replicaCount (v : Json) : Int :=
  match v.field? "replicas" with
  | some (.int n) => n
  | _ => 1

/-- The name of the strategy, given as a text or as the only key of an object. -/
def strategyName (v : Json) : String :=
  match v.field? "strategy" with
  | some (.str name) | some (.obj ((name, _) :: _)) => name
  | _ => Strategy.rolling.name

def rendered (v : Json) : Json :=
  .obj [
    ("template", .obj [
      ("metadata", .obj (labelFields v)),
      ("spec", .obj ([("containers", .arr ((v.given "containers").itemList.map
        Container.rendered))] ++ volumeFields v))]),
    ("replicas", .int (replicaCount v)),
    ("strategy", .obj [("type", .str (strategyName v))])]

/-! ## Reading -/

def slots : List Content.Slot :=
  [nameField.slot, labelsField.slot, replicasField.slot, containersField.slot,
    strategyField.slot, volumesField.slot]

theorem slots_apart : Content.Apart slots := Content.apart_of_nodup (by decide)

structure ReadOf (d : Deployment) (l : List (String × Json)) : Prop where
  name : nameField.Reads l d.name
  labels : ∃ labels, labelsField.Reads l labels ∧ d.labels = labels.getD .empty
  replicas : replicasField.Reads l d.replicas
  containers : containersField.Reads l d.containers
  strategy : strategyField.Reads l d.strategy
  volumes : volumesField.Reads l d.volumes

theorem readOf_of_read {l : List (String × Json)} {d : Deployment}
    (ok : read (.map (Content.ofFields l)) = .ok d) : d.ReadOf l := by
  obtain ⟨found, fields, ok⟩ := bind_ok_iff.mp ok
  obtain ⟨name, nameRead, ok⟩ := bind_ok_iff.mp ok
  obtain ⟨labels, labelsRead, ok⟩ := bind_ok_iff.mp ok
  obtain ⟨replicas, replicasRead, ok⟩ := bind_ok_iff.mp ok
  obtain ⟨containers, containersRead, ok⟩ := bind_ok_iff.mp ok
  obtain ⟨strategy, strategyRead, ok⟩ := bind_ok_iff.mp ok
  obtain ⟨volumes, volumesRead, same⟩ := bind_ok_iff.mp ok
  cases same
  have finds := Content.foundInMap_first slots_apart (by decide) fields
  have reads {α : Type} {f : Content.Field α} {a : α} (listed : f.slot ∈ slots)
      (value : f.value found = .ok a) : f.Reads l a :=
    Content.Field.reads_of_value (finds f.slot listed) value
  exact ⟨reads (by simp [slots]) nameRead, ⟨labels, reads (by simp [slots]) labelsRead, rfl⟩,
    reads (by simp [slots]) replicasRead, reads (by simp [slots]) containersRead,
    reads (by simp [slots]) strategyRead, reads (by simp [slots]) volumesRead⟩

theorem ReadOf.of_erase {l : List (String × Json)} {d : Deployment}
    (read : d.ReadOf (Entries.erase "kind" l)) : d.ReadOf l where
  name := read.name.of_erase (by decide)
  labels := by
    obtain ⟨labels, reads, same⟩ := read.labels
    exact ⟨labels, reads.of_erase (by decide), same⟩
  replicas := read.replicas.of_erase (by decide)
  containers := read.containers.of_erase (by decide)
  strategy := read.strategy.of_erase (by decide)
  volumes := read.volumes.of_erase (by decide)

section Read

variable {l : List (String × Json)} {d : Deployment}

theorem ReadOf.labelFields (read : d.ReadOf l) (regular : (Json.obj l).Regular) :
    Descriptor.textsField "labels" d.labels = Deployment.labelFields (.obj l) := by
  obtain ⟨labels, reads, same⟩ := read.labels
  rw [Descriptor.textsField, Deployment.labelFields, Json.given, same]
  rcases reads.given_or_missing rfl with ⟨v, found, optional⟩ | ⟨missing, absent⟩
  · rw [found]
    rcases Content.optional_ofJson optional with ⟨rfl, none⟩ | ⟨t, some, texts⟩
    · rw [none]
      rfl
    · rw [some, Content.texts_ofJson (regular.value found) texts]
      have sizes : (Json.ofTexts t).fieldList.isEmpty = t.isEmpty :=
        List.isEmpty_map
      simp only [Option.getD_some, sizes]
  · rw [missing, ← Option.some.inj absent]
    rfl

theorem ReadOf.volumeFields (read : d.ReadOf l) (regular : (Json.obj l).Regular) :
    Deployment.volumeFields (.obj l) =
      (d.volumes.map fun volumes => ("volumes", Json.arr volumes)).toList := by
  rw [Deployment.volumeFields, Json.given]
  rcases read.volumes.given_or_missing rfl with ⟨v, found, values⟩ | ⟨missing, absent⟩
  · rw [found]
    rcases Content.optional_ofJson values with ⟨rfl, none⟩ | ⟨volumes, some, values⟩
    · rw [none]
      rfl
    · rw [some, Content.values_ofJson (regular.value found) values]
      rfl
  · rw [missing, ← Option.some.inj absent]
    rfl

theorem ReadOf.replicaCount (read : d.ReadOf l) :
    d.replicas = Deployment.replicaCount (.obj l) := by
  rw [Deployment.replicaCount]
  rcases read.replicas.given_or_missing rfl with ⟨v, found, integer⟩ | ⟨missing, absent⟩
  · rw [found, Content.int32_ofJson integer]
  · rw [missing, ← Option.some.inj absent]

theorem name_of_alternative {name : String} {s : Strategy}
    (ok : Content.alternative [("Rolling", .rolling), ("Recreate", .recreate)] name = .ok s) :
    s.name = name := by
  rw [Content.alternative, Entries.get?, Entries.get?] at ok
  by_cases rolling : "Rolling" = name
  · rw [if_pos rolling] at ok
    cases ok
    exact rolling
  · by_cases recreate : "Recreate" = name
    · rw [if_neg rolling, if_pos recreate] at ok
      cases ok
      exact recreate
    · rw [if_neg rolling, if_neg recreate] at ok
      cases ok

theorem ReadOf.strategyName (read : d.ReadOf l) :
    d.strategy.name = Deployment.strategyName (.obj l) := by
  rw [Deployment.strategyName]
  rcases read.strategy.given_or_missing rfl with ⟨v, found, choice⟩ | ⟨missing, absent⟩
  · rw [found]
    match v, choice with
    | .str name, choice => exact name_of_alternative choice
    | .obj [(name, _)], choice =>
      obtain ⟨s, named, choice⟩ := bind_ok_iff.mp choice
      obtain ⟨_, _, same⟩ := bind_ok_iff.mp choice
      cases same
      exact name_of_alternative named
  · rw [missing, ← Option.some.inj absent]

/-- The containers are read one by one. -/
theorem ReadOf.containers_read (read : d.ReadOf l) (regular : (Json.obj l).Regular) :
    List.Forall₂ (fun v (c : Container) => ∃ k, v = .obj k ∧ (Json.obj k).Regular ∧ c.ReadOf k)
      ((Json.obj l).given "containers").itemList d.containers := by
  rw [Json.given]
  rcases read.containers.given_or_missing rfl with ⟨v, found, sequence⟩ | ⟨missing, absent⟩
  · obtain ⟨items, rfl, each⟩ := Content.sequence_ofJson sequence
    rw [found]
    have regulars : ∀ v ∈ items, v.Regular := fun v inside =>
      (regular.value found).item inside
    refine ((List.forall₂_and_left _ _).mpr ⟨regulars, each⟩).imp ?_
    rintro v c ⟨regular, ok⟩
    obtain ⟨k, rfl, read⟩ := Container.readOf_of_read regular ok
    exact ⟨k, rfl, regular, read⟩
  · rw [missing, ← Option.some.inj absent]
    exact .nil

theorem ReadOf.containers_rendered (read : d.ReadOf l) (regular : (Json.obj l).Regular) :
    d.containers.map Container.toJson =
      ((Json.obj l).given "containers").itemList.map Container.rendered := by
  rw [eq_comm, ← List.forall₂_eq_eq_eq, List.forall₂_map_left_iff, List.forall₂_map_right_iff]
  refine (read.containers_read regular).imp ?_
  rintro v c ⟨k, rfl, regular, read⟩
  exact read.rendered regular

theorem ReadOf.spec (read : d.ReadOf l) (regular : (Json.obj l).Regular) :
    d.spec (d.containers.map Container.toJson) = rendered (.obj l) := by
  rw [Deployment.spec, rendered, read.labelFields regular, read.containers_rendered regular,
    read.replicaCount, read.strategyName, read.volumeFields regular]
  cases d.volumes <;> rfl

end Read

/-! ## Building -/

section Build

variable {d : Deployment} {ns : String}

/-- A deployment is built if it has a name and a container, does not have fewer than no replicas,
and every container has a name and an image. -/
theorem build_iff : (∃ made, d.build ns = .ok made) ↔
    isName d.name = true ∧ d.containers ≠ [] ∧ 0 ≤ d.replicas ∧
      ∀ c ∈ d.containers, c.name ≠ "" ∧ c.image ≠ "" := by
  constructor
  · rintro ⟨made, built⟩
    obtain ⟨named, built⟩ := checkName_then_iff.mp built
    obtain ⟨some, built⟩ := refuse_then_iff.mp built
    obtain ⟨count, built⟩ := refuse_then_iff.mp built
    obtain ⟨containers, each, -⟩ := bind_ok_iff.mp built
    exact ⟨named, by simpa using some, by omega, (Container.mapM_build_iff.mp each).1⟩
  · rintro ⟨named, some, count, complete⟩
    have each := Container.mapM_build_iff.mpr ⟨complete, rfl⟩
    exact ⟨_, checkName_then_iff.mpr ⟨named, refuse_then_iff.mpr ⟨by simpa using some,
      refuse_then_iff.mpr ⟨by omega, bind_ok_iff.mpr ⟨_, each, rfl⟩⟩⟩⟩⟩

end Build

end Deployment

/-- A deployment that is read of an object is read of the fields beside its kind. -/
theorem Config.deployment_of_ofJson {fields : List (String × Json)} {c : Config}
    (ok : ofJson (.obj fields) = .ok c) (deployment : c.kind = .deploymentConfig) :
    ∃ d, c = .deployment d ∧ d.ReadOf fields := by
  rw [ofJson] at ok
  cases tag : Entries.get? "kind" fields with
  | none => rw [tag] at ok; cases ok
  | some tag =>
    rw [tag] at ok
    obtain ⟨kind, -, ok⟩ := bind_ok_iff.mp ok
    cases kind with
    | deploymentConfig =>
      obtain ⟨d, read, same⟩ := map_ok_iff.mp ok
      exact ⟨d, same.symm, (Deployment.readOf_of_read read).of_erase⟩
    | _ =>
      obtain ⟨_, -, same⟩ := map_ok_iff.mp ok
      subst same
      cases deployment

/-- A deployment that is read of an object is built if its name is one, it has containers, each
with a name and an image, and no negative number of replicas. The manifest then has all that the
object has: the containers in their order and with all their fields, the labels in the metadata of
the deployment and of its template, the volumes, the replicas and the strategy, and nothing else. -/
theorem deployment_keeps_fields {fields : List (String × Json)}
    (regular : (Json.obj fields).Regular) {c : Config} (read : Config.ofJson (.obj fields) = .ok c)
    (deployment : c.kind = .deploymentConfig) (ns : String) :
    ∃ name, Entries.first? ["name", "deployment_name"] fields = some (.str name) ∧
      ((∃ d, c.build ns = .ok d) ↔ isName name = true ∧
        ((Json.obj fields).given "containers").itemList ≠ [] ∧
        0 ≤ Deployment.replicaCount (.obj fields) ∧
        ∀ v ∈ ((Json.obj fields).given "containers").itemList, Container.Complete v) ∧
      ∀ d, c.build ns = .ok d → d.manifest = .obj [
        ("apiVersion", .str "apps.openshift.io/v1"), ("kind", .str "DeploymentConfig"),
        ("metadata", .obj ([("name", .str name), ("namespace", .str ns)] ++
          Deployment.labelFields (.obj fields))),
        ("spec", Deployment.rendered (.obj fields))] := by
  obtain ⟨dep, rfl, parts⟩ := Config.deployment_of_ofJson read deployment
  refine ⟨dep.name, ?_, ?_, ?_⟩
  · rcases parts.name.given_or_absent with ⟨v, found, text⟩ | ⟨-, absent⟩
    · rw [← Content.text_ofJson text, ← found]
      rfl
    · cases absent
  · have containers := parts.containers_read regular
    have complete := forall_iff_of_forall₂ containers fun v c ⟨k, same, _, read⟩ =>
      same ▸ read.complete_iff
    have some : ((Json.obj fields).given "containers").itemList ≠ [] ↔ dep.containers ≠ [] := by
      rw [← List.length_pos_iff, ← List.length_pos_iff, containers.length_eq]
    rw [some, complete, ← parts.replicaCount]
    exact Deployment.build_iff
  · intro d built
    have sends := Config.sends_build built
    have metadata : d.metadata = .obj ([("name", .str dep.name), ("namespace", .str ns)] ++
        Deployment.labelFields (.obj fields)) := by
      rw [Descriptor.metadata, sends.name, sends.ns, sends.labels, sends.annotations,
        ← parts.labelFields regular]
      exact congrArg Json.obj (List.append_nil _)
    rw [Descriptor.manifest_eq sends.keepsHead, Descriptor.head, sends.kind, metadata, sends.body,
      ← parts.spec regular]
    rfl

namespace Storefront

def resources : Json :=
  .obj [("limits", .obj [("memory", .str "1Gi"), ("cpu", .float ⟨0x3FE0000000000000⟩)])]

/-- A deployment whose container has its ports first, its name last, and two fields of its own
on both sides of the image. -/
def fields : List (String × Json) :=
  [("strategy", .obj [("Recreate", .null)]), ("deployment_name", .str "web"),
    ("containers", .arr [.obj [("ports", .arr [.int 80, .int 443]), ("tty", .bool true),
      ("image", .str "registry/web:2"), ("resources", resources),
      ("env", .obj [("MODE", .str "quiet"), ("HOME", .str "")]), ("name", .str "main")]]),
    ("kind", .str "DeploymentConfig"), ("labels", .obj [("tier", .str "front")]),
    ("volumes", .arr [])]

end Storefront

theorem storefront_kept :
    (Json.obj Storefront.fields).Regular ∧
    ∃ c d, Config.ofJson (.obj Storefront.fields) = .ok c ∧ c.kind = .deploymentConfig ∧
      c.build "shop" = .ok d ∧
      d.manifest.at? ["spec", "template", "spec", "containers"] = some (.arr [.obj [
        ("name", .str "main"), ("image", .str "registry/web:2"), ("tty", .bool true),
        ("resources", Storefront.resources),
        ("env", .arr [.obj [("name", .str "MODE"), ("value", .str "quiet")],
          .obj [("name", .str "HOME"), ("value", .str "")]]),
        ("ports", .arr [.obj [("containerPort", .int 80)], .obj [("containerPort", .int 443)]])]]) ∧
      d.manifest.at? ["metadata", "labels"] = some (.obj [("tier", .str "front")]) := by
  have regular : (Json.obj Storefront.fields).Regular := ⟨by decide, by decide⟩
  have read : Config.ofJson (.obj Storefront.fields) = .ok _ := rfl
  obtain ⟨name, named, made, manifest⟩ := deployment_keeps_fields regular read rfl "shop"
  cases named
  have complete : ∀ v ∈ ((Json.obj Storefront.fields).given "containers").itemList,
      Container.Complete v :=
    List.forall_mem_singleton.mpr ⟨"main", "registry/web:2", rfl, rfl, by decide, by decide⟩
  obtain ⟨d, built⟩ := made.mpr ⟨by decide, by decide, by decide, complete⟩
  refine ⟨regular, _, d, read, rfl, built, ?_, ?_⟩
  · rw [manifest d built]
    rfl
  · rw [manifest d built]
    rfl

end Converge
