import Converge.Cluster.Memory
import Converge.Reconcile.Desired

/-!
# What a manifest is filed under

A cluster in memory files an object under what its manifest says of itself. That is the
kind, the namespace and the name of the descriptor, as long as no field of its body takes
the place of the manifest's head.
-/

namespace Converge

namespace Descriptor

def headFields : List String := ["apiVersion", "kind", "metadata"]

/-- No field of the body takes the place of version, kind or metadata. -/
def KeepsHead (d : Descriptor) : Prop := ∀ key ∈ headFields, key ∉ d.body.keys

instance (d : Descriptor) : Decidable d.KeepsHead :=
  inferInstanceAs (Decidable (∀ key ∈ headFields, key ∉ d.body.keys))

theorem manifest_field {d : Descriptor} (h : d.KeepsHead) {key : String} (head : key ∈ headFields) :
    d.manifest.field? key =
      (Table.ofList [("apiVersion", Json.str d.kind.apiVersion), ("kind", .str d.kind.name),
        ("metadata", d.metadata)]).get? key :=
  Table.get?_insertAll_of_not_mem (h key head)

theorem manifest_kind {d : Descriptor} (h : d.KeepsHead) :
    d.manifest.field? "kind" = some (.str d.kind.name) := by
  rw [manifest_field h (by decide)]
  rfl

theorem manifest_metadata {d : Descriptor} (h : d.KeepsHead) :
    d.manifest.field? "metadata" = some d.metadata := by
  rw [manifest_field h (by decide)]
  rfl

theorem metadata_namespace (d : Descriptor) :
    d.metadata.field? "namespace" = some (.str d.ns) := rfl

theorem metadata_name (d : Descriptor) : d.metadata.field? "name" = some (.str d.name) := rfl

theorem KeepsHead.withField {d : Descriptor} (h : d.KeepsHead) {key : String} (v : Json)
    (body : key ∉ headFields) : (d.withField key v).KeepsHead := by
  intro other head inside
  rcases Table.mem_keys_insert.mp inside with rfl | inside
  · exact body head
  · exact h other head inside

theorem KeepsHead.prepareReplace {d : Descriptor} (h : d.KeepsHead) (kind : Kind) (live : Json) :
    (kind.prepareReplace d live).KeepsHead := by
  cases kind with
  | deploymentConfig => exact h.withField _ (by decide)
  | _ => exact h

end Descriptor

namespace Memory

def key (kind : Kind) (ns name : String) : ObjectKey := (kind.name, ns, name)

theorem keyOf_manifest {d : Descriptor} (h : d.KeepsHead) :
    keyOf d.manifest = key d.kind d.ns d.name := by
  simp only [keyOf, textAt, Json.at?, Descriptor.manifest_kind h, Descriptor.manifest_metadata h,
    Option.bind_some, Descriptor.metadata_namespace, Descriptor.metadata_name, Json.asString?,
    Option.getD_some, key]

end Memory

theorem Kind.name_injective {a b : Kind} (h : a.name = b.name) : a = b := by
  cases a <;> cases b <;> first | rfl | exact absurd h (by decide)

namespace Desired

/-- Kind, namespace and name: two desired states with the same are about one resource. -/
def identity (desired : Desired) : Kind × String × String :=
  (desired.kind, desired.ns, desired.name)

def key (desired : Desired) : ObjectKey := Memory.key desired.kind desired.ns desired.name

theorem identity_eq_of_key_eq {a b : Desired} (h : a.key = b.key) : a.identity = b.identity := by
  obtain ⟨kind, rest⟩ := Prod.mk.injEq .. ▸ h
  rw [identity, identity, Kind.name_injective kind, rest]

theorem nodup_keys {desired : List Desired} (h : (desired.map identity).Nodup) :
    (desired.map key).Nodup :=
  List.pairwise_map.mpr ((List.pairwise_map.mp h).imp fun different same =>
    different (identity_eq_of_key_eq same))

def KeepsHead : Desired → Prop
  | .present d => d.KeepsHead
  | .absent .. => True

theorem keepsHead_of {desired : List Desired}
    (heads : ∀ d, .present d ∈ desired → d.KeepsHead) : ∀ d ∈ desired, d.KeepsHead := by
  intro d listed
  cases d with
  | present d => exact heads d listed
  | absent kind ns name => trivial

end Desired

end Converge
