import Converge.Json.Basic
import Converge.Resource.Kind

/-!
# Descriptors

A descriptor is a resource in the form in which it is sent to a cluster: kind, name,
namespace, labels and annotations, and the other top-level fields of its manifest. No
labels and an empty set of labels are the same.
-/

namespace Converge

structure Descriptor where
  kind : Kind
  name : String
  ns : String
  labels : Table String String
  annotations : Table String String
  /-- The top-level fields other than version, kind and metadata. -/
  body : Table String Json

namespace Descriptor

/-- A descriptor without labels and annotations. -/
def bare (kind : Kind) (name ns : String) (body : Table String Json) : Descriptor :=
  ⟨kind, name, ns, .empty, .empty, body⟩

/-- Set one top-level field. -/
def withField (d : Descriptor) (key : String) (v : Json) : Descriptor :=
  { d with body := d.body.insert key v }

/-- A field with a table of texts, left out if the table is empty. -/
def textsField (name : String) (t : Table String String) : List (String × Json) :=
  if t.isEmpty then [] else [(name, Json.ofTexts t)]

def metadata (d : Descriptor) : Json :=
  .obj ([("name", .str d.name), ("namespace", .str d.ns)] ++
    textsField "labels" d.labels ++ textsField "annotations" d.annotations)

/-- The whole manifest. A field of the body that is named like one of the first
three takes its place. -/
def manifest (d : Descriptor) : Json :=
  Json.ofTable ((Table.ofList [("apiVersion", .str d.kind.apiVersion), ("kind", .str d.kind.name),
    ("metadata", d.metadata)]).insertAll d.body.entries)

end Descriptor

/-- The greatest integer of 64 bits with sign. -/
def maxInt64 : Int := (twoTo 63 : Int) - 1

/-- The version that follows the one a live deployment is at; a live object without
a version counts as at version zero, and the greatest version follows itself. -/
def nextVersion (live : Json) : Int :=
  min (((live.at? ["status", "latestVersion"]).bind Json.asInt64?).getD 0 + 1) maxInt64

/-- What is sent to replace a live object. A deployment carries a version past the
live one, which makes the cluster roll it out again. -/
def Kind.prepareReplace (kind : Kind) (desired : Descriptor) (live : Json) : Descriptor :=
  match kind with
  | .deploymentConfig =>
    desired.withField "status" (.obj [("latestVersion", .int (nextVersion live))])
  | _ => desired

@[simp] theorem Kind.prepareReplace_kind (kind : Kind) (d : Descriptor) (live : Json) :
    (kind.prepareReplace d live).kind = d.kind := by
  cases kind <;> rfl

@[simp] theorem Kind.prepareReplace_ns (kind : Kind) (d : Descriptor) (live : Json) :
    (kind.prepareReplace d live).ns = d.ns := by
  cases kind <;> rfl

@[simp] theorem Kind.prepareReplace_name (kind : Kind) (d : Descriptor) (live : Json) :
    (kind.prepareReplace d live).name = d.name := by
  cases kind <;> rfl

end Converge
