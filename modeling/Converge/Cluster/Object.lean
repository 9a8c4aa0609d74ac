import Converge.Cluster.Timestamp
import Converge.Content.Reading

/-!
# Objects of the HTTP interface

An object is written in the way of the interface: its version and kind, its metadata
with known fields only, and then all other fields as they are. A version without a kind,
or one that is no text, is dropped, and so is a kind alone. Of a field that is given
twice in metadata the last value counts.
-/

namespace Converge

/-- A member of a typed object: its name, how its value is read, and the value it has
when it is left out, if it is written nevertheless. -/
structure Member where
  name : String
  /-- The value as it is written, or nothing. -/
  read : Json → Except Mismatch (Option Json)
  absent : Option Json

namespace Member

def foundIn (v : Json) : Found := (Content.ofJson v).found

/-- Nothing for null, else a value. -/
def orNull (read : Json → Except Mismatch Json) : Json → Except Mismatch (Option Json)
  | .null => .ok none
  | v => (read v).map some

def text (v : Json) : Except Mismatch Json := (Content.text (.ofJson v)).map .str

def boolean (v : Json) : Except Mismatch Json := (Content.boolean (.ofJson v)).map .bool

/-- An integer of 64 bits with sign. -/
def int64 : Json → Except Mismatch Json
  | .int n => if fitsSigned 64 n then .ok (.int n) else .error (.invalidValue (.int n) "i64")
  | v => .error (.invalidType (foundIn v) "i64")

def timestamp : Json → Except Mismatch Json
  | .str s =>
    match Timestamp.parse s with
    | .ok fields => .ok (.str fields.text)
    | .error p => .error (.timestamp p.message)
  | v => .error (.invalidType (foundIn v) "an RFC 3339 formatted date and time string")

def list (read : Json → Except Mismatch Json) : Json → Except Mismatch Json
  | .arr items => do return .arr (← items.mapM read)
  | v => .error (.invalidType (foundIn v) "a sequence")

/-- A map of texts, in the order of its keys. -/
def sortedTexts : Json → Except Mismatch Json
  | .obj fields => do
    let pairs ← fields.mapM fun (key, v) => do return (key, ← text v)
    return .obj ((Entries.putAll [] pairs).mergeSort fun a b => a.1 ≤ b.1)
  | v => .error (.invalidType (foundIn v) "a map")

/-- A member that may be null or left out. -/
def optional (name : String) (read : Json → Except Mismatch Json) : Member :=
  ⟨name, orNull read, none⟩

/-- A text that is empty when it is null or left out. -/
def emptyText (name : String) : Member := ⟨name, orNull text, some (.str "")⟩

/-- A text that may be left out but not be null, and has one possible value. -/
def constant (name value : String) : Member :=
  ⟨name, fun v => do
    match ← Content.text (.ofJson v) with
    | s => if s = value then return some (.str s) else throw (.invalidValue (.str s) value), none⟩

/-- The values of the members that are given, the last one of each. -/
def values (members : List Member) (given : List (String × Option Json)) :
    List (String × Json) → Except Mismatch (List (String × Option Json))
  | [] => .ok given
  | (name, v) :: rest =>
    match members.find? fun m => m.name = name with
    | none => values members given rest
    | some m => do
      let value ← m.read v
      values members (Entries.put name value given) rest

/-- A typed object: its members in their own order, all others dropped. -/
def object (type : String) (members : List Member) : Json → Except Mismatch Json
  | .obj fields => do
    let given ← values members [] fields
    return .obj (members.filterMap fun m =>
      (((Entries.get? m.name given).getD none).or m.absent).map fun v => (m.name, v))
  | v => .error (.invalidType (foundIn v) type)

end Member

namespace Object

def managedFields : Json → Except Mismatch Json :=
  Member.object "ManagedFieldsEntry" [
    .optional "apiVersion" Member.text, .optional "fieldsType" Member.text,
    .optional "fieldsV1" (fun v => .ok v.normalize), .optional "manager" Member.text,
    .optional "operation" Member.text, .optional "subresource" Member.text,
    .optional "time" Member.timestamp]

def ownerReference : Json → Except Mismatch Json :=
  Member.object "OwnerReference" [
    .emptyText "apiVersion", .optional "blockOwnerDeletion" Member.boolean,
    .optional "controller" Member.boolean, .emptyText "kind", .emptyText "name",
    .emptyText "uid"]

def metadata : Json → Except Mismatch Json :=
  Member.object "ObjectMeta" [
    .optional "annotations" Member.sortedTexts, .optional "creationTimestamp" Member.timestamp,
    .optional "deletionGracePeriodSeconds" Member.int64,
    .optional "deletionTimestamp" Member.timestamp,
    .optional "finalizers" (Member.list Member.text), .optional "generateName" Member.text,
    .optional "generation" Member.int64, .optional "labels" Member.sortedTexts,
    .optional "managedFields" (Member.list managedFields), .optional "name" Member.text,
    .optional "namespace" Member.text, .optional "ownerReferences" (Member.list ownerReference),
    .optional "resourceVersion" Member.text, .optional "selfLink" Member.text,
    .optional "uid" Member.text]

/-- Version and kind as far as they were found, and the other fields. -/
structure Types where
  version : Option String
  kind : Option String
  others : List (String × Json)

/-- Take version and kind out of some fields. Taking stops at the first one that is
given twice or is no text, and then there is neither. -/
def takeTypes (t : Types) : List (String × Json) → Types
  | [] => t
  | (name, v) :: rest =>
    let stopped : Types := ⟨none, none, t.others ++ rest⟩
    if name = "apiVersion" then
      match t.version, v with
      | none, .str s => takeTypes { t with version := some s } rest
      | _, _ => stopped
    else if name = "kind" then
      match t.kind, v with
      | none, .str s => takeTypes { t with kind := some s } rest
      | _, _ => stopped
    else takeTypes { t with others := t.others ++ [(name, v)] } rest

/-- The fields of version and kind, if there are both. -/
def Types.fields (t : Types) : List (String × Json) :=
  match t.version, t.kind with
  | some version, some kind => [("apiVersion", .str version), ("kind", .str kind)]
  | _, _ => []

/-- Read the metadata among some fields: it, if it is there, and the other fields. -/
def takeMetadata (found : Option Json) (others : List (String × Json)) :
    List (String × Json) → Except Mismatch (Option Json × List (String × Json))
  | [] => .ok (found, others)
  | (name, v) :: rest =>
    if name = "metadata" then
      if found.isSome then .error (.duplicateField "metadata")
      else do
        let m ← metadata v
        takeMetadata (some m) others rest
    else takeMetadata found (others ++ [(name, v)]) rest

/-- An object as it is written. -/
def convert : Json → Except Mismatch Json
  | .obj fields => do
    let (found, others) ← takeMetadata none [] fields
    let types := takeTypes ⟨none, none, []⟩ others
    let rest := match Json.normalize (.obj types.others) with
      | .obj rest => rest
      | _ => []
    return .obj (Entries.putAll []
      (types.fields ++ [("metadata", found.getD (.obj []))] ++ rest))
  | v => .error (.invalidType (Member.foundIn v) "struct DynamicObject")

def namespaceCondition : Json → Except Mismatch Json :=
  Member.object "NamespaceCondition" [
    .optional "lastTransitionTime" Member.timestamp, .optional "message" Member.text,
    .optional "reason" Member.text, .emptyText "status", .emptyText "type"]

def namespaceSpec : Json → Except Mismatch Json :=
  Member.object "NamespaceSpec" [.optional "finalizers" (Member.list Member.text)]

def namespaceStatus : Json → Except Mismatch Json :=
  Member.object "NamespaceStatus" [
    .optional "conditions" (Member.list namespaceCondition), .optional "phase" Member.text]

/-- A namespace as it is read; only version and kind may not be null. -/
def readNamespace : Json → Except Mismatch Json :=
  Member.object "Namespace" [
    .constant "apiVersion" "v1", .constant "kind" "Namespace",
    .optional "metadata" metadata, .optional "spec" namespaceSpec,
    .optional "status" namespaceStatus]

/-- A new namespace as it is sent. -/
def newNamespace (name : String) : Json :=
  .obj [("apiVersion", .str "v1"), ("kind", .str "Namespace"),
    ("metadata", .obj [("name", .str name)])]

end Object

end Converge
