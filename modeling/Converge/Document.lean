import Converge.Reconcile.Desired
import Converge.Resource.Config
import Converge.Yaml.Stream

/-!
# Resource files

A resource file is a YAML text of one or more documents. A document is a resource
configuration that may also give a namespace and say whether the resource should be
present or absent. Documents that are null are passed over.
-/

namespace Converge

/-- Whether a resource should be there. -/
inductive Presence where
  | present
  | absent
deriving DecidableEq, Repr

structure Document where
  ns : Option String
  presence : Presence
  resource : Config

namespace Document

/-- What is wanted, in the given namespace or else in the document's own. -/
def desired (d : Document) (ns : Option String) : Except Invalid Desired :=
  match ns.or d.ns with
  | none => .error (.noNamespace d.resource.kind d.resource.name)
  | some ns =>
    match d.presence with
    | .present => (d.resource.build ns).map .present
    | .absent => Desired.checkedAbsent d.resource.kind ns d.resource.name

/-- What all documents want; the first that is invalid decides. -/
def desiredAll (documents : List Document) (ns : Option String) : Except Invalid (List Desired) :=
  documents.mapM fun d => d.desired ns

/-- A text or nothing. -/
def readNamespace : Yaml.Node → Except Mismatch (Option String)
  | .null => .ok none
  | n =>
    match n.untag with
    | .str s => .ok (some s)
    | other => .error (.invalidType other.found "a string")

def presences : List (String × Presence) := [("present", .present), ("absent", .absent)]

/-- A tag without the exclamation mark it may begin with. -/
def bareTag (tag : String) : String :=
  match tag.toList with
  | '!' :: c :: rest => String.ofList (c :: rest)
  | _ => tag

/-- A word, or the word as the tag of a null. -/
def readPresence : Yaml.Node → Except Mismatch Presence
  | .str s => Content.alternative presences s
  | .tagged tag n => do
    let presence ← Content.alternative presences (bareTag tag)
    match n.untag with
    | .null => return presence
    | other => throw (.invalidType other.found "unit")
  | other => .error (.invalidType other.found "a Value::Tagged enum")

/-- A document's own fields as far as they were found, and the fields of the resource. -/
structure Parts where
  ns : Option (Option String)
  presence : Option Presence
  fields : List (Content × Content)

/-- Part the fields of a document, in their order. -/
def part (parts : Parts) : List (Yaml.Node × Yaml.Node) → Except Mismatch Parts
  | [] => .ok parts
  | (key, value) :: rest =>
    match key.untag with
    | .str name =>
      if name = "namespace" then
        if parts.ns.isSome then .error (.duplicateField "namespace")
        else do
          let ns ← readNamespace value
          part { parts with ns := some ns } rest
      else if name = "state" then
        if parts.presence.isSome then .error (.duplicateField "state")
        else do
          let presence ← readPresence value
          part { parts with presence := some presence } rest
      else do
        let content ← value.toContent
        part { parts with fields := parts.fields ++ [(.str name, content)] } rest
    | other => .error (.invalidType other.found "field identifier")

/-- Is this the entry of the tag? -/
def isTag (entry : Content × Content) : Bool :=
  match entry.1 with
  | .str "kind" => true
  | _ => false

/-- The resource of a document's fields. -/
def readResource (fields : List (Content × Content)) : Except Mismatch Config := do
  match fields.filter isTag with
  | [] => throw (.missingField "kind")
  | (_, tag) :: others =>
    let kind ← Content.identifier Kind.byName tag
    if !others.isEmpty then throw (.duplicateField "kind")
    Config.ofContent kind (.map (fields.filter fun entry => !isTag entry))

def ofNode (n : Yaml.Node) : Except Mismatch Document := do
  let entries ← match n.untag with
    | .map entries => pure entries
    | other => throw (.invalidType other.found "struct ResourceDocument")
  let parts ← part ⟨none, none, []⟩ entries
  let resource ← readResource parts.fields
  return ⟨parts.ns.getD none, parts.presence.getD .present, resource⟩

/-- A document that is not null, whether or not the null has a tag. -/
def ofNode? (n : Yaml.Node) : Except UnreadableFile (Option Document) :=
  match n.untag with
  | .null => .ok none
  | _ => (ofNode n).map some |>.mapError .value

/-- The documents of a resource file; there must be one. -/
def parseAll (text : String) : Except Failure (List Document) :=
  match (Yaml.readDocuments ofNode? text).map (List.filterMap id) with
  | .error e => .error (.file e)
  | .ok [] => .error (.invalid .noResources)
  | .ok documents => .ok documents

end Document

end Converge
