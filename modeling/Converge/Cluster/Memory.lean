import Converge.Cluster.Dialogue

/-!
# Clusters in memory

A cluster that holds objects by kind, namespace and name, and a set of namespaces.
An object is filed under what its manifest says of itself. Creating an object does
not ask whether its namespace is there.
-/

namespace Converge

/-- Kind, namespace and name of an object. -/
abbrev ObjectKey : Type := String × String × String

structure Memory where
  objects : Table ObjectKey Json
  namespaces : List String

namespace Memory

/-- A text of a manifest, empty where there is none. -/
def textAt (path : List String) (manifest : Json) : String :=
  ((manifest.at? path).bind Json.asString?).getD ""

/-- What a manifest is filed under. -/
def keyOf (manifest : Json) : ObjectKey :=
  (textAt ["kind"] manifest, textAt ["metadata", "namespace"] manifest,
    textAt ["metadata", "name"] manifest)

def empty : Memory := ⟨.empty, []⟩

def hasNamespace (m : Memory) (ns : String) : Bool := m.namespaces.contains ns

def addNamespace (m : Memory) (ns : String) : Memory :=
  if m.hasNamespace ns then m else { m with namespaces := m.namespaces ++ [ns] }

/-- File a manifest. -/
def store (m : Memory) (manifest : Json) : Memory :=
  { m with objects := m.objects.insert (keyOf manifest) manifest }

/-- A cluster with some namespaces and objects, the objects' namespaces included. -/
def ofContents (namespaces : List String) (objects : List Json) : Memory :=
  objects.foldl (fun m o => (m.store o).addNamespace (keyOf o).2.1)
    (namespaces.foldl addNamespace empty)

def alreadyExists (c : Call) (kind name reason : String) : Failure :=
  .alreadyExists kind name c.describe reason

/-- Answer a call and carry it out. -/
def answer : (c : Call) → Memory → c.Answer × Memory
  | .get kind ns name, m => (.ok (m.objects.get? (kind.name, ns, name)), m)
  | .create d, m =>
    if m.objects.contains (keyOf d.manifest) then
      (.error (alreadyExists (.create d) d.kind.name d.name "object already exists"), m)
    else (.ok d.manifest, m.store d.manifest)
  | .replace d, m => (.ok d.manifest, m.store d.manifest)
  | .delete kind ns name, m =>
    if m.objects.contains (kind.name, ns, name) then
      (.ok (), { m with objects := m.objects.erase (kind.name, ns, name) })
    else
      (.error (.notFound kind.name name (Call.delete kind ns name).describe "object not found"), m)
  | .namespaceExists ns, m => (.ok (m.hasNamespace ns), m)
  | .createNamespace ns, m =>
    if m.hasNamespace ns then
      (.error (alreadyExists (.createNamespace ns) "namespace" ns "namespace already exists"), m)
    else (.ok (), m.addNamespace ns)

/-- The cluster as a client. -/
def client : Client Memory := ⟨"namespace", answer⟩

end Memory

end Converge
