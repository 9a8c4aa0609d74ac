import Converge.Content.Record
import Converge.Resource.Invalid
import Converge.Yaml.Stream

/-!
# Kubeconfig files

A kubeconfig file names clusters, users and contexts; a context is a cluster with the
user that talks to it. Before anything is asked of a cluster over HTTP, a context is
chosen, and what it names must be there.
-/

namespace Converge

namespace Kubeconfig

structure Cluster where
  server : Option String

structure Context where
  cluster : String
  user : Option String

/-- Something with a name, which may be nothing but the name. -/
structure Named (α : Type) where
  name : String
  content : Option α

/-- The content under a name; the first with the name counts. -/
def lookup {α : Type} (entries : List (Named α)) (name : String) : Option α :=
  (entries.find? fun entry => entry.name = name).bind Named.content

/-- Why no context can be chosen. -/
inductive Fault where
  | unreadable (cause : UnreadableFile)
  | noCurrentContext
  | noContext (name : String)
  | noCluster (name : String)
  | noUser (name : String)
  | noServer
deriving DecidableEq

def Fault.message : Fault → String
  | .unreadable (.value m) =>
    "the structure of the parsed kubeconfig is invalid: " ++ m.message .yaml
  | .unreadable cause => "failed to parse kubeconfig YAML: " ++ cause.message?.getD "<yaml>"
  | .noCurrentContext => "failed to determine current context"
  | .noContext name => "failed to load current context: " ++ name
  | .noCluster name => "failed to load the cluster of context: " ++ name
  | .noUser name => "failed to find named user: " ++ name
  | .noServer => "cluster url is missing on selected cluster"

end Kubeconfig

structure Kubeconfig where
  clusters : List (Kubeconfig.Named Kubeconfig.Cluster)
  users : List (Kubeconfig.Named Unit)
  contexts : List (Kubeconfig.Named Kubeconfig.Context)
  current : Option String

namespace Kubeconfig

def empty : Kubeconfig := ⟨[], [], [], none⟩

/-- Two files as one; what the first says counts. -/
def merge (a b : Kubeconfig) : Kubeconfig :=
  ⟨a.clusters ++ b.clusters, a.users ++ b.users, a.contexts ++ b.contexts, a.current.or b.current⟩

/-- An optional text under a name. -/
def textField (name : String) : Content.Field (Option String) :=
  ⟨[name], Content.optional Content.text, some none⟩

def readCluster (c : Content) : Except Mismatch Cluster := do
  let server := textField "server"
  let found ← Content.fields .direct "struct Cluster" [server.slot] c
  return ⟨← server.value found⟩

/-- Users are only known by name here; what they hold is a map of any kind. -/
def readUser : Content → Except Mismatch Unit
  | .map _ => .ok ()
  | c => .error (.invalidType c.found "struct AuthInfo")

def readContext (c : Content) : Except Mismatch Context := do
  let cluster : Content.Field String := ⟨["cluster"], Content.text, none⟩
  let user := textField "user"
  let found ← Content.fields .direct "struct Context" [cluster.slot, user.slot] c
  return ⟨← cluster.value found, ← user.value found⟩

def readNamed {α : Type} (type word : String) (read : Content → Except Mismatch α) (c : Content) :
    Except Mismatch (Named α) := do
  let name : Content.Field String := ⟨["name"], Content.text, none⟩
  let content : Content.Field (Option α) := ⟨[word], Content.optional read, some none⟩
  let found ← Content.fields .direct type [name.slot, content.slot] c
  return ⟨← name.value found, ← content.value found⟩

/-- A list of named things; nothing is an empty list. -/
def listField {α : Type} (name type word : String) (read : Content → Except Mismatch α) :
    Content.Field (Option (List (Named α))) :=
  ⟨[name], Content.optional (Content.sequence (readNamed type word read)), some none⟩

def clustersField := listField "clusters" "struct NamedCluster" "cluster" readCluster
def usersField := listField "users" "struct NamedAuthInfo" "user" readUser
def contextsField := listField "contexts" "struct NamedContext" "context" readContext
def currentField := textField "current-context"

def read (c : Content) : Except Mismatch Kubeconfig := do
  let found ← Content.fields .direct "struct Kubeconfig"
    [clustersField.slot, usersField.slot, contextsField.slot, currentField.slot] c
  let clusters ← clustersField.value found
  let users ← usersField.value found
  let contexts ← contextsField.value found
  let current ← currentField.value found
  return ⟨clusters.getD [], users.getD [], contexts.getD [], current⟩

def ofNode : Yaml.Node → Except UnreadableFile Kubeconfig
  | .null => .ok empty
  | n => (n.toContent.bind read).mapError .value

/-- The kubeconfig of a text; its documents are taken together. -/
def parse (text : String) : Except Fault Kubeconfig :=
  match Yaml.readDocuments ofNode text with
  | .error cause => .error (.unreadable cause)
  | .ok parts => .ok (parts.foldl merge empty)

/-- Choose a context, the current one if none is named, and see that what it names is
there. -/
def choose (k : Kubeconfig) (name : Option String) : Except Fault Context := do
  let name ← match name.or k.current with
    | some name => pure name
    | none => throw .noCurrentContext
  let context ← match lookup k.contexts name with
    | some context => pure context
    | none => throw (.noContext name)
  let cluster ← match lookup k.clusters context.cluster with
    | some cluster => pure cluster
    | none => throw (.noCluster context.cluster)
  match context.user with
  | some user => if (lookup k.users user).isNone then throw (.noUser user)
  | none => pure ()
  if cluster.server.isNone then throw .noServer
  return context

/-- Choose a context of a text. Where none is named, the program could also have been run
inside a cluster, and the fault says that it was not. -/
def chooseIn (text : String) (name : Option String) : Except Invalid Context :=
  ((parse text).bind fun k => k.choose name).mapError fun fault =>
    match name with
    | some name => .badContext name fault.message
    | none =>
      .noCluster ("failed to infer config: in-cluster: (failed to read an incluster " ++
        "environment variable: environment variable not found), kubeconfig: (" ++
        fault.message ++ ")")

end Kubeconfig

end Converge
