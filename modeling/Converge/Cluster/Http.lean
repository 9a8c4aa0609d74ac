import Converge.Cluster.Dialogue
import Converge.Cluster.Object
import Converge.Cluster.Status
import Converge.Json.Parser

/-!
# Clusters behind an HTTP interface

Every call is one request. Names stand in paths as they are, so a name that no path may
hold, or an empty one, fails before anything is sent. What a refusal means is read off
the code and the reason in its body, not off the status line.
-/

namespace Converge.Http

inductive Method where
  | get
  | post
  | put
  | delete
deriving DecidableEq, Repr

def Method.name : Method → String
  | .get => "GET"
  | .post => "POST"
  | .put => "PUT"
  | .delete => "DELETE"

structure Request where
  method : Method
  path : String
  query : String
  body : Option Json

structure Response where
  status : Nat
  body : String
deriving DecidableEq

/-- The path of all resources of a kind in a namespace. -/
def collection (kind : Kind) (ns : String) : String :=
  let root := if kind.group = "" then "/api/" else "/apis/"
  root ++ kind.apiVersion ++ "/namespaces/" ++ ns ++ "/" ++ kind.plural

/-- The path of all namespaces. -/
def namespaces : String := "/api/v1/namespaces"

/-- May the octet stand in a path? -/
def isPathOctet (b : UInt8) : Bool :=
  let n := b.toNat
  n = 0x21 || n = 0x22 || (0x24 ≤ n && n ≤ 0x3b) || n = 0x3d || (0x40 ≤ n && n ≤ 0x5f) || 0x61 ≤ n

/-- May the octet stand in a query? -/
def isQueryOctet (b : UInt8) : Bool :=
  let n := b.toNat
  n = 0x21 || (0x24 ≤ n && n ≤ 0x3b) || n = 0x3d || 0x3f ≤ n

/-- Path and query of a target; a fragment is cut off. -/
def splitTarget (target : String) : Option (String × String) :=
  let whole := target.toList.takeWhile (· ≠ '#')
  let path := String.ofList (whole.takeWhile (· ≠ '?'))
  let query := String.ofList ((whole.dropWhile (· ≠ '?')).drop 1)
  if (Text.Utf8.encode path).all isPathOctet && (Text.Utf8.encode query).all isQueryOctet then
    some (path, query)
  else none

/-- A request to a path. -/
def build (method : Method) (path : String) (body : Option Json) : Except Failure Request :=
  match splitTarget (path ++ "?") with
  | some (path, query) => .ok ⟨method, path, query, body⟩
  | none => .error (.api (.request "failed to build request: invalid uri character"))

/-- A request to one of a collection. -/
def buildNamed (method : Method) (collection name : String) (body : Option Json) :
    Except Failure Request :=
  if name.isEmpty then
    .error (.api (.request "failed to validate request: A non-empty name is required"))
  else build method (collection ++ "/" ++ name) body

/-- The manifest in the way of the interface. -/
def document (d : Descriptor) : Except Failure Json :=
  (Object.convert d.manifest).mapError fun m => .serialization (.value m)

/-- The request of a call. -/
def request : Call → Except Failure Request
  | .get kind ns name => buildNamed .get (collection kind ns) name none
  | .create d => do
    let body ← document d
    build .post (collection d.kind d.ns) (some body)
  | .replace d => do
    let body ← document d
    buildNamed .put (collection d.kind d.ns) d.name (some body)
  | .delete kind ns name => buildNamed .delete (collection kind ns) name (some (.obj []))
  | .namespaceExists ns => buildNamed .get namespaces ns none
  | .createNamespace ns => build .post namespaces (some (Object.newNamespace ns))

/-- What a call is about, as it is said in failures: verb, kind and name. -/
def subject : Call → String × String × String
  | .get kind _ name => ("get", kind.name, name)
  | .create d => ("create", d.kind.name, d.name)
  | .replace d => ("replace", d.kind.name, d.name)
  | .delete kind _ name => ("delete", kind.name, name)
  | .namespaceExists ns => ("get", "Namespace", ns)
  | .createNamespace ns => ("create", "Namespace", ns)

/-- The failure that a refusal means. -/
def classify (c : Call) (r : ErrorResponse) : Failure :=
  let (verb, kind, name) := subject c
  let command := verb ++ " " ++ kind ++ "/" ++ name
  if r.code = 404 then .notFound kind name command r.message
  else if r.code = 409 ∧ r.reason = "AlreadyExists" then .alreadyExists kind name command r.message
  else if r.code = 401 ∨ r.code = 403 then .unauthorized command r.message
  else .api (.response r)

/-- Does the status refuse the request? -/
def isRefusal (status : Nat) : Bool := 400 ≤ status && status < 600

/-- The refusal that a body tells of. -/
def refusal (r : Response) : ErrorResponse :=
  match Json.read r.body with
  | .error _ => Status.unexplained r.status r.body
  | .ok v =>
    match Status.readError (Content.ofJson v) with
    | .ok e => e
    | .error _ => Status.unexplained r.status r.body

/-- How a request ended: with a body, or refused. -/
inductive Ending where
  | accepted (body : String)
  | refused (e : ErrorResponse)

def ending (r : Response) : Ending :=
  if isRefusal r.status then .refused (refusal r) else .accepted r.body

/-- Read a body. -/
def decode {α : Type} (read : Json → Except Mismatch α) (body : String) : Except Failure α :=
  match Json.read body with
  | .error e => .error (.api (.undecodable (.text e)))
  | .ok v => (read v).mapError fun m => .api (.undecodable (.value m))

/-- Read the body of a deletion: a status, or the object. -/
def readDeleted (v : Json) : Except Mismatch Unit :=
  match v.normalize.field? "kind" with
  | some (.str "Status") => Status.read (Content.ofJson v)
  | _ => (Object.convert v).map fun _ => ()

/-- The answer to a call, from how its request ended. -/
def reply : (c : Call) → Except String Response → c.Answer
  | _, .error reason => .error (.api (.service reason))
  | .get kind ns name, .ok r =>
    match ending r with
    | .accepted body => (decode Object.convert body).map some
    | .refused e =>
      if e.reason = "NotFound" then .ok none else .error (classify (.get kind ns name) e)
  | .create d, .ok r =>
    match ending r with
    | .accepted body => decode Object.convert body
    | .refused e => .error (classify (.create d) e)
  | .replace d, .ok r =>
    match ending r with
    | .accepted body => decode Object.convert body
    | .refused e => .error (classify (.replace d) e)
  | .delete kind ns name, .ok r =>
    match ending r with
    | .accepted body => decode readDeleted body
    | .refused e => .error (classify (.delete kind ns name) e)
  | .namespaceExists ns, .ok r =>
    match ending r with
    | .accepted body => (decode Object.readNamespace body).map fun _ => true
    | .refused e =>
      if e.reason = "NotFound" then .ok false else .error (classify (.namespaceExists ns) e)
  | .createNamespace ns, .ok r =>
    match ending r with
    | .accepted body => (decode Object.readNamespace body).map fun _ => ()
    | .refused e => .error (classify (.createNamespace ns) e)

/-- Something that answers requests, with a state of type `ρ`. -/
abbrev Service (ρ : Type) : Type := Request → ρ → Except String Response × ρ

/-- What a namespace is called. -/
def noun : String := "namespace"

/-- The cluster as a client. -/
def client {ρ : Type} (service : Service ρ) : Client ρ where
  noun := noun
  answer c s :=
    match request c with
    | .error failure => (.error failure, s)
    | .ok r =>
      let (result, s) := service r s
      (reply c result, s)

/-- A service's answers given beforehand, and the requests it was given, the last one
last. -/
structure Script where
  answers : List (Except String Response)
  requests : List Request

/-- Give the next answer. -/
def scripted : Service Script := fun r script =>
  let requests := script.requests ++ [r]
  match script.answers with
  | [] => (.ok ⟨500, "no scripted response"⟩, ⟨[], requests⟩)
  | answer :: rest => (answer, ⟨rest, requests⟩)

end Converge.Http
