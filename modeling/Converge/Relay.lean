import Converge.Cluster.Http
import Converge.Cluster.Process
import Converge.Kubeconfig

/-!
# Relayed commands and requests

The program starts no other program and opens no connection. Whoever starts it does
both: it is told of each command or request in a line of JSON, and answers with a line
of JSON that says how it ended.
-/

namespace Converge.Relay

/-- A command to be run by a program. -/
def ofCommand (binary : String) (c : Command) : Json :=
  .obj ([("program", .str binary), ("arguments", .arr (c.args.map .str))] ++
    match c.stdin with
    | none => []
    | some text => [("input", .str text)])

/-- A request to be sent to the cluster of a context. -/
def ofRequest (context : Kubeconfig.Context) (r : Http.Request) : Json :=
  .obj ([("cluster", .str context.cluster)] ++
    (match context.user with
      | none => []
      | some user => [("user", .str user)]) ++
    [("method", .str r.method.name), ("path", .str r.path)] ++
    match r.body with
    | none => []
    | some body => [("body", .str body.compact)])

/-- A text in an answer. -/
def text? (answer : Json) (name : String) : Option String :=
  (answer.field? name).bind Json.asString?

/-- An integer in an answer. -/
def int? (answer : Json) (name : String) : Option Int :=
  match answer.field? name with
  | some (.int n) => some n
  | _ => none

/-- The octets of a text in an answer. -/
def octets (answer : Json) (name : String) : List UInt8 :=
  Text.Utf8.encode ((text? answer name).getD "")

/-- How a command ended, from the answer. -/
def toEnd (answer : Json) : ProcessEnd :=
  match text? answer "unstarted", text? answer "unread" with
  | some reason, _ => .unstarted reason
  | none, some reason => .unread reason
  | none, none => .exited (int? answer "code") (octets answer "stdout") (octets answer "stderr")

/-- What is said where there is no cluster to talk to. -/
def noConnection : String := "client error (Connect)"

/-- How a request ended, from the answer. -/
def toResponse (answer : Json) : Except String Http.Response :=
  match int? answer "status" with
  | some status => .ok ⟨status.toNat, (text? answer "body").getD ""⟩
  | none => .error ((text? answer "fault").getD noConnection)

end Converge.Relay
