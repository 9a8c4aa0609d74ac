import Converge.Arguments.Invocation
import Converge.Document
import Converge.Text.Utf8

/-!
# Plans

What a task comes down to: desired states, and options for reaching them. A plan is
made before anything is asked of a cluster.
-/

namespace Converge

structure Plan where
  desired : List Desired
  options : Options

/-- Does the path stand for the standard input? Slashes behind its hyphen do not
count. -/
def isStandardInput (path : String) : Bool :=
  match path.toList with
  | '-' :: [] => true
  | '-' :: '/' :: rest =>
    (String.ofList rest).splitOn "/" |>.all fun part => part.isEmpty || part = "."
  | _ => false

namespace Plan

/-- The text of a file's octets. -/
def decode (content : Except String (List UInt8)) : Except Failure String :=
  match content with
  | .error reason => .error (.io reason)
  | .ok octets =>
    match Text.Utf8.decode octets with
    | some text => .ok text
    | none => .error (.io "stream did not contain valid UTF-8")

/-- The desired states of the resources in a file. -/
def ofFile (content : Except String (List UInt8)) (ns : Option String) (options : Options) :
    Except Failure Plan := do
  let text ← decode content
  let documents ← Document.parseAll text
  let desired ← (Document.desiredAll documents ns).mapError .invalid
  return ⟨desired, options⟩

/-- The absence of a resource. -/
def ofAbsence (kind name ns : String) (dryRun : Bool) : Except Failure Plan :=
  Except.mapError .invalid do
    let kind ← match Kind.ofWord? kind with
      | some kind => pure kind
      | none => throw (.unknownKind kind)
    let desired ← Desired.checkedAbsent kind ns name
    return ⟨[desired], ⟨false, false, dryRun⟩⟩

/-- The presence of a secret, whatever it holds now. -/
def ofSecret (name ns : String) (literals : List String) (dryRun : Bool) : Except Failure Plan :=
  Except.mapError .invalid do
    let secret ← Secret.ofLiterals name literals
    let d ← secret.build ns
    return ⟨[.present d], ⟨true, false, dryRun⟩⟩

/-- The plan for a task; a file is read by the given means. -/
def make {m : Type → Type} [Monad m] (read : String → m (Except String (List UInt8))) :
    Task → m (Except Failure Plan)
  | .apply file ns options => do return ofFile (← read file) ns options
  | .delete kind name ns dryRun => return ofAbsence kind name ns dryRun
  | .secret name ns literals dryRun => return ofSecret name ns literals dryRun

end Plan

end Converge
