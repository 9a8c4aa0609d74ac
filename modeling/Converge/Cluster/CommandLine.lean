import Converge.Cluster.Dialogue
import Converge.Json.Parser
import Converge.Json.Printer
import Converge.Settings

/-!
# Clusters behind a command line

Every call is one command: arguments, and for a manifest the text on its standard
input. What a failed command means is read off its standard error, where only the
server's own words for a reason count, and words of missing authorization count first.
-/

namespace Converge

/-- One invocation of the command line client. -/
structure Command where
  args : List String
  stdin : Option String
deriving DecidableEq

/-- The command as a line, for people only. -/
def Command.line (c : Command) (binary : String) : String := Text.joinWith " " (binary :: c.args)

/-- Exit code and output of a finished command. -/
structure Finished where
  exitCode : Int
  stdout : String
  stderr : String
deriving DecidableEq

namespace CommandLine

/-- Which program is run, in which context, and how namespaces are asked for. -/
structure Setup where
  binary : String
  context : Option String
  style : NamespaceStyle

def Setup.ofSettings (s : Settings) : Setup := ⟨s.binary, s.context, s.style⟩

/-- What a namespace is called. -/
def NamespaceStyle.word : NamespaceStyle → String
  | .project => "project"
  | .namespace => "namespace"

def Setup.namespaceWord (s : Setup) : String := NamespaceStyle.word s.style

/-- The command of a call, without the context. -/
def bareCommand (setup : Setup) : Call → Command
  | .get kind ns name => ⟨["get", kind.shortName ++ "/" ++ name, "-n", ns, "-o", "json"], none⟩
  | .create d => ⟨["create", "-f", "-", "-n", d.ns, "-o", "json"], some d.manifest.pretty⟩
  | .replace d => ⟨["replace", "-f", "-", "-n", d.ns, "-o", "json"], some d.manifest.pretty⟩
  | .delete kind ns name => ⟨["delete", kind.shortName ++ "/" ++ name, "-n", ns], none⟩
  | .namespaceExists ns => ⟨["get", setup.namespaceWord ++ "/" ++ ns, "-o", "name"], none⟩
  | .createNamespace ns =>
    match setup.style with
    | .project => ⟨["new-project", ns, "--skip-config-write"], none⟩
    | .namespace => ⟨["create", "namespace", ns], none⟩

/-- The command of a call. -/
def command (setup : Setup) (c : Call) : Command :=
  let bare := bareCommand setup c
  match setup.context with
  | none => bare
  | some context => { bare with args := bare.args ++ ["--context=" ++ context] }

def notFoundMark : String := "Error from server (NotFound)"

def alreadyExistsMark : String := "Error from server (AlreadyExists)"

def forbiddenMark : String := "Error from server (Forbidden)"

def unauthorizedMarks : List String :=
  ["Unauthorized", "Forbidden", "forbidden:", "must be logged in"]

/-- What a call is about, in the words of the command line. -/
def subject (setup : Setup) : Call → String × String
  | .get kind _ name | .delete kind _ name => (kind.name, name)
  | .create d | .replace d => (d.kind.name, d.name)
  | .namespaceExists ns | .createNamespace ns => (setup.namespaceWord, ns)

/-- The failure that a command's output tells of. -/
def classify (line : String) (subject : String × String) (output : Finished) : Failure :=
  if unauthorizedMarks.any (Text.contains output.stderr) then .unauthorized line output.stderr
  else if Text.contains output.stderr notFoundMark then
    .notFound subject.1 subject.2 line output.stderr
  else if Text.contains output.stderr alreadyExistsMark then
    .alreadyExists subject.1 subject.2 line output.stderr
  else .transport line output.stdout output.stderr output.exitCode

/-- The standard output of a command that succeeded. -/
def output (setup : Setup) (c : Call) : Except Failure Finished → Except Failure String
  | .error failure => .error failure
  | .ok finished =>
    if finished.exitCode = 0 then .ok finished.stdout
    else .error (classify ((command setup c).line setup.binary) (subject setup c) finished)

/-- The object that a command printed. -/
def object (stdout : String) : Except Failure Json :=
  (Json.parse stdout).mapError fun e => .serialization (.text e)

/-- A project that the user may not see is taken for missing; asking for it settles
whether it is. -/
def isHiddenProject (setup : Setup) : Failure → Bool
  | .unauthorized _ stderr =>
    setup.style = .project && Text.contains stderr forbiddenMark
  | _ => false

/-- The answer to a call, from how its command ended. -/
def reply (setup : Setup) : (c : Call) → Except Failure Finished → c.Answer
  | .get kind ns name, result =>
    match output setup (.get kind ns name) result with
    | .ok stdout => (object stdout).map some
    | .error failure => if failure.isNotFound then .ok none else .error failure
  | .create d, result =>
    match output setup (.create d) result with
    | .ok stdout => object stdout
    | .error failure => .error failure
  | .replace d, result =>
    match output setup (.replace d) result with
    | .ok stdout => object stdout
    | .error failure => .error failure
  | .delete kind ns name, result =>
    match output setup (.delete kind ns name) result with
    | .ok _ => .ok ()
    | .error failure => .error failure
  | .namespaceExists ns, result =>
    match output setup (.namespaceExists ns) result with
    | .ok _ => .ok true
    | .error failure =>
      if failure.isNotFound || isHiddenProject setup failure then .ok false else .error failure
  | .createNamespace ns, result =>
    match output setup (.createNamespace ns) result with
    | .ok _ => .ok ()
    | .error failure => .error failure

/-- Something that runs commands, with a state of type `ρ`. -/
abbrev Runner (ρ : Type) : Type := Command → ρ → Except Failure Finished × ρ

/-- The cluster as a client. -/
def client {ρ : Type} (setup : Setup) (runner : Runner ρ) : Client ρ where
  noun := setup.namespaceWord
  answer c s :=
    let (result, s) := runner (command setup c) s
    (reply setup c result, s)

/-- A runner's answers given beforehand, and the commands it was given, the last one
last. -/
structure Script where
  answers : List (Except Failure Finished)
  commands : List Command

/-- Give the next answer. -/
def scripted : Runner Script := fun command script =>
  let commands := script.commands ++ [command]
  match script.answers with
  | [] => (.ok ⟨1, "", "no scripted response"⟩, ⟨[], commands⟩)
  | answer :: rest => (answer, ⟨rest, commands⟩)

end CommandLine

end Converge
