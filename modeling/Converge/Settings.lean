/-!
# Settings

How a cluster is reached, and in which form the log is written. Settings come from
variables of the environment; flags of the command line go before them.
-/

namespace Converge

/-- How a cluster is talked to. -/
inductive Transport where
  | cli
  | api
deriving DecidableEq, Repr

/-- Whether a namespace is asked for as a project or as a plain namespace. -/
inductive NamespaceStyle where
  | project
  | namespace
deriving DecidableEq, Repr

inductive LogFormat where
  | text
  | json
deriving DecidableEq, Repr

structure Settings where
  transport : Transport
  /-- The program that the command line transport runs. -/
  binary : String
  context : Option String
  style : NamespaceStyle
  logFormat : LogFormat
deriving DecidableEq, Repr

namespace Settings

def default : Settings := ⟨.cli, "oc", none, .project, .text⟩

/-- The variables that are read. -/
def variableNames : List String :=
  ["OSO_TRANSPORT", "OSO_NAMESPACE_STYLE", "OSO_LOG_FORMAT", "OSO_OC_BINARY", "OSO_CONTEXT"]

def transports : List (String × Transport) := [("cli", .cli), ("api", .api)]

def styles : List (String × NamespaceStyle) := [("project", .project), ("namespace", .namespace)]

def logFormats : List (String × LogFormat) := [("text", .text), ("json", .json)]

/-- A variable with a value that it cannot have. -/
structure BadVariable where
  name : String
  value : String
deriving DecidableEq, Repr

def BadVariable.message (b : BadVariable) : String :=
  "Invalid value '" ++ b.value ++ "' for " ++ b.name

/-- ASCII letters in lower case. -/
def lower (s : String) : String := String.ofList (s.toList.map Char.toLower)

/-- The choice that a variable makes, without regard to the case of ASCII letters. -/
def chosen {α : Type} (options : List (String × α)) (fallback : α) (name : String) :
    Option String → Except BadVariable α
  | none => .ok fallback
  | some value =>
    match options.find? fun option => option.1 = lower value with
    | some (_, choice) => .ok choice
    | none => .error ⟨name, value⟩

/-- The settings of an environment. An empty binary or context is none. -/
def ofEnvironment (lookup : String → Option String) : Except BadVariable Settings := do
  let transport ← chosen transports default.transport "OSO_TRANSPORT" (lookup "OSO_TRANSPORT")
  let style ←
    chosen styles default.style "OSO_NAMESPACE_STYLE" (lookup "OSO_NAMESPACE_STYLE")
  let logFormat ← chosen logFormats default.logFormat "OSO_LOG_FORMAT" (lookup "OSO_LOG_FORMAT")
  let nonEmpty (s : String) : Bool := !s.isEmpty
  let binary := ((lookup "OSO_OC_BINARY").filter nonEmpty).getD default.binary
  let context := (lookup "OSO_CONTEXT").filter nonEmpty
  return ⟨transport, binary, context, style, logFormat⟩

end Settings

end Converge
