import Converge.Arguments.Scan
import Converge.Reconcile.Decision

/-!
# Invocations

What the words of a command line ask for: a command with its arguments, and what is to
be changed in the settings.
-/

namespace Converge

/-- What a command line says about the settings. -/
structure Overrides where
  transport : Option Transport
  binary : Option String
  context : Option String
  style : Option NamespaceStyle
  logFormat : Option LogFormat
deriving DecidableEq, Repr

/-- What the overrides say, and for the rest what the settings say. -/
def Overrides.override (o : Overrides) (s : Settings) : Settings :=
  ⟨o.transport.getD s.transport, o.binary.getD s.binary, o.context.or s.context,
    o.style.getD s.style, o.logFormat.getD s.logFormat⟩

/-- What the program is to do. -/
inductive Task where
  /-- Reconcile the resources of a file. -/
  | apply (file : String) (ns : Option String) (options : Options)
  /-- See to it that a resource is absent. -/
  | delete (kind name ns : String) (dryRun : Bool)
  /-- Create or replace a secret. -/
  | secret (name ns : String) (literals : List String) (dryRun : Bool)
deriving DecidableEq, Repr

structure Invocation where
  overrides : Overrides
  task : Task
deriving DecidableEq, Repr

namespace Arguments

namespace State

/-- The value of an argument that may be left out. -/
def value? (s : State) (a : Argument) : Option String := (s.values? a).bind List.head?

/-- The value of an argument that may not be left out. -/
def required (s : State) (a : Argument) : Except Refusal String :=
  match s.value? a with
  | some value => .ok value
  | none => .error .missingArgument

def given (s : State) (a : Argument) : Bool := (s.values? a).isSome

/-- The choice that an argument's value names. -/
def choice {α : Type} (s : State) (a : Argument) (options : List (String × α)) : Option α :=
  (s.value? a).bind fun word => (options.find? fun option => option.1 = word).map Prod.snd

/-- What is said about the settings at one level. -/
def overrides (s : State) : Overrides :=
  ⟨s.choice .transport Settings.transports, s.value? .binary, s.value? .contextName,
    s.choice .style Settings.styles, s.choice .logFormat Settings.logFormats⟩

end State

/-- What an inner level says, and for the rest what the outer level says. -/
def merge (inner outer : Overrides) : Overrides :=
  ⟨inner.transport.or outer.transport, inner.binary.or outer.binary,
    inner.context.or outer.context, inner.style.or outer.style,
    inner.logFormat.or outer.logFormat⟩

/-- The arguments of `apply`. -/
def readApply (s : State) : Except Refusal Task := do
  if s.given .replace && s.given .recreate then throw .conflict
  let file ← s.required .file
  return .apply file (s.value? .ns) ⟨s.given .replace, s.given .recreate, s.given .dryRun⟩

/-- The arguments of `delete`. -/
def readDelete (s : State) : Except Refusal Task := do
  let kind ← s.required .kindWord
  let name ← s.required .resourceName
  let ns ← s.required .ns
  return .delete kind name ns (s.given .dryRun)

/-- The arguments of `secret`. -/
def readSecret (s : State) : Except Refusal Task := do
  let name ← s.required .resourceName
  let ns ← s.required .ns
  let literals ← match s.values? .literals with
    | some literals => pure literals
    | none => throw .missingArgument
  return .secret name ns literals (s.given .dryRun)

/-- The words of a command, after its own. -/
def readCommand (level : Level) (task : State → Except Refusal Task) (words : List String) :
    Except Refusal Invocation := do
  let s ← (State.start level).readAll level words
  return ⟨s.overrides, ← task s⟩

/-- Help on the command that the words lead to. Commands have no commands of their own. -/
def helpOn : List String → Refusal
  | [] => .help none false
  | [word] => if Level.root.commands.contains word then .help (some word) false else .unknownCommand
  | _ => .unknownCommand

/-- The word of a command and the words after it. -/
def dispatch (word : String) (rest : List String) : Except Refusal Invocation :=
  match word with
  | "apply" => readCommand .apply readApply rest
  | "delete" => readCommand .delete readDelete rest
  | "secret" => readCommand .secret readSecret rest
  | _ => .error (helpOn rest)

/-- Read a command line. What a command's own words say is refused before what is
pending from the words before it. -/
def read (words : List String) : Except Refusal Invocation := do
  let (s, rest) ← (State.start .root).readToCommand .root words
  match rest with
  | [] => do
    let s ← s.settle
    throw (if s.settled.isEmpty then .nothingGiven else .missingCommand)
  | word :: rest => do
    let invocation ← dispatch word rest
    let s ← s.settle
    return { invocation with overrides := merge invocation.overrides s.overrides }

end Arguments

end Converge
