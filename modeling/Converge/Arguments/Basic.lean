import Converge.Settings

/-!
# Arguments of the program

The arguments that words of a command line can give, the words that name them, and the
values they take. At each level of a command line, before and after the command's own
word, other arguments are known.
-/

namespace Converge

/-- Why words are no invocation. Asking for help or for the version is a reason too. -/
inductive Refusal where
  | invalidValue
  | unknownArgument
  | unknownCommand
  | missingCommand
  /-- There are no words at all. -/
  | nothingGiven
  | missingArgument
  /-- Two arguments that exclude each other, or one that is given twice. -/
  | conflict
  /-- A value for an argument that takes none. -/
  | unwantedValue
  /-- Help is asked for, on a command or on the program, in brief or at length. -/
  | help (command : Option String) (isBrief : Bool)
  | version
deriving DecidableEq, Repr

/-- What is said of words that are refused. -/
def Refusal.message : Refusal → String
  | .invalidValue => "a value is missing or is not a possible one"
  | .unknownArgument => "an argument is not known here"
  | .unknownCommand => "a command is not known"
  | .missingCommand | .nothingGiven => "a command is missing"
  | .missingArgument => "a required argument is missing"
  | .conflict => "an argument cannot be used with another or a second time"
  | .unwantedValue => "a value is given to an argument that takes none"
  | .help .. => "help is asked for"
  | .version => "the version is asked for"

inductive Argument where
  | transport
  | binary
  | contextName
  | style
  | logFormat
  | file
  | ns
  | dryRun
  | replace
  | recreate
  | kindWord
  | resourceName
  | literals
  | help
  | version
deriving DecidableEq, Repr

/-- What an argument takes. -/
inductive Operand where
  | nothing
  | text
  | path
  | choice (words : List String)

namespace Argument

/-- The word of an option, after its two hyphens. -/
def long? : Argument → Option String
  | .transport => some "transport"
  | .binary => some "oc-binary"
  | .contextName => some "context"
  | .style => some "namespace-style"
  | .logFormat => some "log-format"
  | .file => some "file"
  | .ns => some "namespace"
  | .dryRun => some "dry-run"
  | .replace => some "replace"
  | .recreate => some "recreate"
  | .help => some "help"
  | .version => some "version"
  | .kindWord | .resourceName | .literals => none

/-- The letter of an option, after its hyphen. -/
def short? : Argument → Option Char
  | .file => some 'f'
  | .ns => some 'n'
  | .help => some 'h'
  | .version => some 'V'
  | _ => none

def operand : Argument → Operand
  | .dryRun | .replace | .recreate | .help | .version => .nothing
  | .transport => .choice (Settings.transports.map Prod.fst)
  | .style => .choice (Settings.styles.map Prod.fst)
  | .logFormat => .choice (Settings.logFormats.map Prod.fst)
  | .file => .path
  | .binary | .contextName | .ns | .kindWord | .resourceName | .literals => .text

def takesValue (a : Argument) : Bool :=
  match a.operand with
  | .nothing => false
  | _ => true

/-- May the argument have more than one value? -/
def repeats : Argument → Bool
  | .literals => true
  | _ => false

/-- May the argument have the value? -/
def accepts (a : Argument) (value : String) : Bool :=
  match a.operand with
  | .nothing => false
  | .text => true
  | .path => !value.isEmpty
  | .choice words => words.contains value

end Argument

/-- The arguments known at one level of a command line: options, which words name, in
any order, and positions, which are filled in turn. -/
structure Level where
  /-- The word of the command, if there is one. -/
  command : Option String
  options : List Argument
  positions : List Argument
  /-- The words of the commands that may follow. -/
  commands : List String

namespace Level

def long? (level : Level) (word : String) : Option Argument :=
  level.options.find? fun a => a.long? = some word

def short? (level : Level) (letter : Char) : Option Argument :=
  level.options.find? fun a => a.short? = some letter

/-- The options of the program, known at every level. -/
def common : List Argument := [.transport, .binary, .contextName, .style, .logFormat, .help]

def root : Level := ⟨none, .version :: common, [], ["apply", "delete", "secret", "help"]⟩

def apply : Level :=
  ⟨some "apply", [.file, .ns, .dryRun, .replace, .recreate] ++ common, [], []⟩

def delete : Level :=
  ⟨some "delete", [.ns, .dryRun] ++ common, [.kindWord, .resourceName], []⟩

def secret : Level :=
  ⟨some "secret", [.ns, .dryRun] ++ common, [.resourceName, .literals], []⟩

end Level

end Converge
