import Converge.Text.Find

/-!
# Help

What the program says of itself: its commands, and the options and arguments of each.
At length, every option has lines of its own with a blank one between; in brief, the
values an option can have follow on the line that describes it.
-/

namespace Converge.Help

/-- The name of the program on the command line. -/
def program : String := "oso-reconciler"

def version : String := program ++ " 0.1.0"

/-- The values that an option can have, with or without words on each. -/
inductive Values where
  | any
  | plain (words : List String)
  | described (words : List (String × String))

/-- An option as it is shown. -/
structure Entry where
  title : String
  text : String
  values : Values

/-- Blanks before a description. -/
def indent : String := "          "

/-- The possible values in a line. -/
def valuesLine (words : List String) : String :=
  "[possible values: " ++ Text.joinWith ", " words ++ "]"

/-- Fill lines of at most the given width with words; `line` is the one begun. -/
def fill (width : Nat) (line : String) : List String → List String
  | [] => [line]
  | word :: rest =>
    if line.length + 1 + word.length ≤ width then fill width (line ++ " " ++ word) rest
    else line :: fill width word rest

/-- A text in lines of at most the given width. -/
def wrap (width : Nat) (text : String) : List String :=
  match text.splitOn " " with
  | [] => []
  | word :: rest => fill width word rest

/-- The width of a description. -/
def descriptionWidth : Nat := 90

def Entry.brief (e : Entry) : List String :=
  let values := match e.values with
    | .any => ""
    | .plain words => " " ++ valuesLine words
    | .described words => " " ++ valuesLine (words.map Prod.fst)
  ("  " ++ e.title) :: (wrap descriptionWidth (e.text ++ values)).map (indent ++ ·)

def Entry.full (e : Entry) : List String :=
  let values := match e.values with
    | .any => []
    | .plain words => [indent, indent ++ valuesLine words]
    | .described words =>
      ["", indent ++ "Possible values:"] ++
        words.map fun (word, text) => indent ++ "- " ++ word ++ ": " ++ text
  ["  " ++ e.title, indent ++ e.text] ++ values

/-- Lists of lines with a blank line between. -/
def separate : List (List String) → List String
  | [] => []
  | [lines] => lines
  | lines :: rest => lines ++ [""] ++ separate rest

/-- The lines of entries. -/
def entryLines (isBrief : Bool) (entries : List Entry) : List String :=
  if isBrief then entries.flatMap Entry.brief else separate (entries.map Entry.full)

/-- A text with blanks up to a width. -/
def pad (width : Nat) (s : String) : String :=
  s ++ String.ofList (List.replicate (width - s.length) ' ')

/-- Names with a text each, in two columns. -/
def columns (rows : List (String × String)) : List String :=
  let width := rows.foldl (fun w row => max w row.1.length) 0
  rows.map fun (name, text) => "  " ++ pad width name ++ "  " ++ text

def transport : Entry :=
  ⟨"    --transport <TRANSPORT>", "Cluster transport [env: OSO_TRANSPORT]",
    .described [("cli", "Shell out to the `oc` command line client"),
      ("api", "Talk to the API server directly")]⟩

def binary : Entry :=
  ⟨"    --oc-binary <OC_BINARY>", "Binary used by the cli transport [env: OSO_OC_BINARY]", .any⟩

def contextName : Entry :=
  ⟨"    --context <CONTEXT>", "Kubeconfig context to use [env: OSO_CONTEXT]", .any⟩

def style : Entry :=
  ⟨"    --namespace-style <NAMESPACE_STYLE>",
    "Create namespaces as projects or plain namespaces [env: OSO_NAMESPACE_STYLE]",
    .plain ["project", "namespace"]⟩

def logFormat : Entry :=
  ⟨"    --log-format <LOG_FORMAT>", "Log output format [env: OSO_LOG_FORMAT]",
    .plain ["text", "json"]⟩

def help (isBrief : Bool) : Entry :=
  ⟨"-h, --help",
    if isBrief then "Print help (see more with '--help')"
    else "Print help (see a summary with '-h')",
    .any⟩

def versionEntry : Entry := ⟨"-V, --version", "Print version", .any⟩

def file : Entry := ⟨"-f, --file <FILE>", "Resource file, or '-' for stdin", .any⟩

def ns (text : String) : Entry := ⟨"-n, --namespace <NAMESPACE>", text, .any⟩

def dryRun (text : String) : Entry := ⟨"    --dry-run", text, .any⟩

def replace : Entry :=
  ⟨"    --replace", "Replace existing resources with the desired definition", .any⟩

def recreate : Entry := ⟨"    --recreate", "Delete and recreate existing resources", .any⟩

/-- The page on the program or on a command. -/
structure Page where
  about : String
  usage : String
  commands : List (String × String)
  positions : List (String × String)
  options : (isBrief : Bool) → List Entry

def applyPage : Page :=
  ⟨"Reconcile the resources described in a YAML file", "apply [OPTIONS] --file <FILE>", [], [],
    fun isBrief => [file, transport, ns "Namespace for every resource, overriding the file", binary,
      contextName, dryRun "Report what would change without changing anything", style, replace,
      logFormat, recreate, help isBrief]⟩

/-- The options of the commands on one resource. -/
def resourceOptions (isBrief : Bool) : List Entry :=
  [ns "", transport, dryRun "", binary, contextName, style, logFormat, help isBrief]

def deletePage : Page :=
  ⟨"Ensure a resource is absent", "delete [OPTIONS] --namespace <NAMESPACE> <KIND> <NAME>", [],
    [("<KIND>", "Resource kind, e.g. dc, pvc, route, service, secret"), ("<NAME>", "")],
    resourceOptions⟩

def secretPage : Page :=
  ⟨"Create or replace an opaque secret from KEY=VALUE literals",
    "secret [OPTIONS] --namespace <NAMESPACE> <NAME> <LITERALS>...", [],
    [("<NAME>", ""), ("<LITERALS>...", "Secret entries as KEY=VALUE")], resourceOptions⟩

def helpPage : Page :=
  ⟨"Print this message or the help of the given subcommand(s)", "help [COMMAND]...", [],
    [("[COMMAND]...", "Print help for the subcommand(s)")], fun _ => []⟩

def programPage : Page :=
  ⟨"Idempotently reconcile OpenShift resources", "[OPTIONS] <COMMAND>",
    [("apply", applyPage.about), ("delete", deletePage.about), ("secret", secretPage.about),
      ("help", helpPage.about)], [],
    fun isBrief =>
      [transport, binary, contextName, style, logFormat, help isBrief, versionEntry]⟩

def page : Option String → Page
  | some "apply" => applyPage
  | some "delete" => deletePage
  | some "secret" => secretPage
  | some "help" => helpPage
  | _ => programPage

/-- A part of a page under its heading, unless it is empty. -/
def part (heading : String) (lines : List String) : List (List String) :=
  if lines.isEmpty then [] else [heading :: lines]

/-- Positions in columns, or each with lines of its own. A page without options is
always in columns. -/
def positionLines (isBrief : Bool) (p : Page) : List String :=
  if isBrief || (p.options isBrief).isEmpty then columns p.positions
  else entryLines false (p.positions.map fun (title, text) => ⟨title, text, .any⟩)

def Page.lines (isBrief : Bool) (p : Page) : List String :=
  separate ([[p.about], ["Usage: " ++ program ++ " " ++ p.usage]] ++
    part "Commands:" (columns p.commands) ++ part "Arguments:" (positionLines isBrief p) ++
    part "Options:" (entryLines isBrief (p.options isBrief)))

/-- The help on a command or on the program. -/
def text (command : Option String) (isBrief : Bool) : String :=
  Text.joinWith "\n" ((page command).lines isBrief) ++ "\n"

end Converge.Help
