import Converge.Cluster.Http
import Converge.Cluster.Process
import Converge.Help
import Converge.Kubeconfig
import Converge.Plan
import Converge.Reconcile.Run

/-!
# The program

The program reads its arguments and its environment, makes a plan, and carries it out
on a cluster. What it needs of its surroundings is named in one place, and works in any
monad: in that of a state it is a function, in that of the outside world it runs.
-/

namespace Converge

/-- What the program needs of its surroundings. -/
structure Surroundings (m : Type → Type) where
  /-- The value of a variable of the environment. -/
  lookup : String → Option String
  /-- The octets of a file, or of the standard input, or why there are none. -/
  read : String → m (Except String (List UInt8))
  /-- The text of the kubeconfig file. -/
  kubeconfig : m String
  /-- Run a program with a command's arguments and input. -/
  exec : (binary : String) → Command → m ProcessEnd
  /-- Send a request to the cluster of a context. -/
  send : Kubeconfig.Context → Http.Request → m (Except String Http.Response)

/-- How the program ends. -/
structure Ending where
  exitCode : Nat
  stdout : String
  stderr : String
deriving DecidableEq

namespace Program

/-- The exit code of a program that was not used as it should be. -/
def misuse : Nat := 2

/-- The end of a run that did not get beyond the words of its command line. -/
def refused : Refusal → Ending
  | .help command isBrief => ⟨0, Help.text command isBrief, ""⟩
  | .version => ⟨0, Help.version ++ "\n", ""⟩
  | .nothingGiven => ⟨misuse, "", Help.text none true⟩
  | refusal => ⟨misuse, "", "error: " ++ refusal.message ++ "\n"⟩

/-- The end of a run that did not get beyond its environment. -/
def misconfigured (b : Settings.BadVariable) : Ending :=
  ⟨misuse, "", "Error: " ++ b.message ++ "\n"⟩

/-- The end of a run, with its report. -/
def reported (result : Except Failure Unit) (report : Report) : Ending :=
  match result with
  | .ok () => ⟨0, report.text ++ "\n", ""⟩
  | .error failure =>
    ⟨failure.exitCode, (report.withError (some failure.message)).text ++ "\n", ""⟩

section

variable {m : Type → Type} [Monad m]

/-- The end of a command. -/
def exec (w : Surroundings m) (setup : CommandLine.Setup) (c : Command) :
    m (Except Failure Finished) := do
  let ending ← w.exec setup.binary c
  return ending.finished (c.line setup.binary)

/-- Answer a call by a command. -/
def answerByCommand (w : Surroundings m) (setup : CommandLine.Setup) (c : Call) : m c.Answer := do
  let result ← exec w setup (CommandLine.command setup c)
  return CommandLine.reply setup c result

/-- Answer a call by a request. -/
def answerByRequest (w : Surroundings m) (context : Kubeconfig.Context) (c : Call) :
    m c.Answer := do
  match Http.request c with
  | .error failure => return .error failure
  | .ok r => return Http.reply c (← w.send context r)

/-- Carry a plan out from an empty report. -/
def carryOut (w : Surroundings m) (s : Settings) (plan : Plan) : m Ending := do
  match s.transport with
  | .cli =>
    let setup := CommandLine.Setup.ofSettings s
    let (result, report) ← Dialogue.runIn (answerByCommand w setup)
      (reconcileAll setup.namespaceWord plan.options plan.desired .empty)
    return reported result report
  | .api =>
    match Kubeconfig.chooseIn (← w.kubeconfig) s.context with
    | .error cause => return reported (.error (.invalid cause)) .empty
    | .ok context =>
      let (result, report) ← Dialogue.runIn (answerByRequest w context)
        (reconcileAll Http.noun plan.options plan.desired .empty)
      return reported result report

/-- The program. -/
def main (w : Surroundings m) (words : List String) : m Ending := do
  match Arguments.read words with
  | .error refusal => return refused refusal
  | .ok invocation =>
    match Settings.ofEnvironment w.lookup with
    | .error b => return misconfigured b
    | .ok s =>
      match ← Plan.make w.read invocation.task with
      | .error failure => return reported (.error failure) .empty
      | .ok plan => carryOut w (invocation.overrides.override s) plan

end

end Program

end Converge
