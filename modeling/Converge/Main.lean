import Converge.Program
import Converge.Relay

/-!
# The program in the outside world

Commands and requests are written to descriptor 3, and their answers are read from
descriptor 4.
-/

namespace Converge.Outside

/-- The system's words for a fault, with its number. -/
def systemWords (code : UInt32) (details : String) : String :=
  let number := if code < 0x80000000 then code else 0 - code
  details.capitalize ++ " (os error " ++ toString number ++ ")"

/-- What is said of a fault. -/
def reason : IO.Error → String
  | .interrupted _ code details | .noFileOrDirectory _ code details => systemWords code details
  | .alreadyExists _ code details | .invalidArgument _ code details
  | .permissionDenied _ code details | .resourceExhausted _ code details
  | .inappropriateType _ code details | .noSuchThing _ code details => systemWords code details
  | .otherError code details | .resourceBusy code details | .resourceVanished code details
  | .unsupportedOperation code details | .hardwareFault code details
  | .unsatisfiedConstraints code details | .illegalOperation code details
  | .protocolError code details | .timeExpired code details => systemWords code details
  | other => toString other

/-- The octets of a file. -/
def read (path : String) : IO (Except String (List UInt8)) := do
  try
    let octets ← IO.FS.readBinFile (if isStandardInput path then "/dev/stdin" else path)
    return .ok octets.toList
  catch e => return .error (reason e)

/-- The text of the file that a variable names. -/
def kubeconfig : IO String := do
  match ← IO.getEnv "KUBECONFIG" with
  | none => return ""
  | some path =>
    match ← read path with
    | .ok octets => return Text.Utf8.decodeLossy octets
    | .error _ => return ""

/-- Descriptors to whoever started the program. -/
structure Line where
  requests : IO.FS.Handle
  answers : IO.FS.Handle

/-- The descriptors, or why they cannot be used. -/
def Line.open : IO (Except String Line) := do
  try
    return .ok ⟨← IO.FS.Handle.mk "/dev/fd/3" .write, ← IO.FS.Handle.mk "/dev/fd/4" .read⟩
  catch e => return .error (reason e)

/-- Ask whoever started the program. -/
def ask (line : Except String Line) (request : Json) : IO (Except String Json) := do
  match line with
  | .error reason => return .error reason
  | .ok line =>
    try
      line.requests.putStrLn request.compact
      line.requests.flush
      return (Json.parse (← line.answers.getLine)).mapError fun e => e.message
    catch e => return .error (reason e)

def surroundings (environment : List (String × String)) (line : Except String Line) :
    Surroundings IO where
  lookup name := Entries.get? name environment
  read := read
  kubeconfig := kubeconfig
  exec binary c := do
    match ← ask line (Relay.ofCommand binary c) with
    | .ok answer => return Relay.toEnd answer
    | .error reason => return .unstarted reason
  send context r := do
    match ← ask line (Relay.ofRequest context r) with
    | .ok answer => return Relay.toResponse answer
    | .error _ => return .error Relay.noConnection

/-- The variables of the environment that say something about the settings. -/
def environment : IO (List (String × String)) :=
  Settings.variableNames.filterMapM fun name => do
    return (← IO.getEnv name).map fun value => (name, value)

end Converge.Outside

def main (args : List String) : IO UInt32 := do
  let environment ← Converge.Outside.environment
  let line ← Converge.Outside.Line.open
  let ending ← Converge.Program.main (Converge.Outside.surroundings environment line) args
  IO.print ending.stdout
  IO.eprint ending.stderr
  return ending.exitCode.toUInt32
