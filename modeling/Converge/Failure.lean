import Converge.Cluster.ErrorResponse
import Converge.Content.Mismatch
import Converge.Json.Syntax
import Converge.Resource.Invalid

/-!
# Failures

Everything that can end a run, by cause. What is said of a failure and the exit code
of the program are functions of the cause.
-/

namespace Converge

/-- JSON that could not be read: a fault in the text, or a value of another form than
the type asked for. -/
inductive UnreadableJson where
  | text (e : Json.SyntaxError)
  | value (m : Mismatch)
deriving DecidableEq

def UnreadableJson.message : UnreadableJson → String
  | .text e => e.message
  | .value m => m.message .json

/-- A resource file that could not be read: a value of another form than the type
asked for, a repeated key, or a fault in the text. -/
inductive UnreadableFile where
  | value (m : Mismatch)
  | repeatedKey (key : String)
  | text
deriving DecidableEq

/-- The words for a cause, unless they would be taken for words with a place. -/
def placeless (text : String) : Option String :=
  if Text.contains text " at line " then none else some text

/-- What is said of a file. Nothing is said of a fault in the text, of a sequence of the
wrong length, and of a cause whose words speak of a place. -/
def UnreadableFile.message? : UnreadableFile → Option String
  | .value (.invalidLength ..) => none
  | .value m => placeless (m.message .yaml)
  | .repeatedKey key => placeless ("duplicate entry with key " ++ key)
  | .text => none

/-- A failure of the HTTP interface. -/
inductive ApiFailure where
  | response (r : ErrorResponse)
  | undecodable (e : UnreadableJson)
  | service (reason : String)
  | request (reason : String)
deriving DecidableEq

def ApiFailure.message : ApiFailure → String
  | .response r => "ApiError: " ++ r.message ++ ": " ++ r.reason ++ " (" ++ r.describe ++ ")"
  | .undecodable e => "Error deserializing response: " ++ e.message
  | .service reason => "ServiceError: " ++ reason
  | .request reason => "Failed to build request: " ++ reason

inductive Failure where
  | notFound (kind name command stderr : String)
  | alreadyExists (kind name command stderr : String)
  /-- A command failed for another reason. -/
  | transport (command stdout stderr : String) (exitCode : Int)
  | unauthorized (command stderr : String)
  | invalid (cause : Invalid)
  | api (cause : ApiFailure)
  | serialization (cause : UnreadableJson)
  | file (cause : UnreadableFile)
  | io (reason : String)
deriving DecidableEq

namespace Failure

def message : Failure → String
  | .notFound kind name command stderr =>
    kind ++ " \"" ++ name ++ "\" not found (`" ++ command ++ "`: " ++ stderr ++ ")"
  | .alreadyExists kind name command stderr =>
    kind ++ " \"" ++ name ++ "\" already exists (`" ++ command ++ "`: " ++ stderr ++ ")"
  | .transport command _ stderr exitCode =>
    "Command `" ++ command ++ "` failed with exit code " ++ toString exitCode ++ ": " ++ stderr
  | .unauthorized command stderr => "Not authorized to run `" ++ command ++ "`: " ++ stderr
  | .invalid cause => "Invalid resource: " ++ cause.message
  | .api cause => "Kubernetes API error: " ++ cause.message
  | .serialization cause => "Failed to (de)serialize resource: " ++ cause.message
  | .file cause => "Failed to load resource file: " ++ cause.message?.getD "<yaml>"
  | .io reason => "I/O error: " ++ reason

/-- The exit code of a program that ends with the failure. -/
def exitCode : Failure → Nat
  | .invalid _ | .file _ => 2
  | .unauthorized .. => 3
  | .notFound .. | .alreadyExists .. | .transport .. | .api _ => 4
  | .serialization _ | .io _ => 1

def isNotFound : Failure → Bool
  | .notFound .. => true
  | _ => false

def isAlreadyExists : Failure → Bool
  | .alreadyExists .. => true
  | _ => false

end Failure

end Converge
