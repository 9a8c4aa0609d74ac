import Converge.Cluster.CommandLine
import Converge.Text.Utf8

/-!
# Commands as processes

How a command ends when it is run as a process of its own: it cannot be started, it
does not read its input, or it exits and leaves octets on its outputs.
-/

namespace Converge

/-- How a process ended. -/
inductive ProcessEnd where
  /-- There was no such process. -/
  | unstarted (reason : String)
  /-- Its input could not be written. -/
  | unread (reason : String)
  /-- It exited with a code, or was killed. -/
  | exited (code : Option Int) (stdout stderr : List UInt8)

namespace ProcessEnd

/-- The exit code that stands for none. -/
def noCode : Int := -1

/-- The end of a process as the end of the command with the given line. Outputs are
taken as text even where they are not. -/
def finished (line : String) : ProcessEnd → Except Failure Finished
  | .unstarted reason => .error (.transport line "" reason noCode)
  | .unread reason => .error (.io reason)
  | .exited code stdout stderr =>
    .ok ⟨code.getD noCode, Text.Utf8.decodeLossy stdout, Text.Utf8.decodeLossy stderr⟩

end ProcessEnd

end Converge
