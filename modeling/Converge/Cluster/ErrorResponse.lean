import Converge.Text.Quoted

/-!
# Error responses

The answer of a server that refuses a request: its own word for the outcome, a
message, a reason, and a code. The code is the server's and need not be that of the
HTTP status.
-/

namespace Converge

structure ErrorResponse where
  status : String
  message : String
  reason : String
  code : Nat
deriving DecidableEq

/-- All fields, quoted. -/
def ErrorResponse.describe (r : ErrorResponse) : String :=
  "ErrorResponse \x7b status: " ++ Text.quoted r.status ++ ", message: " ++ Text.quoted r.message ++
    ", reason: " ++ Text.quoted r.reason ++ ", code: " ++ toString r.code ++ " \x7d"

end Converge
