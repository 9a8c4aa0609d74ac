import Converge.Cluster.ErrorResponse
import Converge.Content.Choice
import Converge.Content.Record

/-!
# Status bodies

What a server says of an outcome instead of sending an object, and what is made of a
refusal whose body says nothing.
-/

namespace Converge.Status

/-- A natural number that fits a number of bits. -/
def natural (type : String) (bits : Nat) : Content → Except Mismatch Nat
  | .int n =>
    if fitsUnsigned bits n then .ok n.toNat else .error (.invalidValue (.int n) type)
  | c => .error (.invalidType c.found type)

def code : Content → Except Mismatch Nat := natural "u16" 16

def statusField : Content.Field String := ⟨["status"], Content.text, none⟩
def messageField : Content.Field String := ⟨["message"], Content.text, some ""⟩
def reasonField : Content.Field String := ⟨["reason"], Content.text, some ""⟩
def codeField : Content.Field Nat := ⟨["code"], code, none⟩

/-- Read the body of a refusal. -/
def readError (c : Content) : Except Mismatch ErrorResponse := do
  let found ← Content.fields .direct "struct ErrorResponse"
    [statusField.slot, messageField.slot, reasonField.slot, codeField.slot] c
  let status ← statusField.value found
  let message ← messageField.value found
  let reason ← reasonField.value found
  let code ← codeField.value found
  return ⟨status, message, reason, code⟩

/-- A field that may be left out and is only checked. -/
def checked {α : Type} (name : String) (read : Content → Except Mismatch α) : Content.Slot :=
  ⟨[name], false, fun c => (read c).map fun _ => ()⟩

def readCause (c : Content) : Except Mismatch Unit := do
  let _ ← Content.fields .direct "struct StatusCause"
    [checked "reason" Content.text, checked "message" Content.text, checked "field" Content.text] c

def readDetails (c : Content) : Except Mismatch Unit := do
  let _ ← Content.fields .direct "struct StatusDetails"
    [checked "name" Content.text, checked "group" Content.text, checked "kind" Content.text,
      checked "uid" Content.text, checked "causes" (Content.sequence readCause),
      checked "retryAfterSeconds" (natural "u32" 32)] c

def summaries : List (String × Bool) := [("Success", true), ("Failure", false)]

/-- Check the form of a status. -/
def read (c : Content) : Except Mismatch Unit := do
  let _ ← Content.fields .direct "struct Status"
    [checked "status" (Content.optional (Content.choice summaries)), checked "code" code,
      checked "message" Content.text, checked "reason" Content.text,
      checked "details" (Content.optional readDetails)] c

/-- The registered phrases of the status codes that refuse a request. -/
def phrases : List (Nat × String) := [
  (400, "Bad Request"), (401, "Unauthorized"), (402, "Payment Required"), (403, "Forbidden"),
  (404, "Not Found"), (405, "Method Not Allowed"), (406, "Not Acceptable"),
  (407, "Proxy Authentication Required"), (408, "Request Timeout"), (409, "Conflict"),
  (410, "Gone"), (411, "Length Required"), (412, "Precondition Failed"),
  (413, "Payload Too Large"), (414, "URI Too Long"), (415, "Unsupported Media Type"),
  (416, "Range Not Satisfiable"), (417, "Expectation Failed"), (418, "I'm a teapot"),
  (421, "Misdirected Request"), (422, "Unprocessable Entity"), (423, "Locked"),
  (424, "Failed Dependency"), (425, "Too Early"), (426, "Upgrade Required"),
  (428, "Precondition Required"), (429, "Too Many Requests"),
  (431, "Request Header Fields Too Large"), (451, "Unavailable For Legal Reasons"),
  (500, "Internal Server Error"), (501, "Not Implemented"), (502, "Bad Gateway"),
  (503, "Service Unavailable"), (504, "Gateway Timeout"), (505, "HTTP Version Not Supported"),
  (506, "Variant Also Negotiates"), (507, "Insufficient Storage"), (508, "Loop Detected"),
  (510, "Not Extended"), (511, "Network Authentication Required")]

/-- A status code with its phrase. -/
def phrase (status : Nat) : String :=
  toString status ++ " " ++ (Entries.get? status phrases).getD "<unknown status code>"

/-- The refusal of a body that says nothing: the body itself, quoted, is the message. -/
def unexplained (status : Nat) (body : String) : ErrorResponse :=
  ⟨phrase status, Text.quoted body, "Failed to parse error data", status⟩

end Converge.Status
