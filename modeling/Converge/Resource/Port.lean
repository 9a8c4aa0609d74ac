import Converge.Content.Reading

/-!
# Port references

A port is referred to by its number or by its name.
-/

namespace Converge

inductive PortRef where
  | number (n : Int)
  | name (s : String)
deriving DecidableEq

namespace PortRef

def toJson : PortRef → Json
  | .number n => .int n
  | .name s => .str s

def read : Content → Except Mismatch PortRef
  | .int n => if fitsSigned 32 n then .ok (.number n) else .error (.noForm "PortRef")
  | .str s => .ok (.name s)
  | _ => .error (.noForm "PortRef")

end PortRef

end Converge
