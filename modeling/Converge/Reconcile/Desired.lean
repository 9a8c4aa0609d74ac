import Converge.Resource.Descriptor
import Converge.Resource.Name

/-!
# Desired states

What is wanted of one resource: that it is there as described, or that it is gone.
-/

namespace Converge

inductive Desired where
  | present (d : Descriptor)
  | absent (kind : Kind) (ns name : String)

namespace Desired

def kind : Desired → Kind
  | .present d => d.kind
  | .absent kind _ _ => kind

def ns : Desired → String
  | .present d => d.ns
  | .absent _ ns _ => ns

def name : Desired → String
  | .present d => d.name
  | .absent _ _ name => name

def isPresent : Desired → Bool
  | .present _ => true
  | .absent .. => false

/-- Desired absence. The names are checked here, since nothing is built. -/
def checkedAbsent (kind : Kind) (ns name : String) : Except Invalid Desired := do
  checkName "Namespace" ns
  checkName kind.name name
  return .absent kind ns name

end Desired

end Converge
