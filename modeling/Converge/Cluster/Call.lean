import Converge.Failure
import Converge.Resource.Descriptor

/-!
# Calls to a cluster

The six things a cluster can be asked for, and what each is answered with. Nothing
else reads or changes a cluster.
-/

namespace Converge

inductive Call where
  | get (kind : Kind) (ns name : String)
  | create (d : Descriptor)
  | replace (d : Descriptor)
  | delete (kind : Kind) (ns name : String)
  | namespaceExists (ns : String)
  | createNamespace (ns : String)

namespace Call

/-- What a call is answered with. A missing resource is an answer of `get`. -/
def Reply : Call → Type
  | .get .. => Option Json
  | .create _ | .replace _ => Json
  | .delete .. | .createNamespace _ => Unit
  | .namespaceExists _ => Bool

/-- An answer, or the failure of the call. -/
abbrev Answer (c : Call) : Type := Except Failure c.Reply

/-- Does the call ask for a change? -/
def isMutation : Call → Bool
  | .get .. | .namespaceExists _ => false
  | _ => true

/-- The call in words. -/
def describe : Call → String
  | .get kind _ name => "get " ++ kind.name ++ "/" ++ name
  | .create d => "create " ++ d.kind.name ++ "/" ++ d.name
  | .replace d => "replace " ++ d.kind.name ++ "/" ++ d.name
  | .delete kind _ name => "delete " ++ kind.name ++ "/" ++ name
  | .namespaceExists ns => "get namespace " ++ ns
  | .createNamespace ns => "create namespace " ++ ns

end Call

end Converge
