import Converge.Cluster.Dialogue

/-!
# Disturbed clusters

A client whose calls are recorded and may be made to fail by rules. A rule applies to
calls whose description begins with its text; it first lets some of them pass, then
fails some, or all, of the others. The rules are tried in their order.
-/

namespace Converge

/-- How a disturbed call fails. -/
inductive Disturbance where
  | notFound
  | alreadyExists
  | unauthorized
  | invalid
  | io
  | transport
deriving DecidableEq

namespace Disturbance

structure Rule where
  beginning : String
  /-- Calls that still pass. -/
  skip : Int
  /-- Calls that still fail; a negative number stands for all. -/
  times : Int
  failure : Disturbance

def reason : String := "injected failure"

/-- What a call is about: its kind of resource or `namespace`, and the name. -/
def subject : Call → String × String
  | .get kind _ name | .delete kind _ name => (kind.name, name)
  | .create d | .replace d => (d.kind.name, d.name)
  | .namespaceExists ns | .createNamespace ns => ("namespace", ns)

def toFailure (c : Call) : Disturbance → Failure
  | .notFound => .notFound (subject c).1 (subject c).2 c.describe reason
  | .alreadyExists => .alreadyExists (subject c).1 (subject c).2 c.describe reason
  | .unauthorized => .unauthorized c.describe reason
  | .invalid => .invalid (.refused reason)
  | .io => .io reason
  | .transport => .transport c.describe "" reason 1

/-- The rule that fails a call, if one does, and the rules afterwards. -/
def apply (call : String) : List Rule → Option Disturbance × List Rule
  | [] => (none, [])
  | rule :: rest =>
    let pass (rule : Rule) : Option Disturbance × List Rule :=
      let (found, rest) := apply call rest
      (found, rule :: rest)
    if !rule.beginning.toList.isPrefixOf call.toList then pass rule
    else if 0 < rule.skip then pass { rule with skip := rule.skip - 1 }
    else if rule.times = 0 then pass rule
    else
      let times := if 0 < rule.times then rule.times - 1 else rule.times
      (some rule.failure, { rule with times := times } :: rest)

/-- The state of a disturbed client: the rules, the calls made so far, the last one
last, and the state of the client itself. -/
structure State (σ : Type) where
  rules : List Rule
  calls : List String
  inner : σ

/-- A client under rules. -/
def disturb {σ : Type} (client : Client σ) : Client (State σ) where
  noun := client.noun
  answer c s :=
    let calls := s.calls ++ [c.describe]
    match apply c.describe s.rules with
    | (some failure, rules) => (.error (failure.toFailure c), ⟨rules, calls, s.inner⟩)
    | (none, rules) =>
      let (answer, inner) := client.answer c s.inner
      (answer, ⟨rules, calls, inner⟩)

end Disturbance

end Converge
