import Converge.Cluster.Call

/-!
# Dialogues with a cluster

A dialogue is a computation that may call a cluster: it is done, or makes a call and
goes on with the answer, whatever the answer is. A client answers calls and keeps a
state of its own; running a dialogue with a client asks it one call after another.
-/

namespace Converge

inductive Dialogue (α : Type) where
  | done (a : α)
  | ask (c : Call) (next : c.Answer → Dialogue α)

namespace Dialogue

variable {α β : Type}

def bind : Dialogue α → (α → Dialogue β) → Dialogue β
  | .done a, f => f a
  | .ask c next, f => .ask c fun answer => bind (next answer) f

instance : Monad Dialogue where
  pure := .done
  bind := bind

theorem pure_bind (a : α) (f : α → Dialogue β) : (pure a >>= f) = f a := rfl

theorem bind_pure (d : Dialogue α) : d.bind .done = d := by
  induction d with
  | done a => rfl
  | ask c next ih => simp only [bind, ih]

theorem bind_assoc {γ : Type} (d : Dialogue α) (f : α → Dialogue β) (g : β → Dialogue γ) :
    (d.bind f).bind g = d.bind fun a => (f a).bind g := by
  induction d with
  | done a => rfl
  | ask c next ih => simp only [bind, ih]

/-- Make one call. -/
def call (c : Call) : Dialogue c.Answer := .ask c .done

end Dialogue

/-- A dialogue that a failure may end. -/
abbrev Attempt (α : Type) : Type := ExceptT Failure Dialogue α

namespace Attempt

/-- Make one call; its failure ends the attempt. -/
def call (c : Call) : Attempt c.Reply := ExceptT.mk (Dialogue.call c)

/-- Fail with an invalid resource. -/
def check {α : Type} : Except Invalid α → Attempt α
  | .ok a => pure a
  | .error cause => throw (.invalid cause)

end Attempt

/-- A cluster's side of a dialogue, with a state of type `σ`. -/
structure Client (σ : Type) where
  /-- What a namespace is called in descriptions of actions. -/
  noun : String
  answer : (c : Call) → σ → c.Answer × σ

/-- A call with its answer. -/
abbrev Exchange : Type := (c : Call) × c.Answer

namespace Dialogue

variable {α σ : Type}

/-- Ask the client one call after another. -/
def run (client : Client σ) : Dialogue α → σ → α × σ
  | .done a, s => (a, s)
  | .ask c next, s =>
    let (answer, s) := client.answer c s
    run client (next answer) s

/-- Carry a dialogue out in a monad that can answer calls. -/
def runIn {m : Type → Type} [Monad m] (answer : (c : Call) → m c.Answer) : Dialogue α → m α
  | .done a => pure a
  | .ask c next => do
    let reply ← answer c
    runIn answer (next reply)

/-- A run with a client is a run in the monad of its state. -/
theorem runIn_client (client : Client σ) (d : Dialogue α) :
    d.runIn (m := StateM σ) client.answer = d.run client := by
  induction d with
  | done a => rfl
  | ask c next ih =>
    funext s
    simp only [runIn, run]
    exact congrFun (ih (client.answer c s).1) (client.answer c s).2

/-- The calls of a run with their answers, in their order. -/
def transcript (client : Client σ) : Dialogue α → σ → List Exchange
  | .done _, _ => []
  | .ask c next, s =>
    let (answer, s) := client.answer c s
    ⟨c, answer⟩ :: transcript client (next answer) s

end Dialogue

end Converge
