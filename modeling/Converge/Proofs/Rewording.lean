import Converge.Proofs.Visit

/-!
# Failures in other words

A run looks at a failure only to see whether it is a lost race for a namespace, and hands it on
as it heard it. So if a client tells its failures in other words, the run asks for the same, ends
with the same report, and fails, if it does, in the other words.
-/

namespace Converge

/-- The client, telling its failures in other words. -/
def Client.reworded {σ : Type} (g : Failure → Failure) (client : Client σ) : Client σ where
  noun := client.noun
  answer c s := ((client.answer c s).1.mapError g, (client.answer c s).2)

/-- Other words for failures, by which races are told as before. What is wrong with a resource is
not said by a client and has no other words. -/
structure Rewording (g : Failure → Failure) : Prop where
  race : ∀ failure, (g failure).isAlreadyExists = failure.isAlreadyExists
  invalid : ∀ cause, g (.invalid cause) = .invalid cause

/-- The second dialogue makes the calls of the first one, hears the same answers with the failures
in other words, and ends with the value that `h` makes of the first one's value. -/
inductive Dialogue.Follows {α : Type} (g : Failure → Failure) (h : α → α) :
    Dialogue α → Dialogue α → Prop
  | done {a b : α} (same : b = h a) : Follows g h (.done a) (.done b)
  | ask (c : Call) {next next' : c.Answer → Dialogue α}
      (later : ∀ answer, Follows g h (next answer) (next' (answer.mapError g))) :
      Follows g h (.ask c next) (.ask c next')

/-- The attempt hands failures on in the words in which it hears them. -/
def Attempt.HandsOn {α : Type} (g : Failure → Failure) (x : Attempt α) : Prop :=
  Dialogue.Follows g (Except.mapError g) x.run x.run

section Combine

variable {α β : Type} {g : Failure → Failure}

namespace Dialogue.Follows

variable {h : α → α} {d e : Dialogue α}

theorem bind {h' : β → β} {f f' : α → Dialogue β} (first : Follows g h d e)
    (second : ∀ a, Follows g h' (f a) (f' (h a))) : Follows g h' (d >>= f) (e >>= f') := by
  induction first with
  | done same =>
    subst same
    exact second _
  | ask c _ ih => exact .ask c ih

/-- With a client that tells failures in other words, the second dialogue goes as the first one
does with the client itself. -/
theorem run {σ : Type} (client : Client σ) (follows : Follows g h d e) (s : σ) :
    e.run (client.reworded g) s = (h (d.run client s).1, (d.run client s).2) := by
  induction follows generalizing s with
  | done same => exact congrArg (·, s) same
  | ask c _ ih => exact ih (client.answer c s).1 (client.answer c s).2

end Dialogue.Follows

namespace Attempt.HandsOn

theorem pure (a : α) : HandsOn g (Pure.pure a : Attempt α) := .done rfl

theorem call (c : Call) : HandsOn g (Attempt.call c) := .ask c fun _ => .done rfl

/-- A failure of the first part is handed on by the whole. -/
theorem bind {x : Attempt α} {f : α → Attempt β} (first : HandsOn g x)
    (second : ∀ a, HandsOn g (f a)) : HandsOn g (x >>= f) := by
  have onward (a : Except Failure α) : Dialogue.Follows g (Except.mapError g)
      (ExceptT.bindCont f a) (ExceptT.bindCont f (a.mapError g)) := by
    cases a with
    | error failure => exact .done rfl
    | ok a => exact second a
  exact Dialogue.Follows.bind first onward

theorem check (words : Rewording g) (x : Except Invalid α) : HandsOn g (Attempt.check x) := by
  cases x with
  | ok a => exact .pure a
  | error cause => exact .done (congrArg Except.error (words.invalid cause).symm)

end Attempt.HandsOn

end Combine

section Run

variable {g : Failure → Failure} (words : Rewording g)

open Attempt (HandsOn)

include words

/-- Only here is a failure looked at: whether it is a race that was lost. -/
theorem ensureNamespace_handsOn (ns : String) (dryRun : Bool) :
    HandsOn g (ensureNamespace ns dryRun) := by
  refine (HandsOn.check words _).bind fun _ => (HandsOn.call _).bind fun existed => ?_
  cases existed with
  | true => exact .pure true
  | false =>
    cases dryRun with
    | true => exact .pure false
    | false =>
      refine .ask (.createNamespace ns) fun answer => ?_
      cases answer with
      | ok _ => exact .done rfl
      | error failure =>
        have decided : Dialogue.Follows g (Except.mapError g)
            (if failure.isAlreadyExists then pure true else throw failure : Attempt Bool).run
            (if (g failure).isAlreadyExists then pure true else throw (g failure) :
              Attempt Bool).run := by
          rw [words.race failure]
          cases failure.isAlreadyExists with
          | true => exact .done rfl
          | false => exact .done rfl
        exact decided

omit words in
theorem perform_handsOn (change : Change) : HandsOn g change.perform := by
  cases change with
  | none => exact .pure ()
  | create d | replace d => exact (HandsOn.call _).bind fun _ => .pure ()
  | recreate d => exact (HandsOn.call _).bind fun _ => (HandsOn.call _).bind fun _ => .pure ()
  | delete kind ns name => exact .call _

omit words in
theorem reconcile_handsOn (options : Options) (desired : Desired) :
    HandsOn g (reconcile options desired) := by
  rw [reconcile_eq]
  apply (HandsOn.call _).bind
  intro live
  cases options.dryRun with
  | true => exact .pure _
  | false =>
    apply (perform_handsOn _).bind
    intro _
    cases desired.isPresent with
    | true => exact (HandsOn.call _).bind fun state => .pure _
    | false => exact .pure _

theorem prepare_handsOn (options : Options) (ensured : List String) (desired : Desired) :
    HandsOn g (prepare options ensured desired) := by
  rw [prepare]
  cases desired.opensNamespace ensured with
  | true => exact ensureNamespace_handsOn words desired.ns options.dryRun
  | false => exact .pure true

def rewordResult (g : Failure → Failure) (ended : Except Failure Unit × Report) :
    Except Failure Unit × Report :=
  (ended.1.mapError g, ended.2)

theorem visit_follows (noun : String) (options : Options) (ensured : List String)
    (desired : Desired) (report : Report) :
    Dialogue.Follows g (rewordResult g) (visit noun options ensured desired report)
      (visit noun options ensured desired report) := by
  apply Dialogue.Follows.bind (prepare_handsOn words options ensured desired)
  intro prepared
  cases prepared with
  | error failure => exact .done rfl
  | ok existed =>
    apply Dialogue.Follows.bind (reconcile_handsOn options desired)
    intro passed
    cases passed with
    | error failure => exact .done rfl
    | ok outcome => exact .done rfl

/-- A run follows a client in its words, from the same report. -/
theorem reconcileFrom_follows (noun : String) (options : Options) (desired : List Desired)
    (ensured : List String) (report : Report) :
    Dialogue.Follows g (rewordResult g) (reconcileFrom noun options ensured desired report)
      (reconcileFrom noun options ensured desired report) := by
  induction desired generalizing ensured report with
  | nil => exact .done rfl
  | cons first rest ih =>
    rw [reconcileFrom_cons]
    apply (visit_follows words noun options ensured first report).bind
    rintro ⟨result, between⟩
    cases result with
    | error failure => exact .done rfl
    | ok _ => exact ih (first.ensuredWith ensured) between

end Run

end Converge
