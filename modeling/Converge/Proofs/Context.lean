import Converge.Cluster.CommandLine
import Converge.Proofs.Rewording

/-!
# The context of a command line

A context is the last argument of every command and makes no other difference. Where the commands
end alike, a run in a context and one without any run the same commands but for that argument, end
with the same report, and fail, if they do, for the same cause. Only the line of a command that a
failure quotes has the context in it.
-/

namespace Converge

def Failure.withoutCommand : Failure → Failure
  | .notFound kind name _ stderr => .notFound kind name "" stderr
  | .alreadyExists kind name _ stderr => .alreadyExists kind name "" stderr
  | .transport _ stdout stderr exitCode => .transport "" stdout stderr exitCode
  | .unauthorized _ stderr => .unauthorized "" stderr
  | failure => failure

theorem Failure.isNotFound_withoutCommand (failure : Failure) :
    failure.withoutCommand.isNotFound = failure.isNotFound := by
  cases failure <;> rfl

theorem Failure.rewording_withoutCommand : Rewording withoutCommand where
  race failure := by cases failure <;> rfl
  invalid _ := rfl

def Command.inContext (context : String) (c : Command) : Command :=
  { c with args := c.args ++ ["--context=" ++ context] }

/-- Clients that answer every call alike, from states that stay related, end a dialogue alike. -/
theorem Dialogue.run_related {α σ τ : Type} {client : Client σ} {client' : Client τ}
    {R : σ → τ → Prop} (answers : ∀ c s t, R s t →
      (client.answer c s).1 = (client'.answer c t).1 ∧
        R (client.answer c s).2 (client'.answer c t).2)
    (d : Dialogue α) {s : σ} {t : τ} (related : R s t) :
    (d.run client s).1 = (d.run client' t).1 ∧ R (d.run client s).2 (d.run client' t).2 := by
  induction d generalizing s t with
  | done a => exact ⟨rfl, related⟩
  | ask c next ih =>
    obtain ⟨same, onward⟩ := answers c s t related
    have later := ih (client.answer c s).1 onward
    simp only [run, ← same]
    exact later

namespace CommandLine

section Setups

variable (binary context : String) (style : NamespaceStyle) (c : Call)

theorem command_inContext :
    command ⟨binary, some context, style⟩ c =
      (command ⟨binary, none, style⟩ c).inContext context := by
  cases c with
  | createNamespace ns => cases style <;> rfl
  | _ => rfl

theorem subject_inContext :
    subject ⟨binary, some context, style⟩ c = subject ⟨binary, none, style⟩ c := by
  cases c <;> rfl

end Setups

/-- The line of a command is only quoted. -/
theorem classify_withoutCommand (line line' : String) (subject : String × String)
    (finished : Finished) :
    (classify line subject finished).withoutCommand =
      (classify line' subject finished).withoutCommand := by
  simp only [classify]
  split
  · rfl
  · split
    · rfl
    · split <;> rfl

section Reply

variable (binary context : String) (style : NamespaceStyle)

/-- Either a command succeeds in both cases, or the failures quote different lines at most. -/
theorem output_inContext (c : Call) (result : Except Failure Finished) :
    (∃ stdout, output ⟨binary, some context, style⟩ c result = .ok stdout ∧
      output ⟨binary, none, style⟩ c result = .ok stdout) ∨
    ∃ failure failure', output ⟨binary, some context, style⟩ c result = .error failure ∧
      output ⟨binary, none, style⟩ c result = .error failure' ∧
      failure.withoutCommand = failure'.withoutCommand := by
  cases result with
  | error failure => exact Or.inr ⟨failure, failure, rfl, rfl, rfl⟩
  | ok finished =>
    rw [output, output, subject_inContext]
    by_cases good : finished.exitCode = 0
    · rw [if_pos good, if_pos good]
      exact Or.inl ⟨finished.stdout, rfl, rfl⟩
    · rw [if_neg good, if_neg good]
      exact Or.inr ⟨_, _, rfl, rfl, classify_withoutCommand _ _ _ finished⟩

theorem isHiddenProject_inContext (failure : Failure) :
    isHiddenProject ⟨binary, some context, style⟩ failure =
      isHiddenProject ⟨binary, none, style⟩ failure.withoutCommand := by
  cases failure <;> rfl

theorem isHiddenProject_withoutCommand (setup : Setup) (failure : Failure) :
    isHiddenProject setup failure.withoutCommand = isHiddenProject setup failure := by
  cases failure <;> rfl

/-- What a call is answered with does not depend on the context, but for the lines quoted. -/
theorem reply_inContext (c : Call) (result : Except Failure Finished) :
    (reply ⟨binary, some context, style⟩ c result).mapError Failure.withoutCommand =
      (reply ⟨binary, none, style⟩ c result).mapError Failure.withoutCommand := by
  rcases output_inContext binary context style c result with
    ⟨stdout, within, without⟩ | ⟨failure, failure', within, without, same⟩
  · cases c <;> simp only [reply, within, without]
  · have missing : failure.isNotFound = failure'.isNotFound := by
      rw [← failure.isNotFound_withoutCommand, same, failure'.isNotFound_withoutCommand]
    have failed : Except.error failure.withoutCommand =
        (Except.error failure'.withoutCommand : c.Answer) := congrArg Except.error same
    cases c with
    | get kind ns name =>
      simp only [reply, within, without, missing]
      cases failure'.isNotFound with
      | true => rfl
      | false => exact failed
    | namespaceExists ns =>
      have hidden : isHiddenProject ⟨binary, some context, style⟩ failure =
          isHiddenProject ⟨binary, none, style⟩ failure' := by
        rw [isHiddenProject_inContext, same, isHiddenProject_withoutCommand]
      simp only [reply, within, without, missing, hidden]
      cases failure'.isNotFound || isHiddenProject ⟨binary, none, style⟩ failure' with
      | true => rfl
      | false => exact failed
    | create d | replace d | delete kind ns name | createNamespace ns =>
      simp only [reply, within, without]
      exact failed

end Reply

/-- The same script, of which the first was run in a context and the second without one. -/
def SameScript (context : String) (s t : Script) : Prop :=
  s.answers = t.answers ∧ s.commands = t.commands.map (Command.inContext context)

theorem scripted_inContext (context : String) (command : Command) {s t : Script}
    (same : SameScript context s t) :
    (scripted (command.inContext context) s).1 = (scripted command t).1 ∧
      SameScript context (scripted (command.inContext context) s).2 (scripted command t).2 := by
  obtain ⟨answers, commands⟩ := same
  have written : s.commands ++ [command.inContext context] =
      (t.commands ++ [command]).map (Command.inContext context) := by
    rw [List.map_append, commands]
    rfl
  simp only [scripted, ← answers]
  cases s.answers with
  | nil => exact ⟨rfl, rfl, written⟩
  | cons answer rest => exact ⟨rfl, rfl, written⟩

/-- Told without the lines that they quote, the answers to a call are the same. -/
theorem client_inContext (binary context : String) (style : NamespaceStyle) (c : Call)
    {s t : Script} (same : SameScript context s t) :
    let within := (client ⟨binary, some context, style⟩ scripted).reworded Failure.withoutCommand
    let without := (client ⟨binary, none, style⟩ scripted).reworded Failure.withoutCommand
    (within.answer c s).1 = (without.answer c t).1 ∧
      SameScript context (within.answer c s).2 (without.answer c t).2 := by
  intro within without
  obtain ⟨ends, onward⟩ := scripted_inContext context (command ⟨binary, none, style⟩ c) same
  rw [← command_inContext] at ends onward
  have replies := reply_inContext binary context style c
    (scripted (command ⟨binary, some context, style⟩ c) s).1
  refine ⟨replies.trans ?_, onward⟩
  rw [ends]
  rfl

/-- In a context, a run has the commands run that it has run without one, each with the context as
its last argument and with the same input. It ends well in both cases, or with failures that
differ at most in the command they quote, and with the same report. -/
theorem context_adds_last_argument (binary context : String) (style : NamespaceStyle)
    (options : Options) (desired : List Desired) (report : Report)
    (answers : List (Except Failure Finished)) :
    let within := client ⟨binary, some context, style⟩ scripted
    let without := client ⟨binary, none, style⟩ scripted
    let there := (reconcileAll within.noun options desired report).run within ⟨answers, []⟩
    let here := (reconcileAll without.noun options desired report).run without ⟨answers, []⟩
    there.2.commands = here.2.commands.map (Command.inContext context) ∧
      there.1.1.mapError Failure.withoutCommand = here.1.1.mapError Failure.withoutCommand ∧
      there.1.2 = here.1.2 := by
  intro within without there here
  let run := reconcileAll within.noun options desired report
  have follows : Dialogue.Follows Failure.withoutCommand (rewordResult Failure.withoutCommand)
      run run := reconcileFrom_follows Failure.rewording_withoutCommand _ _ _ _ _
  have start : SameScript context ⟨answers, []⟩ ⟨answers, []⟩ := ⟨rfl, rfl⟩
  have alike := Dialogue.run_related
    (fun c s t same => client_inContext binary context style c (s := s) (t := t) same) run start
  rw [follows.run within, follows.run without] at alike
  obtain ⟨ended, -, commands⟩ := alike
  obtain ⟨results, reports⟩ := Prod.mk.inj ended
  exact ⟨commands, results, reports⟩

end CommandLine

end Converge
