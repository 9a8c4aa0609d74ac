import Converge.Proofs.Changes
import Converge.Proofs.Course
import Converge.Proofs.Wire
import Mathlib.Tactic.ByContra

/-!
# Which failed commands a run survives

A run through the command line is a sequence of rounds: a call, the command that is run for
it, and how that command ended. A command that fails ends the run with the failure that its
output tells of, unless the output says in the server's own words that something looked for
is missing, or hidden, or that a namespace to be created is there.
-/

namespace Converge.CommandLine

structure Round where
  call : Call
  ended : Except Failure Finished

variable {ρ : Type}

def rounds {α : Type} (setup : Setup) (runner : Runner ρ) : Dialogue α → ρ → List Round
  | .done _, _ => []
  | .ask c next, s =>
    let (ended, s) := runner (command setup c) s
    ⟨c, ended⟩ :: rounds setup runner (next (reply setup c ended)) s

/-- The exchange that a round is for the run. -/
def Round.exchange (setup : Setup) (round : Round) : Exchange :=
  ⟨round.call, reply setup round.call round.ended⟩

theorem transcript_eq_rounds {α : Type} (setup : Setup) (runner : Runner ρ) (d : Dialogue α)
    (s : ρ) : d.transcript (client setup runner) s =
      (rounds setup runner d s).map (Round.exchange setup) := by
  induction d generalizing s with
  | done a => rfl
  | ask c next ih =>
    exact congrArg (_ :: ·) (ih (reply setup c (runner (command setup c) s).1)
      (runner (command setup c) s).2)

/-- Writing the commands down changes nothing. -/
theorem rounds_recording {α : Type} (setup : Setup) (runner : Runner ρ) (d : Dialogue α)
    (commands : List Command) (s : ρ) :
    rounds setup (recording runner) d (commands, s) = rounds setup runner d s := by
  induction d generalizing commands s with
  | done a => rfl
  | ask c next ih =>
    exact congrArg (_ :: ·) (ih (reply setup c (runner (command setup c) s).1)
      (commands ++ [command setup c]) (runner (command setup c) s).2)

/-- The runner is given the commands of the rounds. -/
theorem commands_eq_rounds {α : Type} (setup : Setup) (runner : Runner ρ) (d : Dialogue α)
    (s : ρ) : (d.run (client setup (recording runner)) ([], s)).2.1 =
      (rounds setup runner d s).map fun round => command setup round.call := by
  rw [run_recording, transcript_eq_rounds, rounds_recording, List.map_map]
  rfl

/-- The output says that what was looked for is missing, and nothing of authorization. -/
structure SaysMissing (stderr : String) : Prop where
  missing : Text.contains stderr notFoundMark = true
  authorized : ∀ mark ∈ unauthorizedMarks, Text.contains stderr mark = false

/-- The output says that what should be created is there, and nothing of something missing
or of authorization. -/
structure SaysThere (stderr : String) : Prop where
  there : Text.contains stderr alreadyExistsMark = true
  present : Text.contains stderr notFoundMark = false
  authorized : ∀ mark ∈ unauthorizedMarks, Text.contains stderr mark = false

/-- The failed commands that a run survives. -/
inductive Survived (setup : Setup) : Call → String → Prop
  | missing (kind : Kind) (ns name : String) {stderr : String} (words : SaysMissing stderr) :
      Survived setup (.get kind ns name) stderr
  | unknown (ns : String) {stderr : String} (words : SaysMissing stderr) :
      Survived setup (.namespaceExists ns) stderr
  | hidden (ns : String) {stderr : String} (project : setup.style = .project)
      (words : Text.contains stderr forbiddenMark = true) :
      Survived setup (.namespaceExists ns) stderr
  | raced (ns : String) {stderr : String} (words : SaysThere stderr) :
      Survived setup (.createNamespace ns) stderr

section Classify

variable {line : String} {subject : String × String} {finished : Finished}

theorem unauthorized_iff {stderr : String} :
    unauthorizedMarks.any (Text.contains stderr) = false ↔
      ∀ mark ∈ unauthorizedMarks, Text.contains stderr mark = false := by
  rw [List.any_eq_false]
  simp

theorem classify_isNotFound :
    (classify line subject finished).isNotFound = true ↔ SaysMissing finished.stderr := by
  rw [classify]
  cases authorized : unauthorizedMarks.any (Text.contains finished.stderr) with
  | true =>
    refine iff_of_false (by simp [Failure.isNotFound]) ?_
    intro words
    rw [unauthorized_iff.mpr words.authorized] at authorized
    cases authorized
  | false =>
    have plain := unauthorized_iff.mp authorized
    cases missing : Text.contains finished.stderr notFoundMark with
    | true => exact iff_of_true rfl ⟨missing, plain⟩
    | false =>
      refine iff_of_false ?_ fun words => by simp [words.missing] at missing
      cases Text.contains finished.stderr alreadyExistsMark <;> simp [Failure.isNotFound]

theorem classify_isAlreadyExists :
    (classify line subject finished).isAlreadyExists = true ↔ SaysThere finished.stderr := by
  rw [classify]
  cases authorized : unauthorizedMarks.any (Text.contains finished.stderr) with
  | true =>
    refine iff_of_false (by simp [Failure.isAlreadyExists]) ?_
    intro words
    rw [unauthorized_iff.mpr words.authorized] at authorized
    cases authorized
  | false =>
    have plain := unauthorized_iff.mp authorized
    cases missing : Text.contains finished.stderr notFoundMark with
    | true =>
      exact iff_of_false (by simp [Failure.isAlreadyExists]) fun words => by
        simp [words.present] at missing
    | false =>
      cases there : Text.contains finished.stderr alreadyExistsMark with
      | true => exact iff_of_true rfl ⟨there, missing, plain⟩
      | false =>
        exact iff_of_false (by simp [Failure.isAlreadyExists]) fun words => by
          simp [words.there] at there

end Classify

def failureOf (setup : Setup) (c : Call) (finished : Finished) : Failure :=
  classify ((command setup c).line setup.binary) (subject setup c) finished

section Reply

variable {setup : Setup} {finished : Finished}

theorem output_failed (c : Call) (failed : finished.exitCode ≠ 0) :
    output setup c (.ok finished) = .error (failureOf setup c finished) := by
  rw [output, if_neg failed, failureOf]

/-- A project that the user may not see is one that the output says is forbidden. -/
theorem isHiddenProject_iff (c : Call) :
    isHiddenProject setup (failureOf setup c finished) = true ↔
      setup.style = .project ∧ Text.contains finished.stderr forbiddenMark = true := by
  have broader : Text.contains finished.stderr forbiddenMark = true →
      unauthorizedMarks.any (Text.contains finished.stderr) = true := by
    intro forbidden
    have part : "Forbidden".toList <:+: forbiddenMark.toList :=
      ⟨"Error from server (".toList, ")".toList, by decide +kernel⟩
    refine List.any_eq_true.mpr ⟨"Forbidden", by decide, ?_⟩
    exact Text.occursIn_iff.mpr (part.trans (Text.occursIn_iff.mp forbidden))
  cases authorized : unauthorizedMarks.any (Text.contains finished.stderr) with
  | true => simp [failureOf, classify, authorized, isHiddenProject]
  | false =>
    refine iff_of_false ?_ fun hidden => by simp [broader hidden.2] at authorized
    rw [failureOf, classify, authorized]
    cases Text.contains finished.stderr notFoundMark <;>
      cases Text.contains finished.stderr alreadyExistsMark <;> simp [isHiddenProject]

/-- The failure of a failed command that is not survived is that of its call, and no run
bears it. -/
theorem reply_fatal {c : Call} (failed : finished.exitCode ≠ 0)
    (fatal : ¬ Survived setup c finished.stderr) :
    reply setup c (.ok finished) = .error (failureOf setup c finished) ∧
      ¬ Borne ⟨c, .error (failureOf setup c finished)⟩ := by
  cases c with
  | get kind ns name =>
    have found : (failureOf setup (.get kind ns name) finished).isNotFound = false := by
      rw [← Bool.not_eq_true, failureOf, classify_isNotFound]
      exact fun words => fatal (.missing kind ns name words)
    refine ⟨?_, not_borne (by simp) _⟩
    simp only [reply, output_failed _ failed, found]
    rfl
  | create d | replace d | delete kind ns name =>
    exact ⟨by simp only [reply, output_failed _ failed], not_borne (by simp) _⟩
  | namespaceExists ns =>
    have found : (failureOf setup (.namespaceExists ns) finished).isNotFound = false := by
      rw [← Bool.not_eq_true, failureOf, classify_isNotFound]
      exact fun words => fatal (.unknown ns words)
    have visible : isHiddenProject setup (failureOf setup (.namespaceExists ns) finished) =
        false := by
      rw [← Bool.not_eq_true, isHiddenProject_iff]
      exact fun hidden => fatal (.hidden ns hidden.1 hidden.2)
    refine ⟨?_, not_borne (by simp) _⟩
    simp only [reply, output_failed _ failed, found, visible]
    rfl
  | createNamespace ns =>
    refine ⟨by simp only [reply, output_failed _ failed], not_borne_createNamespace ?_⟩
    rw [← Bool.not_eq_true, failureOf, classify_isAlreadyExists]
    exact fun words => fatal (.raced ns words)

/-- A run bears the failed commands that are survived. -/
theorem reply_borne {c : Call} (failed : finished.exitCode ≠ 0)
    (survived : Survived setup c finished.stderr) : Borne ⟨c, reply setup c (.ok finished)⟩ := by
  cases survived with
  | missing kind ns name words =>
    have missing : (failureOf setup (.get kind ns name) finished).isNotFound = true :=
      classify_isNotFound.mpr words
    simp only [reply, output_failed _ failed, missing]
    exact .answered (.get kind ns name) none
  | unknown ns words =>
    have missing : (failureOf setup (.namespaceExists ns) finished).isNotFound = true :=
      classify_isNotFound.mpr words
    simp only [reply, output_failed _ failed, missing]
    exact .answered (.namespaceExists ns) false
  | hidden ns project words =>
    have hidden : isHiddenProject setup (failureOf setup (.namespaceExists ns) finished) = true :=
      (isHiddenProject_iff _).mpr ⟨project, words⟩
    simp only [reply, output_failed _ failed, hidden, Bool.or_true]
    exact .answered (.namespaceExists ns) false
  | raced ns words =>
    simp only [reply, output_failed _ failed]
    exact .raced ns _ (classify_isAlreadyExists.mpr words)

theorem reply_get_none {kind : Kind} {ns name : String} {ended : Except Failure Finished}
    (absent : reply setup (.get kind ns name) ended = .ok none) :
    (∃ finished, ended = .ok finished ∧ finished.exitCode ≠ 0 ∧ SaysMissing finished.stderr) ∨
      ∃ failure, ended = .error failure ∧ failure.isNotFound = true := by
  cases ended with
  | error failure =>
    refine Or.inr ⟨failure, rfl, ?_⟩
    cases missing : failure.isNotFound with
    | true => rfl
    | false => simp [reply, output, missing] at absent
  | ok finished =>
    refine Or.inl ⟨finished, rfl, ?_⟩
    by_cases done : finished.exitCode = 0
    · -- an object that was printed, or could not be read, is not none
      simp only [reply, output, if_pos done] at absent
      cases printed : object finished.stdout with
      | error failure => rw [printed] at absent; cases absent
      | ok v => rw [printed] at absent; cases absent
    · refine ⟨done, ?_⟩
      by_contra other
      have fatal : ¬ Survived setup (.get kind ns name) finished.stderr := by
        intro survived
        cases survived with
        | missing _ _ _ words => exact other words
      rw [(reply_fatal done fatal).1] at absent
      cases absent

theorem reply_delete_ok {kind : Kind} {ns name : String} {ended : Except Failure Finished}
    (deleted : reply setup (.delete kind ns name) ended = .ok ()) :
    ∃ finished, ended = .ok finished ∧ finished.exitCode = 0 := by
  cases ended with
  | error failure => cases deleted
  | ok finished =>
    refine ⟨finished, rfl, ?_⟩
    by_contra failed
    simp only [reply, output_failed _ failed] at deleted
    cases deleted

end Reply

/-- An exchange that makes room for a resource is a look at it whose command failed since it
is missing, or whose runner knew that without one, or a deletion whose command succeeded. -/
theorem clears_cases {setup : Setup} {options : Options} {d : Descriptor} {round : Round}
    (clears : Clears options d (round.exchange setup)) :
    (∃ finished, round = ⟨.get d.kind d.ns d.name, .ok finished⟩ ∧ finished.exitCode ≠ 0 ∧
      SaysMissing finished.stderr) ∨
    (∃ failure, round = ⟨.get d.kind d.ns d.name, .error failure⟩ ∧
      failure.isNotFound = true) ∨
    ∃ finished, round = ⟨.delete d.kind d.ns d.name, .ok finished⟩ ∧ finished.exitCode = 0 := by
  obtain ⟨c, ended⟩ := round
  generalize same : Round.exchange setup ⟨c, ended⟩ = e at clears
  cases clears with
  | missing =>
    obtain ⟨rfl, absent⟩ := Sigma.mk.inj same
    rcases reply_get_none (eq_of_heq absent) with ⟨finished, rfl, ends⟩ | ⟨failure, rfl, missing⟩
    · exact Or.inl ⟨finished, rfl, ends⟩
    · exact Or.inr (Or.inl ⟨failure, rfl, missing⟩)
  | deleted recreate =>
    obtain ⟨rfl, deleted⟩ := Sigma.mk.inj same
    obtain ⟨finished, rfl, done⟩ := reply_delete_ok (eq_of_heq deleted)
    exact Or.inr (Or.inr ⟨finished, rfl, done⟩)

/-- Of the rounds of a run, the one right before a creation makes room for the resource. -/
theorem room_before_creation (setup : Setup) (runner : Runner ρ) (options : Options)
    (desired : List Desired) (report : Report) (s : ρ) {before later : List Round}
    {d : Descriptor} {ended : Except Failure Finished}
    (split : rounds setup runner
        (reconcileAll (client setup runner).noun options desired report) s =
      before ++ ⟨.create d, ended⟩ :: later) :
    ∃ round, before.getLast? = some round ∧ Clears options d (round.exchange setup) := by
  have cleared := (reconcileAll_running (client setup runner) (client setup runner).noun options
    desired report s).cleared
  rw [transcript_eq_rounds, split, List.map_append, List.map_cons] at cleared
  obtain ⟨e, last, clears⟩ := cleared.before rfl
  rw [Option.or_none, List.getLast?_map] at last
  obtain ⟨round, found, rfl⟩ := Option.map_eq_some_iff.mp last
  exact ⟨round, found, clears⟩

/-- A command that fails is the last one, and the run fails with what its output tells of,
exactly unless it is one that a run survives; behind such a one the run goes on. A resource
is created only right after a look at it failed since it is missing, or right after it was
deleted. -/
theorem failed_command_ends_run (setup : Setup) (runner : Runner ρ) (options : Options)
    (desired : List Desired) (report : Report) (s : ρ) :
    let cli := client setup runner
    let run := reconcileAll cli.noun options desired report
    let result := (run.run cli s).1.1
    (run.run (client setup (recording runner)) ([], s)).2.1 =
      (rounds setup runner run s).map (fun round => command setup round.call) ∧
    (∀ before c finished later, rounds setup runner run s = before ++ ⟨c, .ok finished⟩ :: later →
      finished.exitCode ≠ 0 →
      (¬ Survived setup c finished.stderr →
        later = [] ∧ result = .error (failureOf setup c finished)) ∧
      (Survived setup c finished.stderr → later = [] →
        result = .ok () ∨ ∃ state ∈ desired, state.isPresent = true ∧
          isName state.ns = false ∧ result = .error (.invalid (.badName "Namespace" state.ns)))) ∧
    (∀ before d ended later, rounds setup runner run s = before ++ ⟨.create d, ended⟩ :: later →
      ∃ round, before.getLast? = some round ∧
        ((∃ finished, round = ⟨.get d.kind d.ns d.name, .ok finished⟩ ∧
          finished.exitCode ≠ 0 ∧ SaysMissing finished.stderr) ∨
        (∃ failure, round = ⟨.get d.kind d.ns d.name, .error failure⟩ ∧
          failure.isNotFound = true) ∨
        ∃ finished, round = ⟨.delete d.kind d.ns d.name, .ok finished⟩ ∧
          finished.exitCode = 0)) := by
  intro cli run result
  have running := reconcileAll_running cli cli.noun options desired report s
  have course : Course desired (run.transcript cli s) result := running.course
  rw [transcript_eq_rounds] at course
  refine ⟨commands_eq_rounds setup runner run s, ?_, ?_⟩
  · intro before c finished later split failed
    have said : (rounds setup runner run s).map (Round.exchange setup) =
        before.map (Round.exchange setup) ++
          ⟨c, reply setup c (.ok finished)⟩ :: later.map (Round.exchange setup) := by
      rw [split, List.map_append, List.map_cons]
      rfl
    constructor
    · intro fatal
      obtain ⟨same, fatal⟩ := reply_fatal failed fatal
      rw [same] at said
      obtain ⟨last, ends⟩ := course.of_fatal said fatal
      exact ⟨List.map_eq_nil_iff.mp last, ends⟩
    · rintro survived rfl
      exact course.of_borne said (reply_borne failed survived)
  · intro before d ended later split
    obtain ⟨round, last, clears⟩ :=
      room_before_creation setup runner options desired report s split
    exact ⟨round, last, clears_cases clears⟩

/-- A hidden project, a lost race for it and a missing volume claim are survived. -/
example :
    let cli := client ⟨"oc", none, .project⟩ scripted
    let run := reconcileAll cli.noun ⟨false, false, false⟩
      [.present (.bare .persistentVolumeClaim "data" "shop" .empty)] .empty
    let script : Script := ⟨[.ok ⟨1, "", "Error from server (Forbidden): shop"⟩,
      .ok ⟨1, "", "Error from server (AlreadyExists): shop"⟩,
      .ok ⟨1, "", "Error from server (NotFound): data"⟩, .ok ⟨0, "1", ""⟩, .ok ⟨0, "1", ""⟩], []⟩
    (run.run cli script).1.1.isOk = true ∧ (run.run cli script).2.answers.length = 0 := by
  decide +kernel

/-- If the runner answers with outputs from some states only, and stays in these, all rounds of a
dialogue that starts in one of them have outputs. -/
theorem rounds_finished {α : Type} {setup : Setup} {runner : Runner ρ} {good : ρ → Prop}
    (finishes : ∀ command s, good s →
      (∃ finished, (runner command s).1 = .ok finished) ∧ good (runner command s).2)
    (d : Dialogue α) {s : ρ} (starts : good s) :
    ∀ round ∈ rounds setup runner d s, ∃ finished, round.ended = .ok finished := by
  induction d generalizing s with
  | done a => exact fun round inside => absurd inside List.not_mem_nil
  | ask c next ih =>
    obtain ⟨now, stays⟩ := finishes (command setup c) s starts
    intro round inside
    rcases List.mem_cons.mp inside with rfl | later
    · exact now
    · exact ih _ stays round later

/-- The script has outputs of commands only, no errors of a runner. -/
def Script.Finishes (script : Script) : Prop :=
  ∀ answer ∈ script.answers, ∃ finished, answer = .ok finished

theorem scripted_finishes (command : Command) (script : Script) (finishes : script.Finishes) :
    (∃ finished, (scripted command script).1 = .ok finished) ∧
      (scripted command script).2.Finishes := by
  obtain ⟨answers, commands⟩ := script
  cases answers with
  | nil => exact ⟨⟨_, rfl⟩, finishes⟩
  | cons answer rest => exact List.forall_mem_cons.mp finishes

/-- With a script of outputs, a resource is created only right after a look at it that failed
since it is missing, or right after its deletion succeeded. -/
theorem creation_follows_output (setup : Setup) (options : Options) (desired : List Desired)
    (report : Report) {script : Script} (finishes : script.Finishes) {before later : List Round}
    {d : Descriptor} {ended : Except Failure Finished}
    (split : rounds setup scripted
        (reconcileAll (client setup scripted).noun options desired report) script =
      before ++ ⟨.create d, ended⟩ :: later) :
    ∃ finished,
      (before.getLast? = some ⟨.get d.kind d.ns d.name, .ok finished⟩ ∧
        finished.exitCode ≠ 0 ∧ SaysMissing finished.stderr) ∨
      (before.getLast? = some ⟨.delete d.kind d.ns d.name, .ok finished⟩ ∧
        finished.exitCode = 0) := by
  obtain ⟨round, last, clears⟩ :=
    room_before_creation setup scripted options desired report script split
  rcases clears_cases clears with ⟨finished, rfl, missing⟩ | ⟨failure, rfl, -⟩ |
    ⟨finished, rfl, deleted⟩
  · exact ⟨finished, Or.inl ⟨last, missing⟩⟩
  · -- the round is one of the run, and those have outputs
    have inside : (⟨.get d.kind d.ns d.name, .error failure⟩ : Round) ∈
        before ++ ⟨.create d, ended⟩ :: later :=
      List.mem_append_left _ (List.mem_of_getLast? last)
    rw [← split] at inside
    obtain ⟨finished, output⟩ := rounds_finished scripted_finishes _ finishes _ inside
    cases output
  · exact ⟨finished, Or.inr ⟨last, deleted⟩⟩

end Converge.CommandLine
