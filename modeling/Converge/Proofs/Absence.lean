import Converge.Cluster.Http
import Converge.Proofs.Survival
import Converge.Proofs.Targets

/-!
# Missing resources

A lookup asks for a resource, or whether a namespace is there, and nothing being there is an
answer to it. On the command line every failure that is classed as something missing is taken
for that answer. The interface takes a refusal for it by its reason but classes refusals by
their code, so a refusal with the code of something missing and another reason is a failure,
and one with the reason and another code is none.
-/

namespace Converge

inductive Lookup where
  | resource (kind : Kind) (ns name : String)
  | space (ns : String)

namespace Lookup

def call : Lookup → Call
  | .resource kind ns name => .get kind ns name
  | .space ns => .namespaceExists ns

def missing : (l : Lookup) → l.call.Reply
  | .resource .. => none
  | .space _ => false

/-- The answer to a lookup that failed: that nothing is there if the failure is that something
is missing, and else the failure. -/
def Absorbs (l : Lookup) (failure : Failure) (answer : l.call.Answer) : Prop :=
  answer = if failure.isNotFound then .ok l.missing else .error failure

/-- The output of a failed command says that a project that is looked up may not be seen. -/
def Hidden (setup : CommandLine.Setup) (stderr : String) : Lookup → Prop
  | .resource .. => False
  | .space _ => setup.style = .project ∧
    Text.contains stderr CommandLine.forbiddenMark = true

end Lookup

namespace CommandLine

variable {setup : Setup} {finished : Finished}

/-- What a lookup reads off the output of a command that succeeded. -/
def seen : (l : Lookup) → String → l.call.Answer
  | .resource .., stdout => (object stdout).map some
  | .space _, _ => .ok true

/-- Is the failure taken for the answer that nothing is there? -/
def isGone (setup : Setup) : Lookup → Failure → Bool
  | .resource .., failure => failure.isNotFound
  | .space _, failure => failure.isNotFound || isHiddenProject setup failure

theorem reply_lookup (setup : Setup) (l : Lookup) (ended : Except Failure Finished) :
    reply setup l.call ended =
      match output setup l.call ended with
      | .ok stdout => seen l stdout
      | .error failure => if isGone setup l failure then .ok l.missing else .error failure := by
  cases l with
  | resource kind ns name => rfl
  | space ns => rfl

theorem isGone_of_isNotFound (l : Lookup) {failure : Failure}
    (missing : failure.isNotFound = true) : isGone setup l failure = true := by
  cases l with
  | resource kind ns name => exact missing
  | space ns => rw [isGone, missing, Bool.true_or]

theorem isGone_failureOf (l : Lookup) :
    isGone setup l (failureOf setup l.call finished) = true ↔
      (failureOf setup l.call finished).isNotFound = true ∨ l.Hidden setup finished.stderr := by
  cases l with
  | resource kind ns name => exact (or_iff_left id).symm
  | space ns => rw [isGone, Bool.or_eq_true, isHiddenProject_iff]; rfl

/-- The failure of a command is absorbed, unless it is that a project may not be seen. -/
theorem reply_absorbs {l : Lookup} (failed : finished.exitCode ≠ 0)
    (visible : ¬ l.Hidden setup finished.stderr) :
    l.Absorbs (failureOf setup l.call finished) (reply setup l.call (.ok finished)) := by
  have same : isGone setup l (failureOf setup l.call finished) =
      (failureOf setup l.call finished).isNotFound := by
    rw [Bool.eq_iff_iff, isGone_failureOf, or_iff_left visible]
  simp only [Lookup.Absorbs, reply_lookup, output_failed _ failed, same]

theorem reply_hidden {l : Lookup} (failed : finished.exitCode ≠ 0)
    (hidden : l.Hidden setup finished.stderr) :
    reply setup l.call (.ok finished) = .ok l.missing := by
  have gone : isGone setup l (failureOf setup l.call finished) = true :=
    (isGone_failureOf l).mpr (Or.inr hidden)
  simp only [reply_lookup, output_failed _ failed, gone, if_true]

theorem seen_found {l : Lookup} {stdout : String} {failure : Failure}
    (fails : seen l stdout = .error failure) : failure.isNotFound = false := by
  cases l with
  | resource kind ns name =>
    cases read : Json.parse stdout with
    | ok v => simp [seen, object, read, Except.mapError, Except.map] at fails
    | error e =>
      simp only [seen, object, read, Except.mapError, Except.map] at fails
      cases fails
      rfl
  | space ns => cases fails

/-- No lookup fails since something is missing, however its command ends. -/
theorem reply_found {l : Lookup} {ended : Except Failure Finished} {failure : Failure}
    (fails : reply setup l.call ended = .error failure) : failure.isNotFound = false := by
  rw [reply_lookup] at fails
  cases ends : output setup l.call ended with
  | ok stdout =>
    rw [ends] at fails
    exact seen_found fails
  | error cause =>
    rw [ends] at fails
    cases gone : isGone setup l cause with
    | true => simp [gone] at fails
    | false =>
      simp only [gone] at fails
      cases fails
      rw [← Bool.not_eq_true]
      intro missing
      rw [isGone_of_isNotFound l missing] at gone
      cases gone

end CommandLine

namespace Http

/-- The call is sent, and the response refuses it. -/
def Refused {ρ : Type} (service : Service ρ) (c : Call) (s : ρ) (r : Response) : Prop :=
  ∃ sent, request c = .ok sent ∧ (service sent s).1 = .ok r ∧ isRefusal r.status = true

/-- The body is no status of a failure. -/
def Unexplained (body : String) : Prop :=
  ∀ v e, Json.read body = .ok v → Status.readError (Content.ofJson v) ≠ .ok e

theorem classify_isNotFound {c : Call} {e : ErrorResponse} :
    (classify c e).isNotFound = true ↔ e.code = 404 := by
  rw [classify]
  by_cases missing : e.code = 404
  · simp [missing, Failure.isNotFound]
  · by_cases conflict : e.code = 409 ∧ e.reason = "AlreadyExists"
    · simp [conflict, Failure.isNotFound]
    · by_cases authorization : e.code = 401 ∨ e.code = 403
      · simp [missing, conflict, authorization, Failure.isNotFound]
      · simp [missing, conflict, authorization, Failure.isNotFound]

theorem refusal_unexplained {r : Response} (nothing : Unexplained r.body) :
    refusal r = Status.unexplained r.status r.body := by
  rw [refusal]
  cases read : Json.read r.body with
  | error e => rfl
  | ok v =>
    cases told : Status.readError (Content.ofJson v) with
    | error m => simp only [told]
    | ok e => exact absurd told (nothing v e read)

/-- A lookup that cannot be sent fails for another reason. -/
theorem request_failure {l : Lookup} {failure : Failure}
    (unsent : request l.call = .error failure) : failure.isNotFound = false := by
  have unnamed {collection name : String}
      (unsent : buildNamed .get collection name none = .error failure) :
      failure.isNotFound = false := by
    rw [buildNamed] at unsent
    split at unsent
    · cases unsent
      rfl
    · rw [build] at unsent
      split at unsent
      · cases unsent
      · cases unsent
        rfl
  cases l with
  | resource kind ns name => exact unnamed unsent
  | space ns => exact unnamed unsent

section Refusal

variable {ρ : Type} {service : Service ρ} {l : Lookup} {s : ρ} {r : Response}

theorem reply_refused (refused : isRefusal r.status = true) :
    reply l.call (.ok r) = if (refusal r).reason = "NotFound" then .ok l.missing
      else .error (classify l.call (refusal r)) := by
  have ends : ending r = .refused (refusal r) := by rw [ending, if_pos refused]
  cases l with
  | resource kind ns name =>
    simp only [Lookup.call, reply, ends]
    rfl
  | space ns =>
    simp only [Lookup.call, reply, ends]
    rfl

/-- A body that is accepted is read, or cannot be read. -/
theorem reply_accepted {failure : Failure} (accepted : isRefusal r.status = false)
    (fails : reply l.call (.ok r) = .error failure) : failure.isNotFound = false := by
  have ends : ending r = .accepted r.body := by
    rw [ending, accepted]
    rfl
  have undecoded {α : Type} {read : Json → Except Mismatch α} {f : α → l.call.Reply}
      (fails : (decode read r.body).map f = .error failure) : failure.isNotFound = false := by
    cases text : Json.read r.body with
    | error e =>
      simp only [decode, text, Except.map] at fails
      cases fails
      rfl
    | ok v =>
      cases value : read v with
      | error m =>
        simp only [decode, text, value, Except.mapError, Except.map] at fails
        cases fails
        rfl
      | ok a => simp [decode, text, value, Except.mapError, Except.map] at fails
  cases l with
  | resource kind ns name =>
    simp only [Lookup.call, reply, ends] at fails
    exact undecoded fails
  | space ns =>
    simp only [Lookup.call, reply, ends] at fails
    exact undecoded fails

theorem answer_refused (refused : Refused service l.call s r) :
    ((client service).answer l.call s).1 = reply l.call (.ok r) := by
  obtain ⟨sent, built, answered, _⟩ := refused
  simp only [client, built, answered]

/-- A refusal is absorbed exactly if its code and its reason agree on whether something is
missing. -/
theorem absorbs_iff (refused : isRefusal r.status = true) :
    l.Absorbs (classify l.call (refusal r)) (reply l.call (.ok r)) ↔
      ((refusal r).code = 404 ↔ (refusal r).reason = "NotFound") := by
  rw [Lookup.Absorbs, reply_refused refused, ← classify_isNotFound (c := l.call)]
  by_cases missing : (classify l.call (refusal r)).isNotFound = true
  · by_cases reason : (refusal r).reason = "NotFound"
    · simp [missing, reason]
    · simp [missing, reason]
  · by_cases reason : (refusal r).reason = "NotFound"
    · simp [missing, reason]
    · simp [missing, reason]

/-- Only a refusal makes a lookup fail since something is missing. -/
theorem refused_of_isNotFound {failure : Failure}
    (fails : ((client service).answer l.call s).1 = .error failure)
    (missing : failure.isNotFound = true) :
    ∃ r, Refused service l.call s r ∧ reply l.call (.ok r) = .error failure := by
  cases built : request l.call with
  | error cause =>
    simp only [client, built] at fails
    cases fails
    rw [request_failure built] at missing
    cases missing
  | ok sent =>
    simp only [client, built] at fails
    cases answered : (service sent s).1 with
    | error reason =>
      rw [answered] at fails
      cases l <;> (cases fails; cases missing)
    | ok r =>
      rw [answered] at fails
      refine ⟨r, ⟨sent, built, answered, ?_⟩, fails⟩
      rw [← Bool.not_eq_false]
      intro accepted
      rw [reply_accepted accepted fails] at missing
      cases missing

/-- A lookup fails since something is missing exactly if it is refused with that code and for
another reason. -/
theorem answer_isNotFound_iff :
    (∃ failure, ((client service).answer l.call s).1 = .error failure ∧
      failure.isNotFound = true) ↔
      ∃ r, Refused service l.call s r ∧ (refusal r).code = 404 ∧
        (refusal r).reason ≠ "NotFound" := by
  constructor
  · rintro ⟨failure, fails, missing⟩
    obtain ⟨r, refused, replied⟩ := refused_of_isNotFound fails missing
    refine ⟨r, refused, ?_⟩
    obtain ⟨_, _, _, refusal⟩ := refused
    rw [reply_refused refusal] at replied
    split at replied
    · cases replied
    · cases replied
      exact ⟨classify_isNotFound.mp missing, ‹_›⟩
  · rintro ⟨r, refused, code, reason⟩
    refine ⟨classify l.call (refusal r), ?_, classify_isNotFound.mpr code⟩
    rw [answer_refused refused]
    obtain ⟨_, _, _, refusal⟩ := refused
    rw [reply_refused refusal, if_neg reason]

end Refusal

end Http

/-- Every failure of a lookup by a command is absorbed, but for projects that may not be seen,
so no such lookup fails since something is missing. A refusal by the interface is absorbed
exactly if its code and its reason agree on whether something is missing; a lookup fails since
something is missing exactly if the code says so and the reason does not, which is so whenever
a response with the status 404 has a body that is no status. -/
theorem lookups_absorb_missing (l : Lookup) :
    (∀ (ρ : Type) (setup : CommandLine.Setup) (runner : CommandLine.Runner ρ) (s : ρ),
      let answer := ((CommandLine.client setup runner).answer l.call s).1
      (∀ failure, answer = .error failure → failure.isNotFound = false) ∧
      ∀ finished, (runner (CommandLine.command setup l.call) s).1 = .ok finished →
        finished.exitCode ≠ 0 →
        (¬ l.Hidden setup finished.stderr →
          l.Absorbs (CommandLine.failureOf setup l.call finished) answer) ∧
        (l.Hidden setup finished.stderr → answer = .ok l.missing)) ∧
    ∀ (ρ : Type) (service : Http.Service ρ) (s : ρ),
      let answer := ((Http.client service).answer l.call s).1
      ((∃ failure, answer = .error failure ∧ failure.isNotFound = true) ↔
        ∃ r, Http.Refused service l.call s r ∧ (Http.refusal r).code = 404 ∧
          (Http.refusal r).reason ≠ "NotFound") ∧
      (∀ r, Http.Refused service l.call s r →
        (l.Absorbs (Http.classify l.call (Http.refusal r)) answer ↔
          ((Http.refusal r).code = 404 ↔ (Http.refusal r).reason = "NotFound"))) ∧
      ∀ r, Http.Refused service l.call s r → r.status = 404 → Http.Unexplained r.body →
        ∃ failure, answer = .error failure ∧ failure.isNotFound = true := by
  refine ⟨?_, ?_⟩
  · intro ρ setup runner s answer
    refine ⟨fun failure fails => CommandLine.reply_found fails, ?_⟩
    intro finished ended failed
    have same : answer = CommandLine.reply setup l.call (.ok finished) :=
      congrArg (CommandLine.reply setup l.call) ended
    rw [same]
    exact ⟨CommandLine.reply_absorbs failed, CommandLine.reply_hidden failed⟩
  · intro ρ service s answer
    refine ⟨Http.answer_isNotFound_iff, ?_, ?_⟩
    · intro r refused
      have same : answer = Http.reply l.call (.ok r) := Http.answer_refused refused
      obtain ⟨_, _, _, refusal⟩ := refused
      rw [same]
      exact Http.absorbs_iff refusal
    · intro r refused status nothing
      refine Http.answer_isNotFound_iff.mpr ⟨r, refused, ?_, ?_⟩
      · rw [Http.refusal_unexplained nothing]
        exact status
      · rw [Http.refusal_unexplained nothing]
        simp [Status.unexplained]

namespace Unrouted

/-- A server that knows no such path, and says so in plain words. -/
def service : Http.Service Unit := fun _ s => (.ok ⟨404, "404 page not found"⟩, s)

def route : Lookup := .resource .route "shop" "web"

end Unrouted

open Unrouted in
/-- The lookup of a route fails since something is missing, and is not answered with none. -/
theorem lookups_absorb_missing_unrouted :
    ∃ failure, ((Http.client service).answer route.call ()).1 = .error failure ∧
      failure.isNotFound = true := by
  obtain ⟨sent, built⟩ : Http.Sendable route.call :=
    Http.buildNamed_path (Http.collection_path .route (by decide)) (by decide) .get none
  have refused : Http.Refused service route.call () ⟨404, "404 page not found"⟩ :=
    ⟨sent, built, rfl, rfl⟩
  have nothing : Http.Unexplained "404 page not found" := by
    intro v e read
    cases read
  exact ((lookups_absorb_missing route).2 Unit service ()).2.2 _ refused rfl nothing

end Converge
