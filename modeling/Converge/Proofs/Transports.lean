import Converge.Proofs.Targets
import Converge.Proofs.Verdict

/-!
# Independence of the transport

A run over the command line and one over the interface, with a server that says the same to
both, make the same calls, end well or with the same exit code, and leave reports alike. The
calls must be such that there are requests for them: the command line sends any name and any
manifest on, but the interface refuses some before anything is sent.
-/

namespace Converge

/-- Both scripts say the same verdicts, each to a call that it fits. When the verdicts are
used up, so are the scripts. -/
structure Scripted (calls : List Call) (verdicts : List Verdict) (s : CommandLine.Script)
    (t : Http.Script) : Prop where
  printed : List.Forall₂ (fun v answer => ∃ finished, answer = .ok finished ∧ v.Printed finished)
    verdicts s.answers
  answered : List.Forall₂ (fun v answer => ∃ r, answer = .ok r ∧ v.Answered r) verdicts t.answers
  fits : ∀ p ∈ calls.zip verdicts, p.2.Fits p.1

section Answer

variable {setup : CommandLine.Setup}

/-- Scripts that are used up answer alike. -/
theorem exhausted_alike (style : setup.style = .namespace) (c : Call) :
    Alike (c.Matching Object.Shows)
      (CommandLine.reply setup c (.ok ⟨1, "", "no scripted response"⟩))
      (Http.reply c (.ok ⟨500, "no scripted response"⟩)) := by
  have unauthorized : CommandLine.unauthorizedMarks.any
      (Text.contains "no scripted response") = false := by decide +kernel
  have notFound : Text.contains "no scripted response" CommandLine.notFoundMark = false := by
    decide +kernel
  have alreadyExists :
      Text.contains "no scripted response" CommandLine.alreadyExistsMark = false := by
    decide +kernel
  have failure : CommandLine.failureOf setup c ⟨1, "", "no scripted response"⟩ =
      .transport ((CommandLine.command setup c).line setup.binary) "" "no scripted response" 1 := by
    rw [CommandLine.failureOf, CommandLine.classify, unauthorized, notFound, alreadyExists]
    rfl
  have refusal : Http.refusal ⟨500, "no scripted response"⟩ =
      Status.unexplained 500 "no scripted response" := by
    have unread : (Json.read "no scripted response").isOk = false := by decide +kernel
    rw [Http.refusal]
    cases read : Json.read "no scripted response" with
    | error e => rfl
    | ok v =>
      rw [read] at unread
      cases unread
  refine refused_alike style .internal (by decide) ?_ ?_
    (e := Status.unexplained 500 "no scripted response") ?_ ?_ ?_
  · rw [failure]
    exact ⟨rfl, by simp [Failure.isAlreadyExists]⟩
  · rw [failure]
    simp [Failure.isNotFound]
  · rw [Http.ending, if_pos (by decide), refusal]
  · exact ⟨rfl, by simp [Http.classify, Status.unexplained, Failure.isAlreadyExists]⟩
  · simp [Status.unexplained]

/-- The clients answer the next call alike, and go on with scripts of the same verdicts. -/
theorem scripted_step (style : setup.style = .namespace) {c : Call} (sendable : Http.Sendable c)
    {calls : List Call} {s : CommandLine.Script} {t : Http.Script}
    (ready : ∃ verdicts, Scripted (c :: calls) verdicts s t) :
    Alike (c.Matching Object.Shows)
        ((CommandLine.client setup CommandLine.scripted).answer c s).1
        ((Http.client Http.scripted).answer c t).1 ∧
      ∃ verdicts, Scripted calls verdicts
        ((CommandLine.client setup CommandLine.scripted).answer c s).2
        ((Http.client Http.scripted).answer c t).2 := by
  obtain ⟨verdicts, printed, answered, fits⟩ := ready
  obtain ⟨answers, commands⟩ := s
  obtain ⟨answers', requests⟩ := t
  obtain ⟨request, sent⟩ := sendable
  simp only [CommandLine.client, CommandLine.scripted, Http.client, Http.scripted, sent]
  cases printed with
  | nil =>
    cases answered with
    | nil => exact ⟨exhausted_alike style c, [], .nil, .nil, by simp⟩
  | @cons v _ verdicts _ printed others =>
    cases answered with
    | cons answered others' =>
      obtain ⟨finished, rfl, printed⟩ := printed
      obtain ⟨r, rfl, answered⟩ := answered
      obtain ⟨fitsNow, fitsLater⟩ := List.forall_mem_cons.mp fits
      exact ⟨Verdict.reply_alike style printed answered fitsNow, verdicts, others, others', fitsLater⟩

end Answer

/-- A run makes the same calls over both transports, ends well over both or with the same
exit code, and leaves reports alike, if a server says the same to both. -/
theorem transports_agree {setup : CommandLine.Setup} (style : setup.style = .namespace)
    {options : Options} {desired : List Desired}
    (sendable : ∀ state ∈ desired, state.AllCalls Http.Sendable options) (report : Report)
    {verdicts : List Verdict} {printed : List Finished} {answered : List Http.Response}
    (prints : List.Forall₂ Verdict.Printed verdicts printed)
    (answers : List.Forall₂ Verdict.Answered verdicts answered)
    (fits : ∀ p ∈ (((reconcileAll setup.namespaceWord options desired report).transcript
      (CommandLine.client setup CommandLine.scripted) ⟨printed.map .ok, []⟩).map
        fun x => x.1).zip verdicts, p.2.Fits p.1) :
    let cli := CommandLine.client setup CommandLine.scripted
    let api := Http.client Http.scripted
    let first := reconcileAll cli.noun options desired report
    let second := reconcileAll api.noun options desired report
    let commands : CommandLine.Script := ⟨printed.map .ok, []⟩
    let requests : Http.Script := ⟨answered.map .ok, []⟩
    (first.transcript cli commands).map (fun x => x.1) =
      (second.transcript api requests).map (fun x => x.1) ∧
    (first.run cli commands).1.1.mapError Failure.exitCode =
      (second.run api requests).1.1.mapError Failure.exitCode ∧
    (first.run cli commands).1.2.Alike Object.Shows (second.run api requests).1.2 := by
  intro cli api first second commands requests
  -- with the same word for namespaces, both runs are runs of one dialogue
  have noun : setup.namespaceWord = Http.noun := by
    rw [CommandLine.Setup.namespaceWord, style]
    rfl
  have twins : Twins Http.Sendable Object.Shows (ResultsAlike Object.Shows) first second := by
    have same : first = second := congrArg (reconcileAll · options desired report) noun
    rw [same]
    exact reconcileFrom_twins (fun _ _ shows => shows.nextVersion)
      (fun ns good => ⟨Http.namespaceExists_sendable good, Http.createNamespace_sendable ns⟩)
      api.noun sendable [] (.refl Object.Shows report)
  have ready : Scripted ((first.transcript cli commands).map fun x => x.1) verdicts commands
      requests := by
    refine ⟨?_, ?_, fits⟩
    · exact List.forall₂_map_right_iff.mpr (prints.imp fun _ finished said => ⟨finished, rfl, said⟩)
    · exact List.forall₂_map_right_iff.mpr (answers.imp fun _ r said => ⟨r, rfl, said⟩)
  obtain ⟨calls, results, reports⟩ := Twins.run
    (fun calls s t => ∃ verdicts, Scripted calls verdicts s t)
    (fun _ _ _ _ sendable ready => scripted_step style sendable ready) twins ⟨verdicts, ready⟩
  refine ⟨calls, ?_, reports⟩
  generalize (first.run cli commands).1.1 = x at results
  generalize (second.run api requests).1.1 = y at results
  cases results with
  | ok _ => rfl
  | error failures => exact congrArg Except.error failures.exitCode

namespace Verdict

def statusFields (reason : Reason) (message : String) : List (String × Json) :=
  [("status", .str "Failure"), ("message", .str message), ("reason", .str reason.word),
    ("code", .int reason.code)]

def print : Verdict → Finished
  | .success o => ⟨0, o.compact, ""⟩
  | .failure reason message => ⟨1, "", CommandLine.refusalHead reason ++ message⟩

def answer : Verdict → Http.Response
  | .success o => ⟨200, o.compact⟩
  | .failure reason message => ⟨reason.code, (Json.obj (statusFields reason message)).compact⟩

def Legible : Verdict → Prop
  | .success o => Json.read o.compact = .ok o
  | .failure reason message => CommandLine.Plain message ∧
      Json.read (Json.obj (statusFields reason message)).compact =
        .ok (.obj (statusFields reason message))

instance : (v : Verdict) → Decidable v.Legible
  | .success o => inferInstanceAs (Decidable (Json.read o.compact = .ok o))
  | .failure reason message => inferInstanceAs (Decidable (CommandLine.Plain message ∧
      Json.read (Json.obj (statusFields reason message)).compact =
        .ok (.obj (statusFields reason message))))

theorem Legible.printed {v : Verdict} (legible : v.Legible) : v.Printed v.print := by
  cases v with
  | success o => exact .success rfl legible
  | failure reason message => exact .failure (show (1 : Int) ≠ 0 by decide) legible.1 rfl

theorem Legible.answered {v : Verdict} (legible : v.Legible) : v.Answered v.answer := by
  cases v with
  | success o => exact .success rfl legible
  | failure reason message =>
    have distinct : ((statusFields reason message).map Prod.fst).Nodup :=
      (by decide : ["status", "message", "reason", "code"].Nodup)
    exact .failure reason.named_word rfl ⟨legible.2, distinct, rfl, rfl, rfl, rfl⟩

variable {verdicts : List Verdict}

theorem prints (legible : ∀ v ∈ verdicts, v.Legible) :
    List.Forall₂ Printed verdicts (verdicts.map print) :=
  List.forall₂_map_right_iff.mpr (List.forall₂_same.mpr fun v listed => (legible v listed).printed)

theorem answers (legible : ∀ v ∈ verdicts, v.Legible) :
    List.Forall₂ Answered verdicts (verdicts.map answer) :=
  List.forall₂_map_right_iff.mpr (List.forall₂_same.mpr fun v listed => (legible v listed).answered)

end Verdict

namespace Redeploy

def setup : CommandLine.Setup := ⟨"oc", none, .namespace⟩

def options : Options := ⟨true, false, false⟩

def web : Descriptor := .bare .deploymentConfig "web" "shop" .empty

def desired : List Desired := [.present web]

/-- The deployment that is there, at its fourth version. -/
def live : Json :=
  .obj [("apiVersion", .str "apps.openshift.io/v1"), ("kind", .str "DeploymentConfig"),
    ("metadata", .obj [("name", .str "web")]), ("status", .obj [("latestVersion", .int 4)])]

/-- The namespace is missing but created by someone else, and the deployment may only be
seen. -/
def verdicts : List Verdict :=
  [.failure .notFound "no", .failure .alreadyExists "too late", .success live,
    .failure .forbidden "no"]

theorem sendable : ∀ state ∈ desired, state.AllCalls Http.Sendable options := by
  intro state listed
  obtain rfl := List.mem_singleton.mp listed
  refine Http.sendable_of_isName options (by decide +kernel) (by decide +kernel) fun d same => ?_
  cases same
  decide

theorem legible : ∀ v ∈ verdicts, v.Legible := by decide +kernel

end Redeploy

open Redeploy in
/-- Over both transports the deployment is to be replaced, and the run ends with the exit code
of missing authorization. -/
theorem transports_agree_redeploy :
    let cli := CommandLine.client setup CommandLine.scripted
    let api := Http.client Http.scripted
    let first := reconcileAll cli.noun options desired .empty
    let second := reconcileAll api.noun options desired .empty
    let commands : CommandLine.Script := ⟨(verdicts.map Verdict.print).map .ok, []⟩
    let requests : Http.Script := ⟨(verdicts.map Verdict.answer).map .ok, []⟩
    (first.transcript cli commands).map (fun x => x.1.describe) = ["get namespace shop",
      "create namespace shop", "get DeploymentConfig/web", "replace DeploymentConfig/web"] ∧
    (first.run cli commands).1.1.mapError Failure.exitCode = .error 3 ∧
    (first.transcript cli commands).map (fun x => x.1) =
      (second.transcript api requests).map (fun x => x.1) ∧
    (first.run cli commands).1.1.mapError Failure.exitCode =
      (second.run api requests).1.1.mapError Failure.exitCode ∧
    (first.run cli commands).1.2.Alike Object.Shows (second.run api requests).1.2 :=
  ⟨by decide +kernel, by decide +kernel,
    transports_agree rfl sendable .empty (Verdict.prints legible) (Verdict.answers legible)
      (by decide +kernel)⟩

namespace Disagreement

open Redeploy (setup)

def options : Options := ⟨false, false, false⟩

/-- A volume claim without a name. -/
def nameless : Descriptor := .bare .persistentVolumeClaim "" "shop" .empty

/-- A volume claim with a text in the place of its metadata. -/
def headless : Descriptor :=
  .bare .persistentVolumeClaim "data" "shop" (.ofList [("metadata", .str "data")])

def shop : Json :=
  .obj [("apiVersion", .str "v1"), ("kind", .str "Namespace"), ("metadata", .obj [])]

def volume : Json :=
  .obj [("apiVersion", .str "v1"), ("kind", .str "PersistentVolumeClaim"), ("metadata", .obj [])]

def verdicts : List Verdict :=
  [.success shop, .failure .notFound "no", .success volume, .success volume]

def run (d : Descriptor) : Dialogue (Except Failure Unit × Report) :=
  reconcileAll setup.namespaceWord options [.present d] .empty

def commands : CommandLine.Script := ⟨(verdicts.map Verdict.print).map .ok, []⟩

def requests : Http.Script := ⟨(verdicts.map Verdict.answer).map .ok, []⟩

end Disagreement

open Disagreement in
/-- A volume claim without a name, and one whose metadata are a text, are created over the
command line, but there is no request for them. -/
theorem transports_disagree :
    let cli := CommandLine.client Redeploy.setup CommandLine.scripted
    let api := Http.client Http.scripted
    let fits (d : Descriptor) : Prop :=
      ∀ p ∈ (((run d).transcript cli commands).map fun x => x.1).zip verdicts, p.2.Fits p.1
    Redeploy.setup.style = .namespace ∧
      List.Forall₂ Verdict.Printed verdicts (verdicts.map Verdict.print) ∧
      List.Forall₂ Verdict.Answered verdicts (verdicts.map Verdict.answer) ∧
      (fits nameless ∧ ((run nameless).run cli commands).1.1.mapError Failure.exitCode = .ok () ∧
        ((run nameless).run api requests).1.1.mapError Failure.exitCode = .error 4) ∧
      fits headless ∧ ((run headless).run cli commands).1.1.mapError Failure.exitCode = .ok () ∧
        ((run headless).run api requests).1.1.mapError Failure.exitCode = .error 1 := by
  have legible : ∀ v ∈ verdicts, v.Legible := by decide +kernel
  refine ⟨rfl, Verdict.prints legible, Verdict.answers legible, ⟨?_, ?_, ?_⟩, ?_, ?_, ?_⟩
  all_goals decide +kernel

end Converge
