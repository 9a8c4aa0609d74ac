import Converge.Cluster.CommandLine
import Converge.Cluster.Http
import Converge.Proofs.Visit

/-!
# What goes over the wire

Whoever carries commands or requests out can write down what it was given. What stands
there after a run is what the calls of the run send, so a property of the calls is one of
the commands and requests. The calls of a dry run only look, and so do its commands and
requests, whatever the answers are.
-/

namespace Converge

/-- A client that writes down what every call sends has written down what the calls of a
run send. -/
theorem Dialogue.run_log {α β σ : Type} {client : Client (List β × σ)} {sent : Call → List β}
    (logs : ∀ c log s, (client.answer c (log, s)).2.1 = log ++ sent c) (d : Dialogue α)
    (log : List β) (s : σ) :
    (d.run client (log, s)).2.1 =
      log ++ (d.transcript client (log, s)).flatMap fun e => sent e.1 := by
  induction d generalizing log s with
  | done a => exact (List.append_nil log).symm
  | ask c next ih =>
    rcases said : client.answer c (log, s) with ⟨answer, log', s'⟩
    have kept : log' = log ++ sent c := by simpa only [said] using logs c log s
    simp only [run, transcript, said, List.flatMap_cons]
    rw [ih, kept, List.append_assoc]

namespace CommandLine

variable {ρ : Type}

/-- Run commands and write them down, the last one last. -/
def recording (runner : Runner ρ) : Runner (List Command × ρ) := fun command (commands, s) =>
  let (result, s) := runner command s
  (result, commands ++ [command], s)

/-- The runner is given the commands of the calls. -/
theorem run_recording {α : Type} (setup : Setup) (runner : Runner ρ) (d : Dialogue α) (s : ρ) :
    (d.run (client setup (recording runner)) ([], s)).2.1 =
      (d.transcript (client setup (recording runner)) ([], s)).map fun e =>
        command setup e.1 := by
  have logs : ∀ c commands s, ((client setup (recording runner)).answer c (commands, s)).2.1 =
      commands ++ [command setup c] := fun _ _ _ => rfl
  rw [Dialogue.run_log logs, List.nil_append, List.map_eq_flatMap]

/-- The command of a call that only looks. -/
theorem command_of_look (setup : Setup) {c : Call} (look : c.isMutation = false) :
    (command setup c).args.head? = some "get" ∧ (command setup c).stdin = none := by
  cases c with
  | get kind ns name => cases context : setup.context <;> simp [command, bareCommand, context]
  | namespaceExists ns => cases context : setup.context <;> simp [command, bareCommand, context]
  | create d => cases look
  | replace d => cases look
  | delete kind ns name => cases look
  | createNamespace ns => cases look

end CommandLine

namespace Http

variable {ρ : Type}

def recording (service : Service ρ) : Service (List Request × ρ) := fun r (requests, s) =>
  let (result, s) := service r s
  (result, requests ++ [r], s)

/-- The service is given the requests of the calls for which there is one. -/
theorem run_recording {α : Type} (service : Service ρ) (d : Dialogue α) (s : ρ) :
    (d.run (client (recording service)) ([], s)).2.1 =
      (d.transcript (client (recording service)) ([], s)).flatMap fun e =>
        (request e.1).toOption.toList := by
  have logs : ∀ c requests s, ((client (recording service)).answer c (requests, s)).2.1 =
      requests ++ (request c).toOption.toList := by
    intro c requests s
    cases sent : request c with
    | error failure => simp [client, sent, Except.toOption]
    | ok r => simp [client, recording, sent, Except.toOption]
  rw [Dialogue.run_log logs, List.nil_append]

theorem build_ok {method : Method} {path : String} {body : Option Json} {r : Request}
    (built : build method path body = .ok r) : r.method = method ∧ r.body = body := by
  unfold build at built
  split at built
  · cases built
    exact ⟨rfl, rfl⟩
  · cases built

theorem buildNamed_ok {method : Method} {collection name : String} {body : Option Json}
    {r : Request} (built : buildNamed method collection name body = .ok r) :
    r.method = method ∧ r.body = body := by
  unfold buildNamed at built
  split at built
  · cases built
  · exact build_ok built

/-- The request of a call that only looks. -/
theorem request_of_look {c : Call} (look : c.isMutation = false) {r : Request}
    (sent : request c = .ok r) : r.method = .get ∧ r.body = none := by
  cases c with
  | get kind ns name => exact buildNamed_ok sent
  | namespaceExists ns => exact buildNamed_ok sent
  | create d => cases look
  | replace d => cases look
  | delete kind ns name => cases look
  | createNamespace ns => cases look

end Http

/-- A dry run only looks: every command that it has run is a `get` without input, and every
request that it sends is a GET without a body, whatever the answers are. -/
theorem dryRun_only_looks {ρ σ : Type} (setup : CommandLine.Setup)
    (runner : CommandLine.Runner ρ) (service : Http.Service σ) {options : Options}
    (dry : options.dryRun = true) (desired : List Desired) (report : Report) (s : ρ) (t : σ) :
    let cli := CommandLine.client setup (CommandLine.recording runner)
    let api := Http.client (Http.recording service)
    (∀ command ∈ ((reconcileAll cli.noun options desired report).run cli ([], s)).2.1,
      command.args.head? = some "get" ∧ command.stdin = none) ∧
    (∀ request ∈ ((reconcileAll api.noun options desired report).run api ([], t)).2.1,
      request.method = .get ∧ request.body = none) := by
  intro cli api
  constructor
  · intro command given
    rw [CommandLine.run_recording] at given
    obtain ⟨e, said, rfl⟩ := List.mem_map.mp given
    have running := reconcileAll_running cli cli.noun options desired report ([], s)
    exact CommandLine.command_of_look setup (running.dry dry e said)
  · intro request given
    rw [Http.run_recording] at given
    obtain ⟨e, said, sent⟩ := List.mem_flatMap.mp given
    have running := reconcileAll_running api api.noun options desired report ([], t)
    have sent : Http.request e.1 = .ok request := by
      cases made : Http.request e.1 with
      | error failure => simp [made, Except.toOption] at sent
      | ok r => simpa [made, Except.toOption, eq_comm] using sent
    exact Http.request_of_look (running.dry dry e said) sent

namespace Hidden

def setup : CommandLine.Setup := ⟨"oc", some "dev", .project⟩

def data : Descriptor := .bare .persistentVolumeClaim "data" "shop" .empty

def options : Options := ⟨true, true, true⟩

def commands : CommandLine.Script :=
  ⟨[.ok ⟨1, "", "Error from server (Forbidden): projects \"shop\" is forbidden"⟩,
    .ok ⟨1, "", "Error from server (NotFound): pvc \"data\" not found"⟩], []⟩

/-- There is no namespace, and what is said of the volume claim cannot be read. -/
def requests : Http.Script :=
  ⟨[.ok ⟨404, "\x7b\"status\":\"Failure\",\"reason\":\"NotFound\",\"code\":404\x7d"⟩,
    .ok ⟨200, "\x7b"⟩], []⟩

end Hidden

open Hidden in
/-- What would be created is looked for, and no more. -/
theorem dryRun_only_looks_hidden :
    let cli := CommandLine.client setup (CommandLine.recording CommandLine.scripted)
    let api := Http.client (Http.recording Http.scripted)
    let sent := ((reconcileAll cli.noun options [.present data] .empty).run cli ([], commands)).2.1
    let asked := ((reconcileAll api.noun options [.present data] .empty).run api ([], requests)).2.1
    sent = [⟨["get", "project/shop", "-o", "name", "--context=dev"], none⟩,
      ⟨["get", "pvc/data", "-n", "shop", "-o", "json", "--context=dev"], none⟩] ∧
    asked.map (·.path) = ["/api/v1/namespaces/shop",
      "/api/v1/namespaces/shop/persistentvolumeclaims/data"] ∧
    (∀ command ∈ sent, command.args.head? = some "get" ∧ command.stdin = none) ∧
    ∀ request ∈ asked, request.method = .get ∧ request.body = none := by
  intro cli api sent asked
  have only := dryRun_only_looks setup CommandLine.scripted Http.scripted
    (show options.dryRun = true from rfl) [.present data] .empty commands requests
  exact ⟨by decide +kernel, by decide +kernel, only.1, only.2⟩

end Converge
