import Converge.Proofs.Recovery
import Converge.Proofs.Routes

/-!
# Every command and every request addresses one operation

The operation of a command is told by its first argument and the number of arguments, the
resource by an argument of kind and name, or by the manifest on standard input. So a command is
that of one call only, and so is a request, up to the order of fields in what it carries.
-/

namespace Converge

theorem Kind.shortName_injective {a b : Kind} (h : a.shortName = b.shortName) : a = b := by
  cases a <;> cases b <;> first | rfl | exact absurd h (by decide)

theorem Kind.shortName_plain (kind : Kind) : '/' ∉ kind.shortName.toList := by
  cases kind <;> decide

def IsFlag (s : String) : Prop := s.toList.head? = some '-'

theorem not_isFlag_of_isName {s : String} (good : isName s = true) : ¬IsFlag s := by
  rw [isName, Bool.and_eq_true] at good
  intro flag
  have edges := good.2
  cases letters : s.toList with
  | nil => rw [letters] at edges; cases edges
  | cons c rest =>
    rw [IsFlag, letters, List.head?_cons, Option.some.injEq] at flag
    simp only [letters, flag, Bool.and_eq_true] at edges
    exact absurd edges.1 (by decide)

theorem Descriptor.manifest_namespace {d : Descriptor} (keeps : d.KeepsHead) :
    d.manifest.at? ["metadata", "namespace"] = some (.str d.ns) := by
  simp only [Json.at?, manifest_metadata keeps, Option.bind_some, metadata_namespace]

namespace CommandLine

/-- The operation of a command, by its first argument and the number of arguments. -/
def verbOf (args : List String) : Verb :=
  if args.head? = some "replace" then .replace
  else if args.head? = some "delete" then .delete
  else if args.head? = some "get" then if args.length = 4 then .namespaceExists else .get
  else if args.length = 3 then .createNamespace
  else .create

theorem verbOf_bareCommand (setup : Setup) (c : Call) :
    verbOf (bareCommand setup c).args = c.verb := by
  cases c with
  | createNamespace ns =>
    cases style : setup.style <;> simp [bareCommand, style, verbOf, Call.verb]
  | _ => simp [bareCommand, verbOf, Call.verb]

theorem args_eq (setup : Setup) (c : Call) : (command setup c).args =
    (bareCommand setup c).args ++ (setup.context.map fun s => "--context=" ++ s).toList := by
  rw [command]
  cases setup.context with
  | none => exact (List.append_nil _).symm
  | some context => rfl

/-- Kind and name are found again in the argument they share. -/
theorem target_injective {kind kind' : Kind} {name name' : String}
    (same : kind.shortName ++ "/" ++ name = kind'.shortName ++ "/" ++ name') :
    kind = kind' ∧ name = name' := by
  have letters := congrArg String.toList same
  have slash : "/".toList = ['/'] := rfl
  simp only [String.toList_append, slash, List.append_assoc, List.singleton_append] at letters
  obtain ⟨kinds, names⟩ :=
    Report.parts_of_first kind.shortName_plain kind'.shortName_plain letters
  exact ⟨Kind.shortName_injective (String.toList_injective kinds), String.toList_injective names⟩

/-- What stands on standard input tells the descriptor. -/
theorem descriptor_of_stdin {d d' : Descriptor} (plain : d.Plain) (plain' : d'.Plain)
    (same : d.manifest.pretty = d'.manifest.pretty) : d = d' := by
  have manifests := Json.pretty_injective (Json.builds_finite.manifest plain.finite)
    (Json.builds_finite.manifest plain'.finite) same
  have recovered := Descriptor.ofManifest?_manifest plain.keeps
  rw [manifests, Descriptor.ofManifest?_manifest plain'.keeps] at recovered
  exact (Option.some.inj recovered).symm

theorem eq_of_bareCommand (setup : Setup) {c c' : Call} (plain : c.Plain) (plain' : c'.Plain)
    (same : bareCommand setup c = bareCommand setup c') : c = c' := by
  have verbs := verbOf_bareCommand setup c
  rw [same, verbOf_bareCommand setup c'] at verbs
  cases Call.akin verbs.symm with
  | get | delete =>
    simp only [bareCommand, Command.mk.injEq, List.cons.injEq] at same
    obtain ⟨rfl, rfl⟩ := target_injective same.1.2.1
    rw [same.1.2.2.2.1]
  | create | replace =>
    simp only [bareCommand, Command.mk.injEq, Option.some.injEq] at same
    rw [descriptor_of_stdin plain plain' same.2]
  | namespaceExists =>
    simp only [bareCommand, Command.mk.injEq, List.cons.injEq] at same
    rw [(String.append_right_inj _).mp same.1.2.1]
  | createNamespace =>
    cases style : setup.style <;> simp [bareCommand, style] at same <;> rw [same]

/-- A command is that of one call only. -/
theorem eq_of_command (setup : Setup) {c c' : Call} (plain : c.Plain) (plain' : c'.Plain)
    (same : command setup c = command setup c') : c = c' := by
  have args := congrArg Command.args same
  rw [args_eq, args_eq] at args
  have stdin := congrArg Command.stdin same
  rw [command_stdin, command_stdin] at stdin
  refine eq_of_bareCommand setup plain plain' ?_
  calc bareCommand setup c
      = ⟨(bareCommand setup c).args, (bareCommand setup c).stdin⟩ := rfl
    _ = bareCommand setup c' := by rw [List.append_cancel_right args, stdin]

/-- Of the arguments, those that are others in the second list are no flags. -/
def KeepsFlags (args args' : List String) : Prop :=
  List.Forall₂ (fun a b => a ≠ b → ¬IsFlag a) args args'

theorem keepsFlags_refl (args : List String) : KeepsFlags args args :=
  List.forall₂_same.mpr fun _ _ other => absurd rfl other

theorem not_isFlag_target (kind : Kind) (name : String) :
    ¬IsFlag (kind.shortName ++ "/" ++ name) := by
  cases kind <;> simp [IsFlag, Kind.shortName, String.toList_append]

theorem not_isFlag_namespace (setup : Setup) (ns : String) :
    ¬IsFlag (setup.namespaceWord ++ "/" ++ ns) := by
  rw [Setup.namespaceWord]
  cases setup.style <;> simp [IsFlag, NamespaceStyle.word, String.toList_append]

theorem keepsFlags_bareCommand (setup : Setup) {c c' : Call} (plain : c.Plain)
    (verbs : c'.verb = c.verb) :
    KeepsFlags (bareCommand setup c).args (bareCommand setup c').args := by
  cases Call.akin verbs.symm with
  | get | delete =>
    simp [KeepsFlags, bareCommand, not_isFlag_target, not_isFlag_of_isName plain.1]
  | create | replace => simp [KeepsFlags, bareCommand, not_isFlag_of_isName plain.placed]
  | namespaceExists => simp [KeepsFlags, bareCommand, not_isFlag_namespace]
  | createNamespace =>
    cases style : setup.style <;> simp [KeepsFlags, bareCommand, style, not_isFlag_of_isName plain]

theorem keepsFlags_command (setup : Setup) {c c' : Call} (plain : c.Plain)
    (verbs : c'.verb = c.verb) :
    KeepsFlags (command setup c).args (command setup c').args := by
  rw [args_eq, args_eq]
  exact List.rel_append (keepsFlags_bareCommand setup plain verbs) (keepsFlags_refl _)

/-- The argument that follows a flag. -/
def valueOf? (flag : String) : List String → Option String
  | [] => none
  | a :: rest => if a = flag then rest.head? else valueOf? flag rest

theorem valueOf?_command (setup : Setup) {d : Descriptor} {c : Call}
    (sends : c = .create d ∨ c = .replace d) :
    valueOf? "-n" (command setup c).args = some d.ns := by
  rw [args_eq]
  rcases sends with rfl | rfl <;> rfl

end CommandLine

section Addresses

open CommandLine

/-- Commands and requests for things with names are of one call each, and every such call has
both; requests that differ in the order of fields only count as the same here. Of the arguments of
a command, none that depends on what the call is about starts with a hyphen. Where a manifest is
sent, namespace and name beside it are those in its metadata. -/
theorem requests_address_one_operation (setup : Setup) {c : Call} (plain : c.Plain) :
    (∀ c' : Call, c'.Plain → command setup c = command setup c' → c = c') ∧
    (∃ r, Http.request c = .ok r) ∧
    (∀ (c' : Call) (r r' : Http.Request), c'.Plain →
      Http.request c = .ok r → Http.request c' = .ok r' →
      r.method = r'.method → r.path = r'.path →
      r.body.map Json.sorted = r'.body.map Json.sorted → c.Same c') ∧
    (∀ c' : Call, c'.verb = c.verb →
      List.Forall₂ (fun a b => a ≠ b → a.toList.head? ≠ some '-')
        (command setup c).args (command setup c').args) ∧
    ∀ d, c = .create d ∨ c = .replace d →
      (∃ (v : Json) (ns : String), (command setup c).stdin = some v.pretty ∧
        v.at? ["metadata", "namespace"] = some (.str ns) ∧
        valueOf? "-n" (command setup c).args = some ns) ∧
      ∃ (r : Http.Request) (w : Json) (ns name : String), Http.request c = .ok r ∧ r.body = some w ∧
        w.at? ["metadata", "namespace"] = some (.str ns) ∧
        w.at? ["metadata", "name"] = some (.str name) ∧
        (c = .create d → r.path = Http.collection d.kind ns) ∧
        (c = .replace d → r.path = Http.collection d.kind ns ++ "/" ++ name) := by
  refine ⟨?_, ⟨_, Http.request_eq plain⟩, ?_, ?_, ?_⟩
  · intro c' plain' same
    exact eq_of_command setup plain plain' same
  · intro c' r r' plain' asked asked' methods paths bodies
    rw [Http.request_eq plain, Except.ok.injEq] at asked
    rw [Http.request_eq plain', Except.ok.injEq] at asked'
    subst asked asked'
    exact Http.same_of_request plain plain' methods paths bodies
  · intro c' verbs
    exact keepsFlags_command setup plain verbs
  · intro d sends
    have head : d.Plain := by
      rcases sends with rfl | rfl <;> exact plain
    refine ⟨⟨d.manifest, d.ns, manifest_stdin setup sends, Descriptor.manifest_namespace head.keeps,
      valueOf?_command setup sends⟩, _, d.written, d.ns, d.name, Http.request_eq plain, ?_,
      d.written_place.1, d.written_place.2, ?_, ?_⟩
    · rcases sends with rfl | rfl <;> rfl
    · rintro rfl
      exact (Http.collection_eq d.kind d.ns).symm
    · rintro rfl
      exact (Http.named_eq d.kind d.ns d.name).symm

/-- A route whose name and namespace look like words of other commands. -/
def lookalike : Descriptor :=
  .bare .route "project" "namespace" (.ofList [("spec", .obj [("host", .str "-n")])])

theorem lookalike_addressed :
    (Call.replace lookalike).Plain ∧ (Call.create lookalike).Plain ∧
    command ⟨"oc", some "dev", .project⟩ (.replace lookalike) ≠
      command ⟨"oc", some "dev", .project⟩ (.create lookalike) ∧
    ∃ (r : Http.Request) (w : Json) (ns name : String),
      Http.request (.replace lookalike) = .ok r ∧ r.body = some w ∧
      w.at? ["metadata", "namespace"] = some (.str ns) ∧
      w.at? ["metadata", "name"] = some (.str name) ∧
      r.path = Http.collection .route ns ++ "/" ++ name := by
  have plain : lookalike.Plain := ⟨by decide, by decide, by decide, by decide, by decide⟩
  obtain ⟨apart, -, -, -, sent⟩ :=
    requests_address_one_operation ⟨"oc", some "dev", .project⟩
      (show (Call.replace lookalike).Plain from plain)
  obtain ⟨-, r, w, ns, name, asked, body, placed, named, -, path⟩ := sent lookalike (Or.inr rfl)
  refine ⟨plain, plain, fun same => ?_, r, w, ns, name, asked, body, placed, named, path rfl⟩
  cases apart (.create lookalike) plain same

end Addresses

end Converge
