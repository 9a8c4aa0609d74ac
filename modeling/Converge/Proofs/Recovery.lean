import Converge.Proofs.Built
import Converge.Proofs.TextIdentity

/-!
# The descriptor behind a manifest

The manifest of what is sent for a resource begins with version, kind and metadata, and no field
of the body takes their place. So the descriptor can be taken out of it again, and descriptors
whose manifests have the same text are the same.
-/

namespace Converge

/-- The texts under a path; there are none if no object is there. -/
def Json.textsAt (path : List String) (v : Json) : Table String String :=
  match v.at? path with
  | some (.obj fields) =>
    Table.ofList (fields.filterMap fun (key, v) => v.asString?.map fun s => (key, s))
  | _ => .empty

namespace Descriptor

/-- The descriptor that a manifest is of. -/
def ofManifest? (v : Json) : Option Descriptor := do
  let word ← (v.field? "kind").bind Json.asString?
  let kind ← Kind.all.find? fun k => k.name = word
  let name ← (v.at? ["metadata", "name"]).bind Json.asString?
  let ns ← (v.at? ["metadata", "namespace"]).bind Json.asString?
  let body ← match v with
    | .obj fields => some (Object.rest fields)
    | _ => none
  return ⟨kind, name, ns, v.textsAt ["metadata", "labels"], v.textsAt ["metadata", "annotations"],
    Table.ofList body⟩

variable {d : Descriptor}

theorem metadata_labels (d : Descriptor) : d.metadata.field? "labels" =
    if d.labels.isEmpty then none else some (Json.ofTexts d.labels) := by
  rw [metadata, textsField, textsField]
  cases d.labels.isEmpty <;> cases d.annotations.isEmpty <;> rfl

theorem metadata_annotations (d : Descriptor) : d.metadata.field? "annotations" =
    if d.annotations.isEmpty then none else some (Json.ofTexts d.annotations) := by
  rw [metadata, textsField, textsField]
  cases d.labels.isEmpty <;> cases d.annotations.isEmpty <;> rfl

/-- Texts that are left out if there are none are found as they were. -/
theorem textsAt_metadata (keeps : d.KeepsHead) {key : String} {t : Table String String}
    (found : d.metadata.field? key = if t.isEmpty then none else some (Json.ofTexts t)) :
    d.manifest.textsAt ["metadata", key] = t := by
  have there : d.manifest.at? ["metadata", key] =
      if t.isEmpty then none else some (Json.ofTexts t) := by
    simp only [Json.at?, manifest_metadata keeps, Option.bind_some, found, Option.bind_fun_some]
  rw [Json.textsAt, there]
  cases empty : t.isEmpty with
  | true => exact (Table.ext (List.isEmpty_iff.mp empty)).symm
  | false =>
    have texts : (t.mapValues Json.str).entries.filterMap
        (fun (key, v) => v.asString?.map fun s => (key, s)) = t.entries := by
      rw [Table.mapValues, List.filterMap_map]
      exact List.filterMap_some
    refine Table.ext ?_
    simp only [Bool.false_eq_true, if_false, Json.ofTexts, Json.ofTable, texts]
    exact Entries.putAll_nil t.distinct

theorem find_kind (kind : Kind) : Kind.all.find? (fun k => k.name = kind.name) = some kind := by
  cases kind <;> decide

theorem ofManifest?_manifest (keeps : d.KeepsHead) : ofManifest? d.manifest = some d := by
  have name : d.manifest.at? ["metadata", "name"] = some (.str d.name) := by
    simp only [Json.at?, manifest_metadata keeps, Option.bind_some, metadata_name]
  have ns : d.manifest.at? ["metadata", "namespace"] = some (.str d.ns) := by
    simp only [Json.at?, manifest_metadata keeps, Option.bind_some, metadata_namespace]
  have labels := textsAt_metadata keeps d.metadata_labels
  have annotations := textsAt_metadata keeps d.metadata_annotations
  have body : Table.ofList d.body.entries = d.body :=
    Table.ext (Entries.putAll_nil d.body.distinct)
  simp only [ofManifest?, manifest_kind keeps, name, ns, labels, annotations]
  simp only [manifest_eq keeps, rest_manifest keeps, Option.bind_some, Json.asString?, find_kind,
    Option.bind_eq_bind, body, Option.pure_def]

/-- The manifest of what is sent is its head and then the body that is built, with what a
replacement adds at the end; the head is that of the resource, and the descriptor can be taken out
of the manifest. So of all that is sent with finite numbers, as JSON has no others, what has the
same text is the same. -/
theorem manifest_tells_descriptor :
    (∀ (c : Config) (ns : String) (d : Descriptor), c.build ns = .ok d →
      ∀ (d' : Descriptor) (added : List (String × Json)),
        (d' = d ∧ added = [] ∨
          ∃ live, d' = d.kind.prepareReplace d live ∧ added = d.kind.rollout live) →
        (d'.kind = c.kind ∧ d'.name = c.name ∧ d'.ns = ns ∧ d'.labels = c.labels ∧
          d'.annotations = c.annotations) ∧
        d'.manifest = .obj ([("apiVersion", .str d'.kind.apiVersion), ("kind", .str d'.kind.name),
          ("metadata", .obj ([("name", .str d'.name), ("namespace", .str d'.ns)] ++
            (if d'.labels.isEmpty then []
              else [("labels", .obj (d'.labels.entries.map fun e => (e.1, .str e.2)))]) ++
            (if d'.annotations.isEmpty then []
              else [("annotations", .obj (d'.annotations.entries.map fun e => (e.1, .str e.2)))])))]
          ++ d.body.entries ++ added) ∧
        d'.KeepsHead ∧ ofManifest? d'.manifest = some d') ∧
    ∀ (c c' : Config) (ns ns' : String) (d d' : Descriptor), c.IsSent ns d → c'.IsSent ns' d' →
      (∀ v ∈ c.passedOn, v.finite = true) → (∀ v ∈ c'.passedOn, v.finite = true) →
      d.manifest.pretty = d'.manifest.pretty → d = d' := by
  constructor
  · intro c ns d built d' added which
    have body := (Config.sends_build built).body
    rw [List.append_nil] at body
    have sends : c.Sends ns added d' := by
      rcases which with ⟨rfl, rfl⟩ | ⟨live, rfl, rfl⟩
      · exact Config.sends_build built
      · have sends := Config.sends_prepareReplace built live
        rwa [← (Config.sends_build built).kind] at sends
    refine ⟨⟨sends.kind, sends.name, sends.ns, sends.labels, sends.annotations⟩, ?_,
      sends.keepsHead, ofManifest?_manifest sends.keepsHead⟩
    rw [manifest_eq sends.keepsHead, sends.body, ← body, ← List.append_assoc]
    rfl
  · intro c c' ns ns' d d' sent sent' passed passed' same
    obtain ⟨added, sends⟩ := sent.sends
    obtain ⟨added', sends'⟩ := sent'.sends
    have manifests := Json.pretty_injective
      (Json.builds_finite.manifest (sends.body_builds Json.builds_finite passed))
      (Json.builds_finite.manifest (sends'.body_builds Json.builds_finite passed')) same
    have recovered := ofManifest?_manifest sends.keepsHead
    rw [manifests, ofManifest?_manifest sends'.keepsHead] at recovered
    exact (Option.some.inj recovered).symm

/-- A deployment with labels out of order, and with a container that has a field of its own. -/
def worker : Config :=
  .deployment ⟨"worker", .ofList [("tier", "back"), ("app", "shop")], 2,
    [⟨"main", "registry/worker:1", .ofList [("MODE", "quiet")], [8080],
      .ofList [("resources", .obj [("cpu", .float ⟨0x3FE0000000000000⟩), ("gpu", .null)])]⟩],
    .rolling, none⟩

theorem worker_told :
    ∃ d, worker.build "shop" = .ok d ∧
      (∀ live, ofManifest? (d.kind.prepareReplace d live).manifest =
        some (d.kind.prepareReplace d live)) ∧
      d.kind.prepareReplace d .null = d.kind.prepareReplace d (.obj []) := by
  have built : worker.build "shop" = .ok _ := rfl
  refine ⟨_, built, fun live => ?_, ?_⟩
  · exact (manifest_tells_descriptor.1 worker "shop" _ built _ _ (Or.inr ⟨live, rfl, rfl⟩)).2.2.2
  · exact manifest_tells_descriptor.2 worker worker "shop" "shop" _ _
      ⟨_, built, Or.inr ⟨_, rfl⟩⟩ ⟨_, built, Or.inr ⟨_, rfl⟩⟩ (by decide) (by decide) rfl

end Descriptor

end Converge
