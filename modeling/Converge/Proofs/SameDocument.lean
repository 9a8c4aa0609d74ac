import Converge.Proofs.Built
import Converge.Proofs.StandardInput
import Converge.Proofs.Targets
import Converge.Proofs.Wire

/-!
# One document for both transports

The HTTP interface is sent an object that was read from the manifest and written again, the
command line client the manifest itself. The two are the same up to the order of fields: only the
metadata are written in an order of their own, and every other field stays where it was.
-/

namespace Converge

namespace Descriptor

variable (d : Descriptor)

def written : Json :=
  .obj ([("apiVersion", .str d.kind.apiVersion), ("kind", .str d.kind.name),
    ("metadata", d.writtenMetadata)] ++ d.body.entries)

variable {d}

theorem written_sorted (keeps : d.KeepsHead) : d.written.sorted = d.manifest.sorted := by
  rw [manifest_eq keeps, written, head, Json.sorted, Json.sorted]
  simp only [List.cons_append, Json.sortedFields, writtenMetadata_sorted]

theorem document_written (keeps : d.KeepsHead)
    (settled : ∀ e ∈ d.body.entries, e.2.normalize = e.2) :
    Http.document d = .ok d.written := by
  have formed : Object.WellFormed d.kind.apiVersion d.kind.name d.manifest :=
    { settled := Json.builds_settled.manifest settled
      version := by
        rw [manifest_field keeps (by decide)]
        rfl
      kind := manifest_kind keeps
      metadata := ⟨d.metadata, manifest_metadata keeps, by rw [metadata_written]; rfl⟩ }
  have found := manifest_metadata keeps
  rw [manifest_eq keeps] at formed found
  have converted := formed.convert found d.metadata_written
  rw [rest_manifest keeps] at converted
  rw [Http.document, manifest_eq keeps, converted]
  rfl

end Descriptor

end Converge
