import Converge.Cluster.CommandLine
import Converge.Json.Equality
import Converge.Proofs.Nesting
import Converge.Proofs.RoundTrip

/-!
# What stands on standard input

A manifest goes to the command line client as text on its standard input. The text says what the
manifest is, whatever characters its names, labels and fields are made of, so descriptors that
are sent as the same text have the same manifest. No other command has an input.
-/

namespace Converge

namespace Descriptor

/-- The manifest is made for text: in the body, all numbers are integers of 64 bits and no field
of an object is given twice, and the whole does not nest deeper than a reader goes. -/
structure Printable (d : Descriptor) : Prop where
  integral : ∀ e ∈ d.body.entries, e.2.integral = true
  settled : ∀ e ∈ d.body.entries, e.2.normalize = e.2
  shallow : d.manifest.depth ≤ Json.maxDepth

theorem Printable.parse {d : Descriptor} (printable : d.Printable) :
    Json.parse d.manifest.pretty = .ok d.manifest :=
  Json.parse_pretty (Json.nests_integral.manifest printable.integral) printable.shallow
    (Json.builds_settled.manifest printable.settled)

end Descriptor

namespace CommandLine

theorem command_stdin (setup : Setup) (c : Call) :
    (command setup c).stdin = (bareCommand setup c).stdin := by
  rw [command]
  cases setup.context <;> rfl

theorem manifest_stdin (setup : Setup) {d : Descriptor} {c : Call}
    (sends : c = .create d ∨ c = .replace d) :
    (command setup c).stdin = some d.manifest.pretty := by
  rw [command_stdin]
  rcases sends with rfl | rfl <;> rfl

theorem stdin_isSome_iff (setup : Setup) (c : Call) :
    (command setup c).stdin.isSome = true ↔ ∃ d, c = .create d ∨ c = .replace d := by
  constructor
  · intro sent
    rw [command_stdin] at sent
    cases c with
    | create d => exact ⟨d, Or.inl rfl⟩
    | replace d => exact ⟨d, Or.inr rfl⟩
    | createNamespace ns =>
      rw [bareCommand] at sent
      cases style : setup.style <;> rw [style] at sent <;> cases sent
    | get kind ns name => cases sent
    | delete kind ns name => cases sent
    | namespaceExists ns => cases sent
  · rintro ⟨d, sends⟩
    rw [manifest_stdin setup sends]
    rfl

/-- What a creation or a replacement has on standard input reads as the manifest, in the same
order at every level; so the same input is the same manifest. No other command has an input. -/
theorem stdin_carries_manifest (setup setup' : Setup) :
    (∀ d : Descriptor, d.Printable → ∀ c, c = .create d ∨ c = .replace d →
      ∃ text, (command setup c).stdin = some text ∧ Json.parse text = .ok d.manifest) ∧
    (∀ d d' : Descriptor, d.Printable → d'.Printable → ∀ c c',
      c = .create d ∨ c = .replace d → c' = .create d' ∨ c' = .replace d' →
      (command setup c).stdin = (command setup' c').stdin → d.manifest = d'.manifest) ∧
    ∀ c, (command setup c).stdin.isSome = true ↔ ∃ d, c = .create d ∨ c = .replace d := by
  refine ⟨fun d printable c sends => ?_, ?_, stdin_isSome_iff setup⟩
  · exact ⟨d.manifest.pretty, manifest_stdin setup sends, printable.parse⟩
  · intro d d' printable printable' c c' sends sends' same
    rw [manifest_stdin setup sends, manifest_stdin setup' sends', Option.some.injEq] at same
    have read := printable.parse
    rw [same, printable'.parse] at read
    exact (Except.ok.inj read).symm

/-- Quotes, backslashes, control characters and others outside ASCII, both ends of the range of
integers, and nothing at all in several places. -/
def awkward : Descriptor :=
  ⟨.secret, "web\"\\", "shop\n\x01\x1f", .ofList [("ключ", "\t\x7f\u2028"), ("", "\\u0041")],
    .empty, .ofList [("spec", .obj [("low", .int (-9223372036854775808)),
      ("high", .int 18446744073709551615), ("none", .arr [.obj [], .arr [], .null, .bool true]),
      ("a/b", .arr [.str "", .int 0, .int (-1), .obj [("\x08\x0c\r", .str "😀")]])])]⟩

theorem stdin_carries_manifest_awkward :
    awkward.Printable ∧
      ∃ text, (command ⟨"oc", some "dev", .project⟩ (.create awkward)).stdin = some text ∧
        Json.parse text = .ok awkward.manifest := by
  have printable : awkward.Printable := ⟨by decide, by decide +kernel, by decide +kernel⟩
  have carried := stdin_carries_manifest ⟨"oc", some "dev", .project⟩ ⟨"oc", none, .namespace⟩
  exact ⟨printable, carried.1 awkward printable _ (Or.inl rfl)⟩

end CommandLine

end Converge
