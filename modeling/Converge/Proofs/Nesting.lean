import Converge.Json.Shape
import Converge.Proofs.Objects

/-!
# Properties that nest

A property of values nests if it holds of texts and goes over to arrays from their items and to
objects from their values. A manifest has such a property if the values of its body have it.
-/

namespace Converge

namespace Json

/-- What holds of texts, and goes over to an array from its items and to an object with distinct
keys from its values. -/
structure Nests (P : Json → Prop) : Prop where
  str : ∀ s, P (.str s)
  arr : ∀ items, (∀ v ∈ items, P v) → P (.arr items)
  obj : ∀ fields, (fields.map Prod.fst).Nodup → (∀ e ∈ fields, P e.2) → P (.obj fields)

structure Builds (P : Json → Prop) : Prop extends Nests P where
  int : ∀ n, P (.int n)

theorem nests_integral : Nests fun v => v.integral = true where
  str _ := rfl
  arr _ each := everywhereItems_iff.mpr each
  obj _ _ each := everywhereFields_iff.mpr each

theorem builds_settled : Builds fun v => v.normalize = v where
  str _ := rfl
  int _ := rfl
  arr items each := by
    have same : normalizeItems items = items := by
      induction items with
      | nil => rfl
      | cons v rest ih =>
        obtain ⟨first, others⟩ := List.forall_mem_cons.mp each
        rw [normalizeItems, first, ih others]
    rw [normalize, same]
  obj _ distinct each := normalize_obj_iff.mpr ⟨distinct, each⟩

theorem builds_finite : Builds fun v => v.finite = true where
  str _ := rfl
  int _ := rfl
  arr _ each := everywhereItems_iff.mpr each
  obj _ _ each := everywhereFields_iff.mpr each

end Json

namespace Table

variable {κ α : Type} [DecidableEq κ] {P : α → Prop}

theorem forall_insert {t : Table κ α} (each : ∀ e ∈ t.entries, P e.2) {v : α} (value : P v)
    (k : κ) : ∀ e ∈ (t.insert k v).entries, P e.2 := by
  intro e inside
  rcases Entries.mem_put inside with rfl | inside
  · exact value
  · exact each e inside

theorem forall_insertAll {t : Table κ α} (each : ∀ e ∈ t.entries, P e.2) {new : List (κ × α)}
    (values : ∀ e ∈ new, P e.2) : ∀ e ∈ (t.insertAll new).entries, P e.2 := fun e inside =>
  (Entries.mem_putAll inside).elim (each e) (values e)

theorem forall_ofList {l : List (κ × α)} (values : ∀ e ∈ l, P e.2) :
    ∀ e ∈ (ofList l).entries, P e.2 :=
  forall_insertAll (fun _ inside => nomatch inside) values

end Table

namespace Json.Nests

variable {P : Json → Prop} (nests : Nests P)

include nests

theorem ofTable {t : Table String Json} (each : ∀ e ∈ t.entries, P e.2) : P (ofTable t) :=
  nests.obj t.entries t.distinct each

theorem ofTexts (t : Table String String) : P (ofTexts t) := by
  refine nests.ofTable fun e inside => ?_
  obtain ⟨_, _, rfl⟩ := List.mem_map.mp inside
  exact nests.str _

theorem textsField (name : String) (t : Table String String) :
    ∀ e ∈ Descriptor.textsField name t, P e.2 := by
  intro e inside
  rw [Descriptor.textsField] at inside
  split at inside
  · cases inside
  · rw [List.mem_singleton.mp inside]
    exact nests.ofTexts t

theorem metadata (d : Descriptor) : P d.metadata := by
  rw [Descriptor.metadata]
  refine nests.obj _ ?_ ?_
  · rw [Descriptor.textsField, Descriptor.textsField]
    split <;> split <;> simp
  · refine List.forall_mem_append.mpr ⟨List.forall_mem_append.mpr ⟨?_, ?_⟩, ?_⟩
    · simp [nests.str]
    · exact nests.textsField "labels" d.labels
    · exact nests.textsField "annotations" d.annotations

theorem manifest {d : Descriptor} (body : ∀ e ∈ d.body.entries, P e.2) : P d.manifest := by
  refine nests.ofTable (Table.forall_insertAll (Table.forall_ofList ?_) body)
  simp [nests.str, nests.metadata d]

end Json.Nests

namespace Descriptor

variable {d : Descriptor}

def head (d : Descriptor) : List (String × Json) :=
  [("apiVersion", .str d.kind.apiVersion), ("kind", .str d.kind.name), ("metadata", d.metadata)]

theorem manifest_distinct (keeps : d.KeepsHead) :
    ((d.head ++ d.body.entries).map Prod.fst).Nodup := by
  rw [List.map_append, List.nodup_append]
  refine ⟨by simp [head], d.body.distinct, ?_⟩
  rintro key named _ inside rfl
  exact keeps key named inside

/-- The fields of a manifest in their order. -/
theorem manifest_eq (keeps : d.KeepsHead) : d.manifest = .obj (d.head ++ d.body.entries) := by
  have whole : (Table.ofList d.head).insertAll d.body.entries =
      ⟨d.head ++ d.body.entries, manifest_distinct keeps⟩ :=
    Table.ext (Entries.putAll_eq_append (manifest_distinct keeps))
  exact congrArg Json.ofTable whole

theorem rest_manifest (keeps : d.KeepsHead) :
    Object.rest (d.head ++ d.body.entries) = d.body.entries := by
  have dropped : Object.rest d.head = [] := rfl
  rw [Object.rest, List.filter_append, ← Object.rest, dropped, List.nil_append,
    List.filter_eq_self]
  intro e inside
  have other : e.1 ∉ headFields := fun named =>
    keeps e.1 named (List.mem_map.mpr ⟨e, inside, rfl⟩)
  simpa using other

end Descriptor

end Converge
