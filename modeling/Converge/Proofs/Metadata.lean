import Converge.Proofs.Nesting

/-!
# Metadata in the way of the interface

The interface writes metadata in an order of its own, and their labels and annotations in the
order of their keys. Up to the order of fields they are the metadata that were given.
-/

namespace Converge

namespace Json

def byKey (fields : List (String × Json)) : List (String × Json) :=
  fields.mergeSort fun a b => a.1 ≤ b.1

mutual
/-- The value with the fields of every object in the order of their keys. Nothing but their order
is lost. -/
def sorted : Json → Json
  | .arr items => .arr (sortedItems items)
  | .obj fields => .obj (byKey (sortedFields fields))
  | v => v

def sortedItems : List Json → List Json
  | [] => []
  | v :: rest => sorted v :: sortedItems rest

def sortedFields : List (String × Json) → List (String × Json)
  | [] => []
  | (name, v) :: rest => (name, sorted v) :: sortedFields rest
end

theorem sortedFields_eq_map (fields : List (String × Json)) :
    sortedFields fields = fields.map fun e => (e.1, e.2.sorted) := by
  induction fields with
  | nil => rfl
  | cons e rest ih => rw [sortedFields, ih, List.map_cons]

theorem sortedFields_append (l k : List (String × Json)) :
    sortedFields (l ++ k) = sortedFields l ++ sortedFields k := by
  simp only [sortedFields_eq_map, List.map_append]

theorem byKey_pairwise (fields : List (String × Json)) :
    (byKey fields).Pairwise fun a b => a.1 ≤ b.1 := by
  have sorted : (byKey fields).Pairwise fun a b => Decidable.decide (a.1 ≤ b.1) = true := by
    refine List.pairwise_mergeSort (fun a b c first second => ?_) (fun a b => ?_) fields
    · rw [decide_eq_true_eq] at first second ⊢
      exact String.le_trans first second
    · rw [Bool.or_eq_true, decide_eq_true_eq, decide_eq_true_eq]
      exact String.le_total a.1 b.1
  exact sorted.imp of_decide_eq_true

theorem byKey_perm (fields : List (String × Json)) : (byKey fields).Perm fields :=
  List.mergeSort_perm fields _

/-- The order of the fields does not matter if keys are distinct. -/
theorem byKey_eq_of_perm {l k : List (String × Json)} (distinct : (l.map Prod.fst).Nodup)
    (perm : l.Perm k) : byKey l = byKey k := by
  have entries : (byKey l).Perm (byKey k) :=
    (byKey_perm l).trans (perm.trans (byKey_perm k).symm)
  refine List.Perm.eq_of_pairwise (fun a b first second before behind => ?_)
    (byKey_pairwise l) (byKey_pairwise k) entries
  have key : a.1 = b.1 := String.le_antisymm before behind
  have listed := (Entries.get?_eq_some_iff distinct).mpr ((byKey_perm l).mem_iff.mp first)
  have listed' := (Entries.get?_eq_some_iff distinct).mpr
    ((byKey_perm l).mem_iff.mp (entries.mem_iff.mpr second))
  rw [key, listed'] at listed
  exact Prod.ext key (Option.some.inj listed).symm

theorem sorted_obj_of_perm {l k : List (String × Json)} (distinct : (l.map Prod.fst).Nodup)
    (perm : l.Perm k) : (Json.obj l).sorted = (Json.obj k).sorted := by
  have keys : ((sortedFields l).map Prod.fst).Nodup := by
    rw [sortedFields_eq_map, List.map_map]
    exact distinct
  have values : (sortedFields l).Perm (sortedFields k) := by
    rw [sortedFields_eq_map, sortedFields_eq_map]
    exact perm.map _
  rw [sorted, sorted, byKey_eq_of_perm keys values]

end Json

/-- Texts as the interface writes them: in the order of their keys. -/
def Json.ofSortedTexts (t : Table String String) : Json :=
  .obj (Json.byKey (t.mapValues Json.str).entries)

theorem Json.ofSortedTexts_sorted (t : Table String String) :
    (ofSortedTexts t).sorted = (ofTexts t).sorted := by
  refine sorted_obj_of_perm ?_ (byKey_perm _)
  rw [((byKey_perm _).map Prod.fst).nodup_iff]
  exact (t.mapValues Json.str).distinct

theorem mapM_eq_ok {ε α β : Type} {f : α → Except ε β} {g : α → β} {l : List α}
    (each : ∀ a ∈ l, f a = .ok (g a)) : l.mapM f = .ok (l.map g) := by
  induction l with
  | nil => rfl
  | cons a rest ih =>
    obtain ⟨now, later⟩ := List.forall_mem_cons.mp each
    rw [List.mapM_cons, now, ih later]
    rfl

theorem Member.sortedTexts_eq (t : Table String String) :
    Member.sortedTexts (Json.ofTexts t) = .ok (Json.ofSortedTexts t) := by
  rw [Json.ofTexts, Json.ofTable, Member.sortedTexts, mapM_eq_ok (g := id) fun e inside => ?_]
  · simp only [bind, Except.bind, List.map_id, Entries.putAll_nil (t.mapValues Json.str).distinct]
    rfl
  · obtain ⟨_, _, rfl⟩ := List.mem_map.mp inside
    rfl

theorem Member.orNull_text (s : String) :
    Member.orNull Member.text (.str s) = .ok (some (.str s)) := rfl

theorem Member.orNull_sortedTexts (t : Table String String) :
    Member.orNull Member.sortedTexts (Json.ofTexts t) = .ok (some (Json.ofSortedTexts t)) := by
  have read := Member.sortedTexts_eq t
  rw [Json.ofTexts, Json.ofTable] at read ⊢
  simp only [Member.orNull, read, Except.map]

namespace Descriptor

variable (d : Descriptor)

def sortedTextsField (name : String) (t : Table String String) : List (String × Json) :=
  if t.isEmpty then [] else [(name, Json.ofSortedTexts t)]

def writtenMetadata : Json :=
  .obj (sortedTextsField "annotations" d.annotations ++ sortedTextsField "labels" d.labels ++
    [("name", .str d.name), ("namespace", .str d.ns)])

/-- Of the members of metadata, four are given at most. -/
theorem metadata_written : Object.metadata d.metadata = .ok d.writtenMetadata := by
  rw [metadata, textsField, textsField, writtenMetadata, sortedTextsField, sortedTextsField]
  cases d.labels.isEmpty <;> cases d.annotations.isEmpty <;>
    simp [Object.metadata, Member.object, Member.values, Member.optional, Member.orNull_text,
      Member.orNull_sortedTexts, bind, Except.bind, pure, Except.pure, Entries.put, Entries.get?]

theorem sortedTextsField_sorted (name : String) (t : Table String String) :
    Json.sortedFields (sortedTextsField name t) = Json.sortedFields (textsField name t) := by
  rw [sortedTextsField, textsField]
  split
  · rfl
  · simp only [Json.sortedFields, Json.ofSortedTexts_sorted]

/-- The metadata are written in another order, and otherwise as they are. -/
theorem writtenMetadata_sorted : d.writtenMetadata.sorted = d.metadata.sorted := by
  have distinct := (Json.normalize_obj_iff.mp (Json.builds_settled.metadata d)).1
  have values (last : List (String × Json)) : Json.sortedFields
      (sortedTextsField "annotations" d.annotations ++ sortedTextsField "labels" d.labels ++ last) =
      Json.sortedFields (textsField "annotations" d.annotations ++ textsField "labels" d.labels ++
        last) := by
    simp only [Json.sortedFields_append, sortedTextsField_sorted]
  have order (first second third : List (String × Json)) :
      (first ++ second ++ third).Perm (third ++ second ++ first) := by
    rw [List.append_assoc third]
    exact List.perm_append_comm.trans (List.perm_append_comm.append_left third)
  calc d.writtenMetadata.sorted
      = (Json.obj (textsField "annotations" d.annotations ++ textsField "labels" d.labels ++
          [("name", .str d.name), ("namespace", .str d.ns)])).sorted := by
        rw [writtenMetadata, Json.sorted, values, Json.sorted]
    _ = d.metadata.sorted := (Json.sorted_obj_of_perm distinct (order ..)).symm

end Descriptor

end Converge
