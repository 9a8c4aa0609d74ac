import Converge.Cluster.Http
import Converge.Json.Equality
import Converge.Proofs.Manifest

/-!
# Objects in the way of the interface

An object that gives version, kind and metadata once each is written with these first and
its other fields as they are. A namespace that is such an object can be read.
-/

namespace Converge

theorem exists_ok {ε α : Type} {x : Except ε α} (ok : x.isOk = true) : ∃ a, x = .ok a := by
  cases x with
  | error e => cases ok
  | ok a => exact ⟨a, rfl⟩

namespace Entries

variable {κ α : Type} [DecidableEq κ]

theorem get?_append (k : κ) (first second : List (κ × α)) :
    get? k (first ++ second) = (get? k first).or (get? k second) := by
  induction first with
  | nil => rfl
  | cons e rest ih =>
    by_cases found : e.1 = k
    · simp [get?, found]
    · simp [get?, found, ih]

/-- A filter by keys keeps what is under a key that it keeps. -/
theorem get?_filter (kept : κ → Bool) {k : κ} (keeps : kept k = true) (l : List (κ × α)) :
    get? k (l.filter fun e => kept e.1) = get? k l := by
  induction l with
  | nil => rfl
  | cons e rest ih =>
    by_cases found : e.1 = k
    · simp [get?, found, keeps]
    · cases keep : kept e.1 <;> simp [get?, found, keep, ih]

theorem get?_map {β : Type} (f : α → β) (k : κ) (l : List (κ × α)) :
    get? k (l.map fun e => (e.1, f e.2)) = (get? k l).map f := by
  induction l with
  | nil => rfl
  | cons e rest ih => by_cases found : e.1 = k <;> simp [get?, found, ih]

theorem get?_eq_some_iff {l : List (κ × α)} (distinct : (l.map Prod.fst).Nodup) {k : κ} {v : α} :
    get? k l = some v ↔ (k, v) ∈ l := by
  induction l with
  | nil => simp [get?]
  | cons e rest ih =>
    obtain ⟨key, w⟩ := e
    rw [List.map_cons, List.nodup_cons] at distinct
    by_cases found : key = k
    · subst found
      have fresh : (key, v) ∉ rest := fun inside =>
        distinct.1 (List.mem_map.mpr ⟨_, inside, rfl⟩)
      simp [get?, fresh, eq_comm]
    · have other : ¬ k = key := fun same => found same.symm
      simp [get?, found, other, ih distinct.2]

/-- The order does not matter for what is under a key if keys are distinct. -/
theorem get?_of_perm {l k : List (κ × α)} (distinct : (l.map Prod.fst).Nodup) (perm : l.Perm k)
    (key : κ) : get? key l = get? key k := by
  have distinct' : (k.map Prod.fst).Nodup := ((perm.map Prod.fst).nodup_iff).mp distinct
  refine Option.ext fun v => ?_
  rw [get?_eq_some_iff distinct, get?_eq_some_iff distinct', perm.mem_iff]

theorem mem_put {e : κ × α} {k : κ} {v : α} {l : List (κ × α)} (inside : e ∈ put k v l) :
    e = (k, v) ∨ e ∈ l := by
  induction l with
  | nil => exact Or.inl (List.mem_singleton.mp inside)
  | cons first rest ih =>
    by_cases here : first.1 = k
    · rw [put, if_pos here] at inside
      exact (List.mem_cons.mp inside).imp id (List.mem_cons_of_mem first)
    · rw [put, if_neg here] at inside
      rcases List.mem_cons.mp inside with rfl | later
      · exact Or.inr List.mem_cons_self
      · exact (ih later).imp id (List.mem_cons_of_mem first)

theorem mem_putAll {e : κ × α} {old new : List (κ × α)} (inside : e ∈ putAll old new) :
    e ∈ old ∨ e ∈ new := by
  induction new generalizing old with
  | nil => exact Or.inl inside
  | cons first rest ih =>
    have inside : e ∈ putAll (put first.1 first.2 old) rest := inside
    rcases ih inside with before | later
    · rcases mem_put before with rfl | before
      · exact Or.inr List.mem_cons_self
      · exact Or.inl before
    · exact Or.inr (List.mem_cons_of_mem first later)

omit [DecidableEq κ] in
/-- Where keys are distinct, the key of an entry is not among those before it. -/
theorem fresh_of_nodup {old new : List (κ × α)} {e : κ × α}
    (distinct : ((old ++ e :: new).map Prod.fst).Nodup) : e.1 ∉ old.map Prod.fst := by
  rw [List.map_append, List.map_cons] at distinct
  intro inside
  exact (List.nodup_append.mp distinct).2.2 _ inside _ List.mem_cons_self rfl

/-- Entries with keys of their own are written behind the old ones. -/
theorem putAll_eq_append {old new : List (κ × α)}
    (distinct : ((old ++ new).map Prod.fst).Nodup) : putAll old new = old ++ new := by
  induction new generalizing old with
  | nil => exact (List.append_nil old).symm
  | cons e rest ih =>
    have same : put e.1 e.2 old = old ++ [e] := put_of_not_mem (fresh_of_nodup distinct)
    have moved : old ++ [e] ++ rest = old ++ e :: rest := List.append_assoc old [e] rest
    calc putAll old (e :: rest) = putAll (put e.1 e.2 old) rest := rfl
      _ = putAll (old ++ [e]) rest := by rw [same]
      _ = old ++ e :: rest := by rw [ih (by rwa [moved]), moved]

theorem putAll_nil {l : List (κ × α)} (distinct : (l.map Prod.fst).Nodup) : putAll [] l = l :=
  putAll_eq_append distinct

end Entries

namespace Json

theorem normalizeFields_eq_map (fields : List (String × Json)) :
    normalizeFields fields = fields.map fun e => (e.1, e.2.normalize) := by
  induction fields with
  | nil => rfl
  | cons e rest ih => rw [normalizeFields, ih, List.map_cons]

theorem normalizeFields_keys (fields : List (String × Json)) :
    (normalizeFields fields).map Prod.fst = fields.map Prod.fst := by
  rw [normalizeFields_eq_map, List.map_map]
  rfl

/-- In an object in which no field is given twice, keys are distinct and values are such
objects too. -/
theorem normalize_obj_iff {fields : List (String × Json)} :
    (Json.obj fields).normalize = .obj fields ↔
      (fields.map Prod.fst).Nodup ∧ ∀ e ∈ fields, e.2.normalize = e.2 := by
  have same_values : normalizeFields fields = fields ↔ ∀ e ∈ fields, e.2.normalize = e.2 := by
    rw [normalizeFields_eq_map]
    conv => lhs; rhs; rw [← List.map_id fields]
    rw [List.map_inj_left]
    simp [Prod.ext_iff]
  rw [normalize, Json.obj.injEq, ← same_values]
  constructor
  · intro settled
    have distinct : (fields.map Prod.fst).Nodup := by
      rw [← settled]
      exact Entries.nodup_putAll List.nodup_nil
    refine ⟨distinct, ?_⟩
    rwa [Entries.putAll_nil (by rwa [normalizeFields_keys])] at settled
  · rintro ⟨distinct, values⟩
    rw [values, Entries.putAll_nil distinct]

end Json

namespace Object

/-- An object of a version and a kind: no field is given twice, and version, kind and
metadata are what they should be. -/
structure WellFormed (version kind : String) (o : Json) : Prop where
  settled : o.normalize = o
  version : o.field? "apiVersion" = some (.str version)
  kind : o.field? "kind" = some (.str kind)
  metadata : ∃ given ∈ o.field? "metadata", (metadata given).isOk = true

instance (version kind : String) (o : Json) : Decidable (WellFormed version kind o) :=
  decidable_of_iff
    (o.normalize = o ∧ o.field? "apiVersion" = some (.str version) ∧
      o.field? "kind" = some (.str kind) ∧
      ∃ given ∈ o.field? "metadata", (metadata given).isOk = true)
    ⟨fun h => ⟨h.1, h.2.1, h.2.2.1, h.2.2.2⟩, fun h => ⟨h.settled, h.version, h.kind, h.metadata⟩⟩

section Take

variable {fields : List (String × Json)}

theorem takeMetadata_of_not_mem (missing : "metadata" ∉ fields.map Prod.fst) (found : Option Json)
    (others : List (String × Json)) :
    takeMetadata found others fields = .ok (found, others ++ fields) := by
  induction fields generalizing others with
  | nil => rw [takeMetadata, List.append_nil]
  | cons e rest ih =>
    rw [List.map_cons, List.mem_cons, not_or] at missing
    rw [takeMetadata, if_neg fun same => missing.1 same.symm, ih missing.2, List.append_assoc]
    rfl

/-- Metadata that are given once and can be read are taken. -/
theorem takeMetadata_eq (distinct : (fields.map Prod.fst).Nodup) {given read : Json}
    (found : Entries.get? "metadata" fields = some given) (reads : metadata given = .ok read)
    (others : List (String × Json)) :
    takeMetadata none others fields =
      .ok (some read, others ++ fields.filter fun e => e.1 != "metadata") := by
  induction fields generalizing others with
  | nil => cases found
  | cons e rest ih =>
    obtain ⟨name, v⟩ := e
    rw [List.map_cons, List.nodup_cons] at distinct
    by_cases here : name = "metadata"
    · subst here
      rw [Entries.get?, if_pos rfl, Option.some.injEq] at found
      subst found
      have rest_kept : rest.filter (fun e => e.1 != "metadata") = rest := by
        rw [List.filter_eq_self]
        intro e inside
        rw [bne_iff_ne]
        exact fun same => distinct.1 (List.mem_map.mpr ⟨e, inside, same⟩)
      have taken := takeMetadata_of_not_mem distinct.1 (some read) others
      simp [takeMetadata, reads, bind, Except.bind, taken, rest_kept]
    · rw [Entries.get?, if_neg here] at found
      simp [takeMetadata, here, ih distinct.2 found]

/-- Version and kind that are given once each and are texts are taken. -/
theorem takeTypes_eq (distinct : (fields.map Prod.fst).Nodup) {t : Types}
    (version : ∀ v, ("apiVersion", v) ∈ fields → t.version = none ∧ ∃ s, v = .str s)
    (kind : ∀ v, ("kind", v) ∈ fields → t.kind = none ∧ ∃ s, v = .str s) :
    takeTypes t fields =
      ⟨t.version.or ((Entries.get? "apiVersion" fields).bind Json.asString?),
        t.kind.or ((Entries.get? "kind" fields).bind Json.asString?),
        t.others ++ fields.filter fun e => e.1 != "apiVersion" && e.1 != "kind"⟩ := by
  induction fields generalizing t with
  | nil => simp [takeTypes, Entries.get?]
  | cons e rest ih =>
    obtain ⟨name, v⟩ := e
    rw [List.map_cons, List.nodup_cons] at distinct
    have versions : ∀ v, ("apiVersion", v) ∈ rest → t.version = none ∧ ∃ s, v = .str s :=
      fun v inside => version v (List.mem_cons_of_mem _ inside)
    have kinds : ∀ v, ("kind", v) ∈ rest → t.kind = none ∧ ∃ s, v = .str s :=
      fun v inside => kind v (List.mem_cons_of_mem _ inside)
    -- a key that was taken does not come again, so taking is never stopped
    have fresh {key : String} (same : name = key) (v : Json) : (key, v) ∉ rest :=
      fun inside => distinct.1 (List.mem_map.mpr ⟨_, inside, same.symm⟩)
    by_cases isVersion : name = "apiVersion"
    · subst isVersion
      obtain ⟨none, s, rfl⟩ := version v List.mem_cons_self
      have later := ih (t := { t with version := some s }) distinct.2
        (fun v inside => absurd inside (fresh rfl v)) kinds
      simp [takeTypes, none, later, Entries.get?, Json.asString?]
    · by_cases isKind : name = "kind"
      · subst isKind
        obtain ⟨none, s, rfl⟩ := kind v List.mem_cons_self
        have later := ih (t := { t with kind := some s }) distinct.2 versions
          (fun v inside => absurd inside (fresh rfl v))
        simp [takeTypes, none, later, Entries.get?, Json.asString?]
      · have later := ih (t := { t with others := t.others ++ [(name, v)] }) distinct.2
          versions kinds
        simp [takeTypes, isVersion, isKind, later, Entries.get?]

end Take

def rest (fields : List (String × Json)) : List (String × Json) :=
  fields.filter fun e => !Descriptor.headFields.contains e.1

namespace WellFormed

variable {version kind : String} {fields : List (String × Json)}

theorem distinct (formed : WellFormed version kind (.obj fields)) :
    (fields.map Prod.fst).Nodup :=
  (Json.normalize_obj_iff.mp formed.settled).1

theorem rest_distinct (formed : WellFormed version kind (.obj fields)) :
    ((rest fields).map Prod.fst).Nodup :=
  (List.filter_sublist.map Prod.fst).nodup formed.distinct

theorem rest_settled (formed : WellFormed version kind (.obj fields)) :
    (Json.obj (rest fields)).normalize = .obj (rest fields) := by
  have values := (Json.normalize_obj_iff.mp formed.settled).2
  exact Json.normalize_obj_iff.mpr
    ⟨formed.rest_distinct, fun e inside => values e (List.filter_sublist.subset inside)⟩

theorem takeTypes (formed : WellFormed version kind (.obj fields)) :
    takeTypes ⟨none, none, []⟩ (fields.filter fun e => e.1 != "metadata") =
      ⟨some version, some kind, rest fields⟩ := by
  have distinct : ((fields.filter fun e => e.1 != "metadata").map Prod.fst).Nodup :=
    (List.filter_sublist.map Prod.fst).nodup formed.distinct
  have there {key s : String} (kept : (key != "metadata") = true)
      (found : Entries.get? key fields = some (.str s)) :
      Entries.get? key (fields.filter fun e => e.1 != "metadata") = some (.str s) :=
    (Entries.get?_filter (fun key => key != "metadata") kept fields).trans found
  have versionThere := there (by decide) formed.version
  have kindThere := there (by decide) formed.kind
  rw [takeTypes_eq distinct, versionThere, kindThere, List.filter_filter]
  · refine congrArg (Types.mk (some version) (some kind)) (List.filter_congr fun e _ => ?_)
    rw [Bool.eq_iff_iff]
    simp [Descriptor.headFields, and_assoc]
  · intro v inside
    rw [← Entries.get?_eq_some_iff distinct, versionThere] at inside
    exact ⟨rfl, version, (Option.some.inj inside).symm⟩
  · intro v inside
    rw [← Entries.get?_eq_some_iff distinct, kindThere] at inside
    exact ⟨rfl, kind, (Option.some.inj inside).symm⟩

/-- Version, kind and metadata come first, and the other fields as they are. -/
theorem convert (formed : WellFormed version kind (.obj fields)) {given read : Json}
    (found : Entries.get? "metadata" fields = some given) (reads : Object.metadata given = .ok read) :
    convert (.obj fields) = .ok (.obj
      ([("apiVersion", .str version), ("kind", .str kind), ("metadata", read)] ++
        rest fields)) := by
  have taken := takeMetadata_eq formed.distinct found reads []
  have head : ∀ key ∈ Descriptor.headFields, ∀ v, (key, v) ∉ rest fields := by
    intro key named v inside
    simp [rest, named] at inside
  have whole : (([("apiVersion", Json.str version), ("kind", .str kind), ("metadata", read)] ++
      rest fields).map Prod.fst).Nodup := by
    simpa [formed.rest_distinct, Descriptor.headFields] using head
  simp only [Object.convert, taken, bind, Except.bind, List.nil_append, formed.takeTypes,
    formed.rest_settled, Types.fields, Option.getD_some]
  exact congrArg (fun l => Except.ok (Json.obj l)) (Entries.putAll_nil whole)

/-- An object can be shown, and shows the status that it has. -/
theorem shown {o : Json} (formed : WellFormed version kind o) :
    ∃ w, Object.convert o = .ok w ∧ w.field? "status" = o.field? "status" := by
  cases o with
  | obj fields =>
    obtain ⟨given, found, readable⟩ := formed.metadata
    obtain ⟨read, reads⟩ := exists_ok readable
    refine ⟨_, formed.convert found reads, ?_⟩
    exact Entries.get?_filter (fun key => !Descriptor.headFields.contains key) (by decide) fields
  | _ => cases formed.kind

end WellFormed

/-- An object of which the metadata can be read can be shown. -/
theorem convert_ok {fields : List (String × Json)} (distinct : (fields.map Prod.fst).Nodup)
    {given read : Json} (found : Entries.get? "metadata" fields = some given)
    (reads : metadata given = .ok read) : ∃ w, convert (.obj fields) = .ok w := by
  simp only [convert, takeMetadata_eq distinct found reads [], bind, Except.bind]
  exact ⟨_, rfl⟩

end Object

/-- A typed object can be read if all its members can. -/
theorem Member.object_ok {type : String} {members : List Member} {fields : List (String × Json)}
    (reads : ∀ name v, (name, v) ∈ fields → ∀ m ∈ members, m.name = name →
      ∃ x, m.read v = .ok x) : ∃ w, Member.object type members (.obj fields) = .ok w := by
  have taken (given : List (String × Option Json)) :
      ∃ taken, values members given fields = .ok taken := by
    induction fields generalizing given with
    | nil => exact ⟨given, rfl⟩
    | cons e rest ih =>
      have later := fun name v inside => reads name v (List.mem_cons_of_mem e inside)
      rw [values]
      cases found : members.find? (fun m => m.name = e.1) with
      | none => exact ih later given
      | some m =>
        have named : m.name = e.1 := by simpa using List.find?_some found
        obtain ⟨x, read⟩ := reads _ _ List.mem_cons_self m (List.mem_of_find?_eq_some found) named
        simp only [read, bind, Except.bind]
        exact ih later _
  obtain ⟨given, taken⟩ := taken []
  simp only [object, taken, bind, Except.bind]
  exact ⟨_, rfl⟩

/-- A reader of a value reads a member that may be null. -/
theorem Member.orNull_ok {read : Json → Except Mismatch Json} {v w : Json}
    (reads : read v = .ok w) : ∃ x, Member.orNull read v = .ok x := by
  cases v with
  | null => exact ⟨none, rfl⟩
  | _ => exact ⟨some w, by simp only [orNull, reads, Except.map]⟩

namespace Object

/-- A namespace of which also the further members can be read. -/
structure WellFormedNamespace (o : Json) : Prop extends WellFormed "v1" "Namespace" o where
  spec : ∀ v ∈ o.field? "spec", (Member.orNull namespaceSpec v).isOk = true
  status : ∀ v ∈ o.field? "status", (Member.orNull namespaceStatus v).isOk = true

instance (o : Json) : Decidable (WellFormedNamespace o) :=
  decidable_of_iff
    (WellFormed "v1" "Namespace" o ∧
      (∀ v ∈ o.field? "spec", (Member.orNull namespaceSpec v).isOk = true) ∧
      ∀ v ∈ o.field? "status", (Member.orNull namespaceStatus v).isOk = true)
    ⟨fun h => ⟨h.1, h.2.1, h.2.2⟩, fun h => ⟨h.toWellFormed, h.spec, h.status⟩⟩

theorem WellFormedNamespace.read {o : Json} (formed : WellFormedNamespace o) :
    ∃ w, readNamespace o = .ok w := by
  cases o with
  | obj fields =>
    refine Member.object_ok fun name v inside m listed named => ?_
    have found := (Entries.get?_eq_some_iff formed.distinct).mpr inside
    rw [← named] at found
    rcases (by simpa using listed) with rfl | rfl | rfl | rfl | rfl
    · rw [Option.some.inj (found.symm.trans formed.version)]
      exact ⟨_, rfl⟩
    · rw [Option.some.inj (found.symm.trans formed.kind)]
      exact ⟨_, rfl⟩
    · obtain ⟨given, there, readable⟩ := formed.metadata
      obtain ⟨read, reads⟩ := exists_ok readable
      rw [Option.some.inj (found.symm.trans there)]
      exact Member.orNull_ok reads
    · exact exists_ok (formed.spec _ found)
    · exact exists_ok (formed.status _ found)
  | _ => cases formed.kind

end Object

end Converge
