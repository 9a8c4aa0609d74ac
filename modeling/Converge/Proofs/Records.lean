import Converge.Proofs.Build
import Converge.Proofs.Nesting
import Mathlib.Data.List.Nodup
import Mathlib.Data.List.Pairwise

/-!
# What is read of an object

What a record has for a field is read of the entry that stands under one of the field's names,
and is the field's own value where there is no such entry. Texts, integers, sequences and maps of
texts are read off a value of just that form, and values that are taken as they are come out as
they went in.
-/

namespace Converge

/-- What stands first under one of the names. -/
def Entries.first? {κ α : Type} [DecidableEq κ] (names : List κ) (l : List (κ × α)) : Option α :=
  (l.find? fun e => names.contains e.1).map Prod.snd

section First

variable {κ α : Type} [DecidableEq κ] {names : List κ}

theorem Entries.first?_cons_of_mem {e : κ × α} (named : e.1 ∈ names) (rest : List (κ × α)) :
    first? names (e :: rest) = some e.2 := by
  rw [first?, List.find?_cons_of_pos (by simpa using named)]
  rfl

theorem Entries.first?_cons_of_not_mem {e : κ × α} (other : e.1 ∉ names) (rest : List (κ × α)) :
    first? names (e :: rest) = first? names rest := by
  rw [first?, List.find?_cons_of_neg (by simpa using other)]
  rfl

theorem Entries.first?_singleton (k : κ) (l : List (κ × α)) : first? [k] l = get? k l := by
  induction l with
  | nil => rfl
  | cons e rest ih =>
    by_cases found : e.1 = k
    · rw [first?_cons_of_mem (by simp [found]), get?, if_pos found]
    · rw [first?_cons_of_not_mem (by simp [found]), get?, if_neg found, ih]

/-- What is erased is not missed under other names. -/
theorem Entries.first?_erase {k : κ} (other : k ∉ names) (l : List (κ × α)) :
    first? names (erase k l) = first? names l := by
  induction l with
  | nil => rfl
  | cons e rest ih =>
    by_cases found : e.1 = k
    · rw [erase, if_pos found, first?_cons_of_not_mem (found ▸ other)]
    · rw [erase, if_neg found]
      by_cases named : e.1 ∈ names
      · rw [first?_cons_of_mem named, first?_cons_of_mem named]
      · rw [first?_cons_of_not_mem named, first?_cons_of_not_mem named, ih]

end First

theorem forall_iff_of_forall₂ {α β : Type} {R : α → β → Prop} {P : α → Prop} {Q : β → Prop}
    {l : List α} {k : List β} (related : List.Forall₂ R l k) (same : ∀ a b, R a b → (P a ↔ Q b)) :
    (∀ a ∈ l, P a) ↔ ∀ b ∈ k, Q b := by
  induction related with
  | nil => simp
  | cons first _ ih => rw [List.forall_mem_cons, List.forall_mem_cons, same _ _ first, ih]

namespace Content

/-! ## Fields -/

def Apart (slots : List Slot) : Prop :=
  ∀ a ∈ slots, ∀ b ∈ slots, ∀ name ∈ a.names, name ∈ b.names → a = b

theorem apart_of_nodup {slots : List Slot} (distinct : (slots.flatMap Slot.names).Nodup) :
    Apart slots := by
  intro a listed b listed' name named named'
  obtain ⟨-, apart⟩ := List.nodup_flatMap.mp distinct
  have symmetric : Std.Symm (Function.onFun List.Disjoint Slot.names) :=
    ⟨fun _ _ disjoint => List.disjoint_symm disjoint⟩
  by_cases same : a = b
  · exact same
  · exact absurd named' (apart.forall listed listed' same named)

/-- A slot goes by its own name. -/
def Slot.Named (slot : Slot) : Prop := slot.name ∈ slot.names

instance (slot : Slot) : Decidable slot.Named :=
  inferInstanceAs (Decidable (slot.name ∈ slot.names))

section Found

variable {slots : List Slot} {seen found : Found.Fields} {e : String × Json}
  {rest : List (String × Json)}

theorem foundInMap_unknown (unknown : (slots.find? fun slot => slot.names.contains e.1) = none) :
    foundInMap slots seen (ofFields (e :: rest)) = foundInMap slots seen (ofFields rest) := by
  rw [ofFields, foundInMap, identify, unknown]
  rfl

/-- A field is read if it was not seen before and its value passes the check. -/
theorem foundInMap_known {slot : Slot}
    (known : (slots.find? fun slot => slot.names.contains e.1) = some slot) :
    foundInMap slots seen (ofFields (e :: rest)) = .ok found ↔
      Entries.get? slot.name seen = none ∧ slot.check (ofJson e.2) = .ok () ∧
        foundInMap slots (seen ++ [(slot.name, ofJson e.2)]) (ofFields rest) = .ok found := by
  rw [ofFields, foundInMap, identify, known]
  cases unseen : Entries.get? slot.name seen with
  | some c => simp [unseen, bind, Except.bind, throw, throwThe, MonadExceptOf.throw]
  | none =>
    cases checked : slot.check (ofJson e.2) with
    | error m => simp [unseen, checked, bind, Except.bind]
    | ok _ => simp [unseen, checked, bind, Except.bind]

/-- For each slot the entry is found that stands under one of its names. -/
theorem foundInMap_first (apart : Apart slots) (named : ∀ slot ∈ slots, slot.Named)
    {l : List (String × Json)} (ok : foundInMap slots seen (ofFields l) = .ok found) :
    ∀ slot ∈ slots, Entries.get? slot.name found =
      (Entries.get? slot.name seen).or ((Entries.first? slot.names l).map ofJson) := by
  induction l generalizing seen with
  | nil =>
    intro slot _
    cases ok
    exact (Option.or_none).symm
  | cons e rest ih =>
    intro slot listed
    cases known : slots.find? fun slot => slot.names.contains e.1 with
    | none =>
      rw [foundInMap_unknown known] at ok
      have other : e.1 ∉ slot.names := by
        simpa using List.find?_eq_none.mp known slot listed
      rw [ih ok slot listed, Entries.first?_cons_of_not_mem other]
    | some own =>
      obtain ⟨unseen, -, ok⟩ := (foundInMap_known known).mp ok
      have there := List.mem_of_find?_eq_some known
      have mine : e.1 ∈ own.names := by simpa using List.find?_some known
      rw [ih ok slot listed, Entries.get?_append]
      by_cases same : slot = own
      · subst same
        rw [Entries.first?_cons_of_mem mine, unseen]
        simp [Entries.get?]
      · have other : e.1 ∉ slot.names := fun his => same (apart slot listed own there e.1 his mine)
        have different : ¬own.name = slot.name := fun alike =>
          same (apart slot listed own there _ (named slot listed) (alike ▸ named own there))
        rw [Entries.first?_cons_of_not_mem other]
        simp [Entries.get?, different]

end Found

/-- What a record has for the field, if the record is read of an object with these entries. -/
def Field.Reads {α : Type} (f : Field α) (l : List (String × Json)) (a : α) : Prop :=
  match Entries.first? f.names l with
  | some v => f.read (ofJson v) = .ok a
  | none => f.absent = some a

theorem Field.reads_of_value {α : Type} {f : Field α} {l : List (String × Json)} {a : α}
    {found : Found.Fields}
    (same : Entries.get? f.name found = (Entries.first? f.names l).map ofJson)
    (ok : f.value found = .ok a) : f.Reads l a := by
  rw [value, same] at ok
  rw [Reads]
  cases first : Entries.first? f.names l with
  | some v =>
    rw [first] at ok
    exact ok
  | none =>
    rw [first] at ok
    cases absent : f.absent with
    | none => rw [absent] at ok; cases ok
    | some b => rw [absent] at ok; cases ok; rfl

/-- A key that names another field makes no difference. -/
theorem Field.Reads.of_erase {α : Type} {f : Field α} {l : List (String × Json)} {a : α}
    {key : String} (reads : f.Reads (Entries.erase key l) a) (other : key ∉ f.names) :
    f.Reads l a := by
  rwa [Reads, Entries.first?_erase other] at reads

/-- The field is given, or has its own value. -/
theorem Field.Reads.given_or_absent {α : Type} {f : Field α} {l : List (String × Json)} {a : α}
    (reads : f.Reads l a) :
    (∃ v, Entries.first? f.names l = some v ∧ f.read (ofJson v) = .ok a) ∨
      Entries.first? f.names l = none ∧ f.absent = some a := by
  rw [Reads] at reads
  cases first : Entries.first? f.names l with
  | some v => exact Or.inl ⟨v, rfl, by rwa [first] at reads⟩
  | none => exact Or.inr ⟨rfl, by rwa [first] at reads⟩

/-- A field of one name is given under that name, or has its own value. -/
theorem Field.Reads.given_or_missing {α : Type} {f : Field α} {l : List (String × Json)} {a : α}
    {key : String} (reads : f.Reads l a) (single : f.names = [key]) :
    (∃ v, (Json.obj l).field? key = some v ∧ f.read (ofJson v) = .ok a) ∨
      (Json.obj l).field? key = none ∧ f.absent = some a := by
  have same : Entries.first? f.names l = (Json.obj l).field? key := by
    rw [single, Entries.first?_singleton, Json.field?]
  rw [← same]
  exact reads.given_or_absent

/-! ## Values -/

variable {v : Json}

theorem text_ofJson {s : String} (ok : text (ofJson v) = .ok s) : v = .str s := by
  cases v <;> cases ok
  rfl

/-- A text that has to be given is found under its key. -/
theorem Field.Reads.field_text {key s : String} {l : List (String × Json)}
    (reads : (⟨[key], text, none⟩ : Field String).Reads l s) :
    (Json.obj l).field? key = some (.str s) := by
  rcases reads.given_or_missing rfl with ⟨v, found, given⟩ | ⟨-, absent⟩
  · rw [found, text_ofJson given]
  · cases absent

theorem int32_ofJson {n : Int} (ok : int32 (ofJson v) = .ok n) : v = .int n := by
  cases v with
  | int k =>
    rw [ofJson, int32] at ok
    split at ok <;> cases ok
    rfl
  | _ => cases ok

theorem ofItems_eq_map (items : List Json) : ofItems items = items.map ofJson := by
  induction items with
  | nil => rfl
  | cons v rest ih => rw [ofItems, ih, List.map_cons]

theorem ofFields_eq_map (l : List (String × Json)) :
    ofFields l = l.map fun e => (.str e.1, ofJson e.2) := by
  induction l with
  | nil => rfl
  | cons e rest ih => rw [ofFields, ih, List.map_cons]

theorem sequence_ofJson {α : Type} {read : Content → Except Mismatch α} {l : List α}
    (ok : sequence read (ofJson v) = .ok l) :
    ∃ items, v = .arr items ∧ List.Forall₂ (fun v a => read (ofJson v) = .ok a) items l := by
  cases v with
  | arr items =>
    rw [ofJson, sequence, ofItems_eq_map, mapM_ok_iff, List.forall₂_map_left_iff] at ok
    exact ⟨items, rfl, ok⟩
  | _ => cases ok

theorem integers_ofJson {l : List Int} (ok : sequence int32 (ofJson v) = .ok l) :
    v = .arr (l.map .int) := by
  obtain ⟨items, rfl, each⟩ := sequence_ofJson ok
  have same : items = l.map .int := by
    rw [← List.forall₂_eq_eq_eq, List.forall₂_map_right_iff]
    exact each.imp fun _ _ reads => int32_ofJson reads
  rw [same]

theorem optional_ofJson {α : Type} {read : Content → Except Mismatch α} {o : Option α}
    (ok : optional read (ofJson v) = .ok o) :
    v = .null ∧ o = none ∨ ∃ a, o = some a ∧ read (ofJson v) = .ok a := by
  cases v with
  | null =>
    cases ok
    exact Or.inl ⟨rfl, rfl⟩
  | _ =>
    obtain ⟨a, reads, same⟩ := bind_ok_iff.mp ok
    cases same
    exact Or.inr ⟨a, rfl, reads⟩

end Content

/-! ## Values that are taken as they are -/

namespace Json

/-- No key is given twice and all numbers are finite, as in every value that a text tells. -/
structure Regular (v : Json) : Prop where
  settled : v.normalize = v
  finite : v.finite = true

theorem normalizeItems_eq_map (items : List Json) :
    normalizeItems items = items.map normalize := by
  induction items with
  | nil => rfl
  | cons v rest ih => rw [normalizeItems, ih, List.map_cons]

variable {fields : List (String × Json)} {items : List Json}

theorem Regular.distinct (regular : (Json.obj fields).Regular) : (fields.map Prod.fst).Nodup :=
  (normalize_obj_iff.mp regular.settled).1

theorem Regular.field (regular : (Json.obj fields).Regular) {e : String × Json}
    (inside : e ∈ fields) : e.2.Regular :=
  ⟨(normalize_obj_iff.mp regular.settled).2 e inside,
    everywhereFields_iff.mp regular.finite e inside⟩

theorem Regular.first (regular : (Json.obj fields).Regular) {names : List String} {v : Json}
    (found : Entries.first? names fields = some v) : v.Regular := by
  obtain ⟨e, listed, rfl⟩ := Option.map_eq_some_iff.mp found
  exact regular.field (List.mem_of_find?_eq_some listed)

theorem Regular.value (regular : (Json.obj fields).Regular) {key : String} {v : Json}
    (found : (Json.obj fields).field? key = some v) : v.Regular := by
  rw [field?, ← Entries.first?_singleton] at found
  exact regular.first found

theorem Regular.item (regular : (Json.arr items).Regular) {v : Json} (inside : v ∈ items) :
    v.Regular := by
  have settled := regular.settled
  rw [normalize, normalizeItems_eq_map, Json.arr.injEq] at settled
  refine ⟨?_, everywhereItems_iff.mp regular.finite v inside⟩
  exact List.map_inj_left.mp (settled.trans (List.map_id items).symm) v inside

end Json

namespace Content

open Json (Regular)

mutual
theorem toJson_ofJson : ∀ {v : Json}, v.Regular → toJson (ofJson v) = .ok v
  | .null, _ | .bool _, _ | .int _, _ | .str _, _ => rfl
  | .float x, regular => by
    have finite : x.isFinite = true := regular.finite
    rw [ofJson, toJson, finite]
    rfl
  | .arr items, regular => by
    rw [ofJson, toJson, toItems_ofItems fun v inside => regular.item inside]
    rfl
  | .obj [], _ => rfl
  | .obj ((name, v) :: rest), regular => by
    obtain ⟨first, others⟩ := List.forall_mem_cons.mp fun e inside => regular.field inside
    rw [ofJson, ofFields, toJson, keyText, toJson_ofJson first, toFields_ofFields others]
    exact congrArg (fun l => Except.ok (Json.obj l)) (Entries.putAll_nil regular.distinct)

theorem toItems_ofItems : ∀ {items : List Json}, (∀ v ∈ items, v.Regular) →
    toItems (ofItems items) = .ok items
  | [], _ => rfl
  | v :: rest, each => by
    obtain ⟨first, others⟩ := List.forall_mem_cons.mp each
    rw [ofItems, toItems, toJson_ofJson first, toItems_ofItems others]
    rfl

theorem toFields_ofFields : ∀ {fields : List (String × Json)}, (∀ e ∈ fields, e.2.Regular) →
    toFields (ofFields fields) = .ok fields
  | [], _ => rfl
  | (name, v) :: rest, each => by
    obtain ⟨first, others⟩ := List.forall_mem_cons.mp each
    rw [ofFields, toFields, keyText, toJson_ofJson first, toFields_ofFields others]
    rfl
end

variable {v : Json}

theorem values_ofJson (regular : v.Regular) {l : List Json}
    (ok : sequence toJson (ofJson v) = .ok l) : v = .arr l := by
  obtain ⟨items, rfl, -⟩ := sequence_ofJson ok
  have read : sequence toJson (ofJson (.arr items)) = .ok items := by
    rw [ofJson, sequence, ofItems_eq_map, mapM_ok_iff, List.forall₂_map_left_iff]
    exact List.forall₂_same.mpr fun v inside => toJson_ofJson (regular.item inside)
  rw [Except.ok.inj (read.symm.trans ok)]

theorem texts_ofJson (regular : v.Regular) {t : Table String String}
    (ok : texts (ofJson v) = .ok t) : v = Json.ofTexts t := by
  cases v with
  | obj fields =>
    rw [ofJson, texts, ofFields_eq_map] at ok
    obtain ⟨pairs, each, same⟩ := bind_ok_iff.mp ok
    rw [mapM_ok_iff, List.forall₂_map_left_iff] at each
    have entries : fields = pairs.map fun p => (p.1, .str p.2) := by
      rw [← List.forall₂_eq_eq_eq, List.forall₂_map_right_iff]
      refine each.imp fun e p reads => ?_
      obtain ⟨key, name, reads⟩ := bind_ok_iff.mp reads
      obtain ⟨value, text, reads⟩ := bind_ok_iff.mp reads
      cases name
      cases reads
      exact Prod.ext rfl (text_ofJson text)
    have distinct : (pairs.map Prod.fst).Nodup := by
      have distinct := regular.distinct
      rw [entries, List.map_map] at distinct
      exact distinct
    cases same
    have kept : (Table.ofList pairs).entries = pairs := Entries.putAll_nil distinct
    rw [entries]
    exact congrArg (fun l => Json.obj (l.map fun p => (p.1, .str p.2))) kept.symm
  | _ => cases ok

end Content

end Converge
