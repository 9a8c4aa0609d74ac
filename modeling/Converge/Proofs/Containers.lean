import Converge.Proofs.Built
import Converge.Proofs.Records

/-!
# What becomes of a container

The entries of a container are parted into those with a meaning and all others. Name and image
come first in the manifest, then the others as they stand, and then the variables and the ports,
each as a list and only if there are any. No other entry shadows one of these.
-/

namespace Converge

namespace Json

/-- The fields of an object; another value has none. -/
def fieldList : Json → List (String × Json)
  | .obj fields => fields
  | _ => []

/-- The items of an array; another value has none. -/
def itemList : Json → List Json
  | .arr items => items
  | _ => []

/-- The value of a field, null if there is none. -/
def given (name : String) (v : Json) : Json := (v.field? name).getD .null

end Json

/-- A field with a list, left out if the list is empty. -/
def listField (name : String) (items : List Json) : List (String × Json) :=
  if items.isEmpty then [] else [(name, .arr items)]

namespace Container

def meaningful : List String := ["name", "image", "env", "ports"]

def isExtra (key : String) : Bool := !meaningful.contains key

def rendered (v : Json) : Json :=
  .obj ([("name", v.given "name"), ("image", v.given "image")] ++
    v.fieldList.filter (fun e => isExtra e.1) ++
    listField "env" ((v.given "env").fieldList.map fun e =>
      .obj [("name", .str e.1), ("value", e.2)]) ++
    listField "ports" ((v.given "ports").itemList.map fun port => .obj [("containerPort", port)]))

def Complete (v : Json) : Prop :=
  ∃ name image, v.field? "name" = some (.str name) ∧ v.field? "image" = some (.str image) ∧
    name ≠ "" ∧ image ≠ ""

/-! ## Reading -/

theorem isExtra_iff {key : String} :
    isExtra key = true ↔ (slots.find? fun slot => slot.names.contains key) = none := by
  simp [isExtra, slots, meaningful, Content.Field.slot, nameField, imageField, envField, portsField]

/-- The entries are parted by their keys, and those with a meaning are read as any record's. -/
theorem part_ofFields (l : List (String × Json)) (seen : Content.Found.Fields)
    (others : List (Content × Content)) :
    part seen others (Content.ofFields l) =
      (Content.foundInMap slots seen (Content.ofFields l)).map fun found =>
        (found, others ++ Content.ofFields (l.filter fun e => isExtra e.1)) := by
  induction l generalizing seen others with
  | nil => simp [Content.ofFields, part, Content.foundInMap, Except.map]
  | cons e rest ih =>
    cases known : slots.find? fun slot => slot.names.contains e.1 with
    | none =>
      rw [Content.foundInMap_unknown known, List.filter_cons, if_pos (isExtra_iff.mpr known),
        Content.ofFields, part, known]
      exact (ih seen _).trans (by simp [Content.ofFields])
    | some slot =>
      have named : ¬isExtra e.1 = true := by rw [isExtra_iff, known]; exact Option.some_ne_none slot
      rw [List.filter_cons, if_neg named, Content.ofFields, part, Content.foundInMap,
        Content.identify, known]
      cases unseen : Entries.get? slot.name seen with
      | some c => simp [unseen, bind, Except.bind, Except.map, throw, throwThe, MonadExceptOf.throw]
      | none =>
        cases checked : slot.check (Content.ofJson e.2) with
        | error m => simp [unseen, checked, bind, Except.bind, Except.map]
        | ok _ => simp [unseen, checked, bind, Except.bind, ih]

structure ReadOf (c : Container) (l : List (String × Json)) : Prop where
  name : nameField.Reads l c.name
  image : imageField.Reads l c.image
  env : envField.Reads l c.env
  ports : portsField.Reads l c.ports
  extra : c.extra.entries = l.filter fun e => isExtra e.1

theorem slots_apart : Content.Apart slots := Content.apart_of_nodup (by decide)

theorem readOf_of_read {v : Json} (regular : v.Regular) {c : Container}
    (ok : read (Content.ofJson v) = .ok c) : ∃ l, v = .obj l ∧ c.ReadOf l := by
  cases v with
  | obj l =>
    rw [Content.ofJson, read, part_ofFields] at ok
    obtain ⟨⟨found, others⟩, parted, ok⟩ := bind_ok_iff.mp ok
    obtain ⟨name, nameRead, ok⟩ := bind_ok_iff.mp ok
    obtain ⟨image, imageRead, ok⟩ := bind_ok_iff.mp ok
    obtain ⟨env, envRead, ok⟩ := bind_ok_iff.mp ok
    obtain ⟨ports, portsRead, ok⟩ := bind_ok_iff.mp ok
    obtain ⟨extra, passed, same⟩ := bind_ok_iff.mp ok
    obtain ⟨_, read, parts⟩ := map_ok_iff.mp parted
    cases parts
    cases same
    have finds := Content.foundInMap_first slots_apart (by decide) read
    have kept : ∀ e ∈ l.filter fun e => isExtra e.1, e.2.Regular := fun e inside =>
      regular.field (List.mem_of_mem_filter inside)
    rw [List.nil_append, Content.toFields_ofFields kept] at passed
    cases passed
    refine ⟨l, rfl, ?_, ?_, ?_, ?_, ?_⟩
    · exact Content.Field.reads_of_value (finds nameField.slot (by simp [slots])) nameRead
    · exact Content.Field.reads_of_value (finds imageField.slot (by simp [slots])) imageRead
    · exact Content.Field.reads_of_value (finds envField.slot (by simp [slots])) envRead
    · exact Content.Field.reads_of_value (finds portsField.slot (by simp [slots])) portsRead
    · exact Entries.putAll_nil (regular.distinct.sublist ((List.filter_sublist).map _))
  | _ => cases ok

/-! ## Writing -/

/-- A list that is put at the end if it is not empty. -/
theorem entries_listField {t : Table String Json} {key : String} (fresh : key ∉ t.keys)
    {empty : Bool} {items : List Json} (same : items.isEmpty = empty) :
    (if empty then t else t.insert key (.arr items)).entries =
      t.entries ++ listField key items := by
  rw [listField, same]
  cases empty with
  | true => exact (List.append_nil _).symm
  | false => exact Entries.put_of_not_mem fresh

theorem keys_listField {name key : String} {items : List Json}
    (inside : key ∈ (listField name items).map Prod.fst) : key = name := by
  rw [listField] at inside
  split at inside
  · cases inside
  · exact List.mem_singleton.mp inside

def base (c : Container) : Table String Json :=
  (Table.ofList [("name", .str c.name), ("image", .str c.image)]).insertAll c.extra.entries

/-- The variables behind all that, if there are any. -/
def withEnv (c : Container) : Table String Json :=
  if c.env.isEmpty then c.base else c.base.insert "env" (.arr (envList c.env))

def NoShadow (c : Container) : Prop := ∀ key ∈ c.extra.keys, isExtra key = true

section Writing

variable {c : Container}

theorem NoShadow.not_mem (clear : c.NoShadow) {key : String} (means : isExtra key = false) :
    key ∉ c.extra.keys := fun inside => by
  rw [clear key inside] at means
  cases means

theorem entries_base (clear : c.NoShadow) :
    c.base.entries = [("name", .str c.name), ("image", .str c.image)] ++ c.extra.entries := by
  refine Entries.putAll_eq_append ?_
  have image : "image" ∉ c.extra.keys := clear.not_mem (by decide)
  have name : "name" ∉ "image" :: c.extra.keys :=
    List.not_mem_cons_of_ne_of_not_mem (by decide) (clear.not_mem (by decide))
  refine List.nodup_cons.mpr ⟨name, ?_⟩
  exact List.nodup_cons.mpr ⟨image, c.extra.distinct⟩

theorem not_mem_base (clear : c.NoShadow) {key : String} (name : key ≠ "name")
    (image : key ≠ "image") (means : isExtra key = false) : key ∉ c.base.keys := by
  rw [Table.keys, entries_base clear]
  exact List.not_mem_cons_of_ne_of_not_mem name
    (List.not_mem_cons_of_ne_of_not_mem image (clear.not_mem means))

theorem entries_withEnv (clear : c.NoShadow) :
    c.withEnv.entries = c.base.entries ++ listField "env" (envList c.env) :=
  entries_listField (not_mem_base clear (by decide) (by decide) (by decide)) List.isEmpty_map

/-- Nothing shadows anything if the extra fields have no meaning. -/
theorem toJson_eq (clear : c.NoShadow) :
    c.toJson = .obj ([("name", .str c.name), ("image", .str c.image)] ++ c.extra.entries ++
      listField "env" (envList c.env) ++ listField "ports" (containerPorts c.ports)) := by
  have fresh : "ports" ∉ c.withEnv.keys := by
    rw [Table.keys, entries_withEnv clear, List.map_append, List.mem_append, not_or]
    refine ⟨not_mem_base clear (by decide) (by decide) (by decide), ?_⟩
    exact fun inside => absurd (keys_listField inside) (by decide)
  have written : c.toJson =
      .obj (c.withEnv.entries ++ listField "ports" (containerPorts c.ports)) :=
    congrArg Json.obj (entries_listField fresh List.isEmpty_map)
  rw [written, entries_withEnv clear, entries_base clear]

end Writing

section Rendered

variable {l : List (String × Json)} {c : Container}

theorem ReadOf.complete_iff (read : c.ReadOf l) :
    Complete (.obj l) ↔ c.name ≠ "" ∧ c.image ≠ "" := by
  rw [Complete, read.name.field_text, read.image.field_text]
  simp

theorem ReadOf.given_env (read : c.ReadOf l) (regular : (Json.obj l).Regular) :
    ((Json.obj l).given "env").fieldList = c.env.entries.map fun e => (e.1, .str e.2) := by
  rw [Json.given]
  rcases read.env.given_or_missing rfl with ⟨v, found, texts⟩ | ⟨missing, absent⟩
  · rw [found, Content.texts_ofJson (regular.value found) texts]
    rfl
  · rw [missing, ← Option.some.inj absent]
    rfl

theorem ReadOf.given_ports (read : c.ReadOf l) :
    ((Json.obj l).given "ports").itemList = c.ports.map .int := by
  rw [Json.given]
  rcases read.ports.given_or_missing rfl with ⟨v, found, integers⟩ | ⟨missing, absent⟩
  · rw [found, Content.integers_ofJson integers]
    rfl
  · rw [missing, ← Option.some.inj absent]
    rfl

/-- A container that is read is written as it should stand in a manifest. -/
theorem ReadOf.rendered (read : c.ReadOf l) (regular : (Json.obj l).Regular) :
    Container.rendered (.obj l) = c.toJson := by
  have clear : c.NoShadow := by
    intro key inside
    obtain ⟨e, listed, rfl⟩ := List.mem_map.mp inside
    rw [read.extra] at listed
    exact (List.mem_filter.mp listed).2
  rw [toJson_eq clear, Container.rendered, read.given_env regular, read.given_ports, Json.given,
    read.name.field_text, Json.given, read.image.field_text, read.extra, List.map_map, List.map_map]
  rfl

end Rendered

end Container

end Converge
