import Converge.Json.Printer
import Converge.Proofs.Records

/-!
# The order of fields

A resource that is given as an object is read in the order of its fields, up to the first that is
bad. Whether it can be read at all does not depend on that order, nor does what is read, and so
the manifest is the same: an object can be read if the fields that mean something are of distinct
slots and pass their checks, and what is found is then looked up by the name of the slot.
-/

namespace Converge

namespace Entries

variable {κ α : Type} [DecidableEq κ]

theorem erase_eq_filter {l : List (κ × α)} (distinct : (l.map Prod.fst).Nodup) (k : κ) :
    erase k l = l.filter fun e => e.1 ≠ k := by
  induction l with
  | nil => rfl
  | cons e rest ih =>
    rw [List.map_cons, List.nodup_cons] at distinct
    obtain ⟨fresh, others⟩ := distinct
    by_cases found : e.1 = k
    · have kept : rest.filter (fun e => e.1 ≠ k) = rest := by
        rw [List.filter_eq_self]
        intro later inside
        rw [decide_eq_true_eq]
        rintro rfl
        exact fresh (found ▸ List.mem_map_of_mem inside)
      rw [erase, if_pos found, List.filter_cons_of_neg (by simp [found]), kept]
    · rw [erase, if_neg found, List.filter_cons_of_pos (by simp [found]), ih others]

/-- What is left without a key is the same in any order. -/
theorem erase_perm {l k : List (κ × α)} (distinct : (l.map Prod.fst).Nodup) (perm : l.Perm k)
    (key : κ) : (erase key l).Perm (erase key k) := by
  have distinct' : (k.map Prod.fst).Nodup := (perm.map Prod.fst).nodup_iff.mp distinct
  rw [erase_eq_filter distinct, erase_eq_filter distinct']
  exact perm.filter _

end Entries

namespace Content

/-! ## What is found -/

/-- The slot that knows a key. -/
def known (slots : List Slot) (key : String) : Option Slot :=
  slots.find? fun slot => slot.names.contains key

/-- What is found of an entry, under the own name of its slot. -/
def find? (slots : List Slot) (e : String × Json) : Option (String × Content) :=
  (known slots e.1).map fun slot => (slot.name, ofJson e.2)

/-- A value passes the check of the slot that knows its key, if there is one. -/
def Passes (slots : List Slot) (e : String × Json) : Prop :=
  ∀ slot ∈ known slots e.1, slot.check (ofJson e.2) = .ok ()

/-- Entries can be gone through if no two that are known are of one slot and each passes the check
of its slot; then they are found in their order. -/
theorem foundInMap_iff {slots : List Slot} {l : List (String × Json)} {seen found : Found.Fields}
    (distinct : (seen.map Prod.fst).Nodup) :
    foundInMap slots seen (ofFields l) = .ok found ↔
      found = seen ++ l.filterMap (find? slots) ∧ (found.map Prod.fst).Nodup ∧
        ∀ e ∈ l, Passes slots e := by
  induction l generalizing seen with
  | nil =>
    rw [ofFields, foundInMap, Except.ok.injEq, List.filterMap_nil, List.append_nil]
    constructor
    · rintro rfl
      exact ⟨rfl, distinct, List.forall_mem_nil _⟩
    · rintro ⟨rfl, -, -⟩
      rfl
  | cons e rest ih =>
    rw [List.forall_mem_cons]
    cases own : known slots e.1 with
    | none =>
      have passes : Passes slots e := by simp [Passes, own]
      rw [foundInMap_unknown own, ih distinct, List.filterMap_cons_none (by simp [find?, own])]
      simp [passes]
    | some slot =>
      have passes : Passes slots e ↔ slot.check (ofJson e.2) = .ok () := by simp [Passes, own]
      rw [foundInMap_known own, List.filterMap_cons_some (by rw [find?, own]; rfl), passes]
      have moved : seen ++ (slot.name, ofJson e.2) :: rest.filterMap (find? slots) =
          seen ++ [(slot.name, ofJson e.2)] ++ rest.filterMap (find? slots) := by simp
      have grown (unseen : Entries.get? slot.name seen = none) :
          ((seen ++ [(slot.name, ofJson e.2)]).map Prod.fst).Nodup := by
        rw [← Entries.put_of_not_mem (Entries.get?_eq_none_iff.mp unseen)]
        exact Entries.nodup_put distinct
      constructor
      · rintro ⟨unseen, checked, later⟩
        obtain ⟨same, different, others⟩ := (ih (grown unseen)).mp later
        exact ⟨same.trans moved.symm, different, checked, others⟩
      · rintro ⟨same, different, checked, others⟩
        have unseen : Entries.get? slot.name seen = none :=
          Entries.get?_eq_none_iff.mpr (Entries.fresh_of_nodup (same ▸ different))
        exact ⟨unseen, checked, (ih (grown unseen)).mpr ⟨same.trans moved, different, others⟩⟩

def Agree (found found' : Found.Fields) : Prop :=
  ∀ name, Entries.get? name found = Entries.get? name found'

/-- Entries that can be gone through in one order can be in any, and the same is found. -/
theorem foundInMap_perm {slots : List Slot} {l l' : List (String × Json)} {found : Found.Fields}
    (perm : l.Perm l') (ok : foundInMap slots [] (ofFields l) = .ok found) :
    ∃ found', foundInMap slots [] (ofFields l') = .ok found' ∧ Agree found found' := by
  have empty : (([] : Found.Fields).map Prod.fst).Nodup := List.nodup_nil
  obtain ⟨rfl, different, passes⟩ := (foundInMap_iff empty).mp ok
  have moved : (l.filterMap (find? slots)).Perm (l'.filterMap (find? slots)) := perm.filterMap _
  refine ⟨l'.filterMap (find? slots), ?_, Entries.get?_of_perm different moved⟩
  rw [foundInMap_iff empty]
  refine ⟨rfl, ?_, fun e inside => passes e (perm.mem_iff.mpr inside)⟩
  exact (moved.map Prod.fst).nodup_iff.mp different

/-! ## What is read -/

theorem Field.value_of_agree {α : Type} (f : Field α) {found found' : Found.Fields}
    (agree : Agree found found') : f.value found = f.value found' := by
  rw [value, value, agree f.name]

/-- What can be read of a map is read of it in any order of its entries. -/
def AnyOrder {α : Type} (read : Content → Except Mismatch α) : Prop :=
  ∀ {l l' : List (String × Json)}, l.Perm l' → ∀ {a : α},
    read (.map (ofFields l)) = .ok a → read (.map (ofFields l')) = .ok a

/-- A record is read in any order if it is made only of what its fields are. -/
theorem anyOrder_of_agree {α : Type} {surplus : Surplus} {type : String} {slots : List Slot}
    {make : Found.Fields → Except Mismatch α}
    (same : ∀ {found found' : Found.Fields}, Agree found found' → make found = make found') :
    AnyOrder fun c => fields surplus type slots c >>= make := by
  intro l l' perm a ok
  obtain ⟨found, goes, made⟩ := bind_ok_iff.mp ok
  obtain ⟨found', goes', agree⟩ := foundInMap_perm perm goes
  exact bind_ok_iff.mpr ⟨found', goes', same agree ▸ made⟩

theorem AnyOrder.map {α β : Type} {read : Content → Except Mismatch α} (any : AnyOrder read)
    (f : α → β) : AnyOrder fun c => (read c).map f := by
  intro l l' perm b ok
  obtain ⟨a, reads, same⟩ := map_ok_iff.mp ok
  exact map_ok_iff.mpr ⟨a, any perm reads, same⟩

end Content

open Content (anyOrder_of_agree Field.value_of_agree)

theorem Deployment.read_anyOrder : Content.AnyOrder Deployment.read :=
  anyOrder_of_agree fun agree => by simp only [Field.value_of_agree _ agree]

theorem VolumeClaim.read_anyOrder : Content.AnyOrder VolumeClaim.read :=
  anyOrder_of_agree fun agree => by simp only [Field.value_of_agree _ agree]

theorem Route.read_anyOrder : Content.AnyOrder Route.read :=
  anyOrder_of_agree fun agree => by simp only [Field.value_of_agree _ agree]

theorem Service.read_anyOrder : Content.AnyOrder Service.read :=
  anyOrder_of_agree fun agree => by simp only [Field.value_of_agree _ agree]

theorem Secret.read_anyOrder : Content.AnyOrder Secret.read :=
  anyOrder_of_agree fun agree => by simp only [Field.value_of_agree _ agree]

namespace Config

theorem ofContent_anyOrder (kind : Kind) : Content.AnyOrder (ofContent kind) := by
  cases kind with
  | deploymentConfig => exact Deployment.read_anyOrder.map Config.deployment
  | persistentVolumeClaim => exact VolumeClaim.read_anyOrder.map Config.volumeClaim
  | route => exact Route.read_anyOrder.map Config.route
  | service => exact Service.read_anyOrder.map Config.service
  | secret => exact Secret.read_anyOrder.map Config.secret

variable {fields fields' : List (String × Json)}

theorem ofJson_of_perm (distinct : (fields.map Prod.fst).Nodup) (perm : fields.Perm fields')
    {c : Config} (ok : ofJson (.obj fields) = .ok c) : ofJson (.obj fields') = .ok c := by
  have rest := Entries.erase_perm distinct perm "kind"
  rw [ofJson] at ok ⊢
  rw [← Entries.get?_of_perm distinct perm]
  cases tagged : Entries.get? "kind" fields with
  | none =>
    rw [tagged] at ok
    cases ok
  | some tag =>
    rw [tagged] at ok
    obtain ⟨kind, named, read⟩ := bind_ok_iff.mp ok
    exact bind_ok_iff.mpr ⟨kind, named, ofContent_anyOrder kind rest read⟩

/-- The order of the fields of an object makes no difference, wherever its kind stands and by
whatever names its fields go: it can be read as a resource in one order if it can be in the other,
and in every namespace the same manifest is then built, or the same is wrong. -/
theorem field_order_irrelevant (distinct : (fields.map Prod.fst).Nodup)
    (perm : fields.Perm fields') :
    (ofJson (.obj fields)).isOk = (ofJson (.obj fields')).isOk ∧
    ∀ c c', ofJson (.obj fields) = .ok c → ofJson (.obj fields') = .ok c' →
      ∀ (ns : String) (form : Json.Form),
        (c.build ns).map (fun d => String.ofList (d.manifest.write form 0)) =
          (c'.build ns).map (fun d => String.ofList (d.manifest.write form 0)) := by
  have distinct' : (fields'.map Prod.fst).Nodup := (perm.map Prod.fst).nodup_iff.mp distinct
  constructor
  · rw [Bool.eq_iff_iff]
    constructor
    · intro ok
      obtain ⟨c, read⟩ := exists_ok ok
      rw [ofJson_of_perm distinct perm read]
      rfl
    · intro ok
      obtain ⟨c, read⟩ := exists_ok ok
      rw [ofJson_of_perm distinct' perm.symm read]
      rfl
  · intro c c' read read' ns form
    have same : c = c' := Except.ok.inj ((ofJson_of_perm distinct perm read).symm.trans read')
    rw [same]

/-- What is said of an object that cannot be read is of the field that comes first. -/
example :
    ofJson (.obj [("kind", .str "Route"), ("name", .int 1), ("port", .bool true)]) =
        .error (.invalidType (.int 1) "a string") ∧
      ofJson (.obj [("port", .bool true), ("kind", .str "Route"), ("name", .int 1)]) =
        .error (.noForm "PortRef") :=
  ⟨rfl, rfl⟩

end Config

/-- A route whose fields go by their other names, with its kind at the end and a field that no
route has. -/
def entrance : List (String × Json) :=
  [("to", .str "web"), ("note", .arr [.null]), ("port", .str "http"),
    ("labels", .obj [("tier", .str "front"), ("app", .str "shop")]), ("route_name", .str "entry"),
    ("kind", .str "Route")]

def entranceMoved : List (String × Json) :=
  [("route_name", .str "entry"), ("labels", .obj [("tier", .str "front"), ("app", .str "shop")]),
    ("kind", .str "Route"), ("port", .str "http"), ("to", .str "web"), ("note", .arr [.null])]

theorem entrance_in_any_order :
    (entrance.map Prod.fst).Nodup ∧ entrance.Perm entranceMoved ∧
    ∃ c c' d d', Config.ofJson (.obj entrance) = .ok c ∧ c.build "shop" = .ok d ∧
      Config.ofJson (.obj entranceMoved) = .ok c' ∧ c'.build "shop" = .ok d' ∧
      d.manifest.pretty = d'.manifest.pretty := by
  have distinct : (entrance.map Prod.fst).Nodup := by decide
  have perm : entrance.Perm entranceMoved := by decide
  have read : Config.ofJson (.obj entrance) = .ok _ := rfl
  obtain ⟨both, same⟩ := Config.field_order_irrelevant distinct perm
  rw [read] at both
  obtain ⟨c', read'⟩ := exists_ok both.symm
  have texts := (same _ c' read read' "shop" .pretty).symm
  obtain ⟨d', built', alike⟩ := map_ok_iff.mp texts
  exact ⟨distinct, perm, _, c', _, d', read, rfl, read', built', alike.symm⟩

end Converge
