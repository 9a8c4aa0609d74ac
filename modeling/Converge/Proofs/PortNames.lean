import Converge.Proofs.Build
import Mathlib.Data.List.Nodup
import Mathlib.Data.Option.Basic

/-!
# Names of ports

The names of a service's ports are the given ones and, for the ports without a name, generated
ones. The count behind the generated names knows nothing of the given ones. Two ports of a
service have the same name therefore only if their names were given so, or if a given name looks
like one of those that are generated beside it.
-/

namespace Converge

namespace ServicePort

/-- The name generated for the port with this number among those without a name. -/
def generated (number : Nat) : String := "port" ++ toString number

def given (ports : List ServicePort) : List String := ports.filterMap givenName?

def unnamed (ports : List ServicePort) : Nat := ports.countP fun p => p.givenName?.isNone

def shownName (v : Json) : Option String := (v.field? "name").bind Json.asString?

theorem generated_injective : Function.Injective generated := by
  intro m n same
  have digits := (String.append_right_inj "port").mp same
  rw [Nat.toString_eq_ofList_toDigits, Nat.toString_eq_ofList_toDigits, String.ofList_inj] at digits
  rw [← Nat.ofDigitChars_ten_toDigits (n := m), digits, Nat.ofDigitChars_ten_toDigits]

@[simp] theorem shownName_toJson (p : ServicePort) (name : String) :
    shownName (p.toJson name) = some name := rfl

section Cons

variable {p : ServicePort} {name : String} (rest : List ServicePort) (count : Nat)

theorem unnamed_cons_some (h : p.givenName? = some name) : unnamed (p :: rest) = unnamed rest := by
  simp [unnamed, h]

theorem unnamed_cons_none (h : p.givenName? = none) : unnamed (p :: rest) = unnamed rest + 1 := by
  simp [unnamed, h]

theorem nameFrom_cons_some (h : p.givenName? = some name) :
    nameFrom count (p :: rest) = p.toJson name :: nameFrom count rest := by
  simp [nameFrom, h]

theorem nameFrom_cons_none (h : p.givenName? = none) :
    nameFrom count (p :: rest) = p.toJson (generated count) :: nameFrom (count + 1) rest := by
  simp [nameFrom, h, generated]

end Cons

/-- Up to their order, the names shown are the given ones and as many generated ones as there are
ports without a name, numbered on from the count. -/
theorem shownNames_perm (ports : List ServicePort) (count : Nat) :
    ((nameFrom count ports).map shownName).Perm
      ((given ports ++ (List.range' count (unnamed ports)).map generated).map some) := by
  induction ports generalizing count with
  | nil => exact .refl _
  | cons p rest ih =>
    cases own : p.givenName? with
    | some name =>
      rw [nameFrom_cons_some rest count own, unnamed_cons_some rest own, given,
        List.filterMap_cons_some own]
      exact (ih count).cons (some name)
    | none =>
      rw [nameFrom_cons_none rest count own, unnamed_cons_none rest own, given,
        List.filterMap_cons_none own, List.range'_succ]
      simp only [List.map_cons, List.map_append, shownName_toJson]
      have tail := (ih (count + 1)).cons (some (generated count))
      rw [List.map_append] at tail
      exact tail.trans List.perm_middle.symm

theorem shownNames_nodup_iff (ports : List ServicePort) :
    ((nameAll ports).map shownName).Nodup ↔
      (given ports).Nodup ∧ ∀ number < unnamed ports, generated number ∉ given ports := by
  rw [nameAll, (shownNames_perm ports 0).nodup_iff,
    List.nodup_map_iff (Option.some_injective String), List.nodup_append']
  have counted : ((List.range' 0 (unnamed ports)).map generated).Nodup :=
    (List.nodup_range').map generated_injective
  constructor
  · rintro ⟨distinct, -, apart⟩
    refine ⟨distinct, fun number small taken => apart taken ?_⟩
    exact List.mem_map_of_mem (List.mem_range'_1.mpr ⟨Nat.zero_le number, by omega⟩)
  · rintro ⟨distinct, free⟩
    refine ⟨distinct, counted, fun name taken made => ?_⟩
    obtain ⟨number, small, rfl⟩ := List.mem_map.mp made
    exact free number (by simpa using (List.mem_range'_1.mp small).2) taken

theorem shownName_isSome {ports : List ServicePort} {v : Json} (inside : v ∈ nameAll ports) :
    (shownName v).isSome := by
  have shown : shownName v ∈ (nameAll ports).map shownName := List.mem_map_of_mem inside
  obtain ⟨name, -, named⟩ := List.mem_map.mp ((shownNames_perm ports 0).mem_iff.mp shown)
  rw [← named]
  rfl

end ServicePort

/-- The ports of a service that is built are those of its configuration, with their names. -/
theorem Service.build_ports {s : Service} {ns : String} {d : Descriptor}
    (built : s.build ns = .ok d) :
    d.manifest.at? ["spec", "ports"] = some (.arr (ServicePort.nameAll s.ports)) := by
  obtain ⟨_, built⟩ := checkName_then_iff.mp built
  obtain ⟨_, built⟩ := refuse_then_iff.mp built
  obtain ⟨_, built⟩ := refuse_then_iff.mp built
  cases built
  rfl

namespace ServicePort

/-- Every port of a service is shown with a name, and no two ports show the same one exactly if
the given names are distinct and no port is given one of the names generated beside it. -/
theorem nameAll_distinct_iff (ports : List ServicePort) :
    (∀ v ∈ nameAll ports, (shownName v).isSome) ∧
      (((nameAll ports).map shownName).Nodup ↔
        (given ports).Nodup ∧ ∀ number < unnamed ports, generated number ∉ given ports) ∧
      ∀ (s : Service) (ns : String) (d : Descriptor), s.ports = ports → s.build ns = .ok d →
        d.manifest.at? ["spec", "ports"] = some (.arr (nameAll ports)) := by
  refine ⟨fun v inside => shownName_isSome inside, shownNames_nodup_iff ports, ?_⟩
  rintro s ns d rfl built
  exact Service.build_ports built

/-- Distinct given names are not enough: here the one name given is generated as well. -/
theorem given_distinct_shown_twice :
    (given [⟨some "port0", 80, none, none, none⟩, ⟨none, 443, none, none, none⟩]).Nodup ∧
      ¬((nameAll [⟨some "port0", 80, none, none, none⟩,
        ⟨none, 443, none, none, none⟩]).map shownName).Nodup := by
  decide

end ServicePort

end Converge
