import Converge.Json.Equality
import Converge.Proofs.PortNames
import Mathlib.Data.List.Forall2

/-!
# Ports in a manifest

Every port of a service is shown in its place: a name, its number, and what else is given of it.
A name is the given one or is generated, with the number of the ports before it that have no name.
All that is given of the ports can be told from what is shown, apart from the names.
-/

namespace Converge

theorem PortRef.toJson_injective : Function.Injective toJson := by
  intro p q same
  cases p <;> cases q <;> cases same <;> rfl

namespace ServicePort

/-- The name of a port that stands behind others. -/
def nameBehind (before : List ServicePort) (p : ServicePort) : String :=
  match p.name with
  | none => generated (unnamed before)
  | some own => if own = "" then generated (unnamed before) else own

/-- The fields show the port under a name: name and number, then target port, protocol and node
port as far as they are given, and nothing else. -/
structure Shows (fields : List (String × Json)) (p : ServicePort) (name : String) : Prop where
  keys : fields.map Prod.fst = ["name", "port"] ++
    (if p.targetPort.isSome then ["targetPort"] else []) ++
    (if p.protocol.isSome then ["protocol"] else []) ++
    (if p.nodePort.isSome then ["nodePort"] else [])
  name : Entries.get? "name" fields = some (.str name)
  port : Entries.get? "port" fields = some (.int p.port)
  targetPort : Entries.get? "targetPort" fields = p.targetPort.map PortRef.toJson
  protocol : Entries.get? "protocol" fields = p.protocol.map Json.str
  nodePort : Entries.get? "nodePort" fields = p.nodePort.map Json.int

structure SameButName (p q : ServicePort) : Prop where
  port : p.port = q.port
  targetPort : p.targetPort = q.targetPort
  protocol : p.protocol = q.protocol
  nodePort : p.nodePort = q.nodePort

theorem exists_shows (p : ServicePort) (name : String) :
    ∃ fields, p.toJson name = .obj fields ∧ Shows fields p name := by
  refine ⟨_, rfl, ?_⟩
  cases target : p.targetPort <;> cases protocol : p.protocol <;> cases node : p.nodePort <;>
    constructor <;> simp [target, protocol, node, Entries.get?]

/-- Fields that show two ports show them alike. -/
theorem Shows.sameButName {fields : List (String × Json)} {p q : ServicePort}
    {name name' : String} (first : Shows fields p name) (second : Shows fields q name') :
    SameButName p q where
  port := Json.int.inj (Option.some.inj (first.port.symm.trans second.port))
  targetPort := Option.map_injective PortRef.toJson_injective
    (first.targetPort.symm.trans second.targetPort)
  protocol := Option.map_injective (fun _ _ => Json.str.inj)
    (first.protocol.symm.trans second.protocol)
  nodePort := Option.map_injective (fun _ _ => Json.int.inj)
    (first.nodePort.symm.trans second.nodePort)

section Place

variable (count : Nat) (p : ServicePort) (rest : List ServicePort)

/-- The name of a port behind others, before which the count stood at a number. -/
def nameCounting (before : List ServicePort) : String :=
  p.givenName?.getD (generated (count + unnamed before))

theorem nameCounting_zero (before : List ServicePort) :
    nameCounting 0 p before = nameBehind before p := by
  rw [nameCounting, nameBehind, givenName?, Nat.zero_add]
  cases p.name with
  | none => rfl
  | some own =>
    by_cases blank : own = ""
    · subst blank
      rfl
    · simp [Option.filter, blank]

/-- The first port is shown with its name, and the others with those they have behind it. -/
theorem nameFrom_cons :
    ∃ next, nameFrom count (p :: rest) = p.toJson (nameCounting count p []) :: nameFrom next rest ∧
      ∀ q before, nameCounting next q before = nameCounting count q (p :: before) := by
  cases own : p.givenName? with
  | some name =>
    refine ⟨count, ?_, ?_⟩
    · rw [nameFrom_cons_some rest count own, nameCounting, own]
      rfl
    · intro q before
      rw [nameCounting, nameCounting, unnamed_cons_some before own]
  | none =>
    refine ⟨count + 1, ?_, ?_⟩
    · rw [nameFrom_cons_none rest count own, nameCounting, own]
      rfl
    · intro q before
      rw [nameCounting, nameCounting, unnamed_cons_none before own]
      congr 2
      omega

end Place

/-- Every port is shown in its place. The induction is on the ports, with the count left open. -/
theorem nameFrom_eq_mapIdx (ports : List ServicePort) (count : Nat) :
    nameFrom count ports =
      ports.mapIdx fun i p => p.toJson (nameCounting count p (ports.take i)) := by
  induction ports generalizing count with
  | nil => rfl
  | cons p rest ih =>
    obtain ⟨next, shown, onward⟩ := nameFrom_cons count p rest
    rw [shown, ih next, List.mapIdx_cons]
    simp only [onward, List.take_zero, List.take_succ_cons]

theorem nameAll_eq_mapIdx (ports : List ServicePort) :
    nameAll ports = ports.mapIdx fun i p => p.toJson (nameBehind (ports.take i) p) := by
  simp only [nameAll, nameFrom_eq_mapIdx, nameCounting_zero]

/-- Lists that are shown alike differ at most in names, whatever their counts. -/
theorem sameButName_of_nameFrom {ports ports' : List ServicePort} {count count' : Nat}
    (same : nameFrom count ports = nameFrom count' ports') :
    List.Forall₂ SameButName ports ports' := by
  induction ports generalizing ports' count count' with
  | nil =>
    cases ports' with
    | nil => exact .nil
    | cons q rest' =>
      obtain ⟨_, shown, -⟩ := nameFrom_cons count' q rest'
      rw [shown] at same
      cases same
  | cons p rest ih =>
    obtain ⟨_, shown, -⟩ := nameFrom_cons count p rest
    rw [shown] at same
    cases ports' with
    | nil => cases same
    | cons q rest' =>
      obtain ⟨_, shown', -⟩ := nameFrom_cons count' q rest'
      rw [shown'] at same
      obtain ⟨first, others⟩ := List.cons.inj same
      obtain ⟨fields, object, shows⟩ := exists_shows p (nameCounting count p [])
      obtain ⟨fields', object', shows'⟩ := exists_shows q (nameCounting count' q [])
      rw [object, object'] at first
      cases first
      exact .cons (shows.sameButName shows') (ih others)

/-- As many ports are shown as there are. In the place of each stand its name and number and what
else is given of it, in a fixed order and with nothing beside it, where the name is the port's own
or has the number of the ports before it without one. Ports shown alike differ at most in names. -/
theorem nameAll_shows_ports (ports : List ServicePort) :
    (nameAll ports).length = ports.length ∧
      (∀ i p, ports[i]? = some p → ∃ fields, (nameAll ports)[i]? = some (.obj fields) ∧
        Shows fields p (nameBehind (ports.take i) p)) ∧
      ∀ ports', nameAll ports = nameAll ports' → List.Forall₂ SameButName ports ports' := by
  refine ⟨?_, ?_, ?_⟩
  · rw [nameAll_eq_mapIdx, List.length_mapIdx]
  · intro i p there
    obtain ⟨fields, object, shows⟩ := exists_shows p (nameBehind (ports.take i) p)
    refine ⟨fields, ?_, shows⟩
    rw [nameAll_eq_mapIdx, List.getElem?_mapIdx, there, Option.map_some, object]
  · intro ports' same
    exact sameButName_of_nameFrom same

/-- A port with an empty name behind one without any and one with a name; and a list in which the
generated names are given. -/
theorem nameAll_shows_ports_blank :
    let ports : List ServicePort := [⟨none, 80, some (.name "http"), some "TCP", none⟩,
      ⟨some "admin", 9000, none, none, none⟩, ⟨some "", 443, some (.number 8443), none, some 30443⟩]
    let ports' : List ServicePort := [⟨some "port0", 80, some (.name "http"), some "TCP", none⟩,
      ⟨some "admin", 9000, none, none, none⟩,
      ⟨some "port1", 443, some (.number 8443), none, some 30443⟩]
    (∃ fields, (nameAll ports)[2]? = some (.obj fields) ∧
      fields.map Prod.fst = ["name", "port", "targetPort", "nodePort"] ∧
      Entries.get? "name" fields = some (.str "port1") ∧
      Entries.get? "targetPort" fields = some (.int 8443)) ∧
    nameAll ports = nameAll ports' ∧ List.Forall₂ SameButName ports ports' := by
  intro ports ports'
  obtain ⟨-, shown, told⟩ := nameAll_shows_ports ports
  obtain ⟨fields, there, shows⟩ := shown 2 _ rfl
  have same : nameAll ports = nameAll ports' := by decide
  have name : nameBehind (ports.take 2) ⟨some "", 443, some (.number 8443), none, some 30443⟩ =
      "port1" := by decide
  rw [name] at shows
  exact ⟨⟨fields, there, shows.keys, shows.name, shows.targetPort⟩, same, told ports' same⟩

end ServicePort

end Converge
