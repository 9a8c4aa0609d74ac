import Converge.Json.Equality
import Converge.Proofs.Filing
import Converge.Proofs.RoundTrip
import Converge.Proofs.SecretEntries

/-!
# What a printed report tells

A report is printed as an object. Whatever stands in its lines, its error and the states that were
recorded, the text reads back as that object: whether anything changed, the lines, the states in
the order in which their resources were first recorded, if there are any, and the error, if there
is one. Nothing of the report is lost in it, so reports with one text are one report.
-/

namespace Converge

theorem Table.ofList_isEmpty {κ α : Type} [DecidableEq κ] (l : List (κ × α)) :
    (ofList l).isEmpty = l.isEmpty := by
  cases l with
  | nil => rfl
  | cons e rest =>
    have inside : e.1 ∈ (ofList (e :: rest)).keys := by
      rw [keys_ofList, List.mem_eraseDups]
      exact List.mem_cons_self
    obtain ⟨first, there, -⟩ := List.mem_map.mp inside
    rw [isEmpty, List.isEmpty_cons, List.isEmpty_eq_false_iff]
    exact List.ne_nil_of_mem there

namespace Report

/-! ## What is recorded -/

def Step.recorded? : Step → Option (String × Json)
  | .reconciled kind ns name outcome => outcome.state.map fun v => (resourceKey kind ns name, v)
  | .ensured .. => none
  | .failed _ => none

def recorded (steps : List Step) : List (String × Json) := steps.filterMap Step.recorded?

theorem write_resources (r : Report) (step : Step) :
    (r.write step).resources = r.resources.insertAll step.recorded?.toList := by
  cases step with
  | ensured noun ns existed => exact recordNamespace_resources r noun ns existed
  | failed error => rfl
  | reconciled kind ns name outcome =>
    rw [write, record, Step.recorded?]
    cases outcome.state <;> cases outcome.decision.changed <;> rfl

theorem writeAll_resources (r : Report) (steps : List Step) :
    (r.writeAll steps).resources = r.resources.insertAll (recorded steps) := by
  induction steps generalizing r with
  | nil => rfl
  | cons step rest ih =>
    have split : recorded (step :: rest) = step.recorded?.toList ++ recorded rest := by
      cases state : step.recorded? with
      | none => exact List.filterMap_cons_none state
      | some e => exact List.filterMap_cons_some state
    have written : r.writeAll (step :: rest) = (r.write step).writeAll rest := rfl
    apply Table.ext
    rw [written, ih, write_resources, split]
    exact (Entries.putAll_append _ _ _).symm

def ofSteps (steps : List Step) : Report := empty.writeAll steps

/-- The states are those that were recorded, written one after another. -/
theorem ofSteps_resources (steps : List Step) :
    (ofSteps steps).resources = Table.ofList (recorded steps) :=
  writeAll_resources empty steps

/-- The error that a step sets, or the lack of one if it clears the error. -/
def Step.setError? : Step → Option (Option String)
  | .failed error => some error
  | .ensured .. => none
  | .reconciled .. => none

/-- The error that is set at the end: none if it was cleared last, or never set. -/
def lastError (steps : List Step) : Option String :=
  (steps.filterMap Step.setError?).getLast?.getD none

theorem write_error (r : Report) (step : Step) :
    (r.write step).error = step.setError?.getD r.error := by
  cases step with
  | ensured noun ns existed => cases existed <;> rfl
  | failed error => rfl
  | reconciled kind ns name outcome =>
    rw [write, record, Step.setError?]
    cases outcome.state <;> cases outcome.decision.changed <;> rfl

theorem writeAll_error (r : Report) (steps : List Step) :
    (r.writeAll steps).error = (steps.filterMap Step.setError?).getLast?.getD r.error := by
  have last : some (r.writeAll steps).error =
      (steps.filterMap Step.setError?).getLast?.or (some r.error) := by
    apply writeAll_last (fun r => some r.error)
    intro step _ r
    rw [write_error, Option.or_some]
  rw [Option.or_some] at last
  exact Option.some.inj last

theorem ofSteps_error (steps : List Step) : (ofSteps steps).error = lastError steps :=
  writeAll_error empty steps

/-! ## The object that is printed -/

section Object

variable {r : Report}

/-- What holds of truth values and nests holds of the object if it holds of the states. -/
theorem toJson_nests {P : Json → Prop} (nests : Json.Nests P) (bool : ∀ b, P (.bool b))
    (states : ∀ e ∈ r.resources.entries, P e.2) : P r.toJson := by
  have actions : P (.arr (r.actions.map .str)) := by
    refine nests.arr _ fun v inside => ?_
    obtain ⟨line, -, rfl⟩ := List.mem_map.mp inside
    exact nests.str line
  have resources : P (Json.ofTable r.resources) := nests.ofTable states
  rw [toJson]
  cases r.resources.isEmpty <;> cases r.error <;>
    exact nests.obj _ (by simp) (by simp [bool, actions, resources, nests.str])

theorem toJson_depth {n : Nat} (states : ∀ e ∈ r.resources.entries, e.2.depth ≤ n) :
    r.toJson.depth ≤ n + 2 := by
  have actions : (Json.arr (r.actions.map .str)).depth ≤ n + 1 := by
    rw [Json.depth, Nat.add_le_add_iff_right, Json.itemsDepth_le_iff]
    intro v inside
    obtain ⟨line, -, rfl⟩ := List.mem_map.mp inside
    exact Nat.zero_le n
  have resources : (Json.ofTable r.resources).depth ≤ n + 1 := by
    rw [Json.ofTable, Json.depth, Nat.add_le_add_iff_right, Json.fieldsDepth_le_iff]
    exact states
  rw [toJson, Json.depth, Nat.add_le_add_iff_right, Json.fieldsDepth_le_iff]
  have bool (b : Bool) : (Json.bool b).depth ≤ n + 1 := Nat.zero_le _
  have text (s : String) : (Json.str s).depth ≤ n + 1 := Nat.zero_le _
  cases r.resources.isEmpty <;> cases r.error <;> simp [bool, actions, resources, text]

/-- A report without states has none in its object, and reads as one with an empty table. -/
theorem toJson_resources (r : Report) :
    (r.toJson.field? "resources").getD (.obj []) = Json.ofTable r.resources := by
  rw [toJson]
  cases none : r.resources.isEmpty with
  | true =>
    have same : r.resources.entries = [] := List.isEmpty_iff.mp none
    rw [Json.ofTable, same]
    cases r.error <;> rfl
  | false => rfl

theorem toJson_error (r : Report) : r.toJson.field? "error" = r.error.map .str := by
  rw [toJson]
  cases r.resources.isEmpty <;> cases r.error <;> rfl

/-- The object has all that is in the report. -/
theorem toJson_injective {r r' : Report} (same : r.toJson = r'.toJson) : r = r' := by
  have changed : some (Json.bool r.changed) = some (.bool r'.changed) :=
    congrArg (·.field? "changed") same
  have actions : some (Json.arr (r.actions.map .str)) = some (.arr (r'.actions.map .str)) :=
    congrArg (·.field? "actions") same
  have resources : Json.ofTable r.resources = Json.ofTable r'.resources := by
    rw [← toJson_resources r, same, toJson_resources r']
  have error : r.error.map Json.str = r'.error.map .str := by
    rw [← toJson_error r, same, toJson_error r']
  have text : Function.Injective Json.str := fun _ _ => Json.str.inj
  rw [Option.some.injEq, Json.bool.injEq] at changed
  rw [Option.some.injEq, Json.arr.injEq] at actions
  rw [Json.ofTable, Json.ofTable, Json.obj.injEq] at resources
  cases r
  cases r'
  rw [mk.injEq]
  exact ⟨changed, text.list_map actions, Table.ext resources, Option.map_injective text error⟩

end Object

/-- A state that can be printed and read back: all numbers are integers of 64 bits, no field is
given twice, and with the two objects around it it does not nest deeper than a reader goes. -/
structure Recordable (v : Json) : Prop where
  integral : v.integral = true
  settled : v.normalize = v
  shallow : v.depth ≤ 125

instance (v : Json) : Decidable (Recordable v) :=
  decidable_of_iff (v.integral = true ∧ v.normalize = v ∧ v.depth ≤ 125)
    ⟨fun h => ⟨h.1, h.2.1, h.2.2⟩, fun h => ⟨h.integral, h.settled, h.shallow⟩⟩

theorem parse_text {r : Report} (states : ∀ e ∈ r.resources.entries, Recordable e.2) :
    Json.parse r.text = .ok r.toJson := by
  have integral : r.toJson.integral = true :=
    toJson_nests Json.nests_integral (fun _ => rfl) fun e inside => (states e inside).integral
  have settled := toJson_nests Json.builds_settled.toNests (fun _ => rfl)
    fun e inside => (states e inside).settled
  have shallow := toJson_depth fun e inside => (states e inside).shallow
  exact Json.parse_pretty integral shallow settled

theorem parse_ofSteps {steps : List Step} (recordable : ∀ e ∈ recorded steps, Recordable e.2) :
    Json.parse (ofSteps steps).text = .ok (ofSteps steps).toJson := by
  apply parse_text
  rw [ofSteps_resources]
  exact Table.forall_ofList recordable

/-- The text of a report reads as an object with the report's values: whether anything changed,
its lines, its states if at least one was recorded, in the order of the first records under their
keys, and the error that was set last, if it was not cleared. So reports with the same text are
the same. -/
theorem text_determines_report {steps : List Step}
    (recordable : ∀ e ∈ recorded steps, Recordable e.2) :
    Json.parse (ofSteps steps).text = .ok (.obj (
      [("changed", .bool (ofSteps steps).changed),
        ("actions", .arr ((ofSteps steps).actions.map .str))] ++
      (if (recorded steps).isEmpty then []
        else [("resources", .obj (ofSteps steps).resources.entries)]) ++
      ((ofSteps steps).error.map fun text => ("error", Json.str text)).toList)) ∧
    (ofSteps steps).resources.keys = ((recorded steps).map Prod.fst).eraseDups ∧
    (ofSteps steps).error = lastError steps ∧
    ∀ steps' : List Step, (∀ e ∈ recorded steps', Recordable e.2) →
      (ofSteps steps').text = (ofSteps steps).text → ofSteps steps' = ofSteps steps := by
  have read := parse_ofSteps recordable
  refine ⟨?_, ?_, ofSteps_error steps, fun steps' recordable' same => ?_⟩
  · have some : (ofSteps steps).resources.isEmpty = (recorded steps).isEmpty := by
      rw [ofSteps_resources, Table.ofList_isEmpty]
    rw [read, toJson, some]
    cases (ofSteps steps).error <;> rfl
  · rw [ofSteps_resources, Table.keys_ofList]
  · have read' := parse_ofSteps recordable'
    rw [same, read] at read'
    exact (toJson_injective (Except.ok.inj read')).symm

/-- An error that is set, cleared and set again, a state that takes the place of an earlier one,
and lines, fields and an error with characters that have to be escaped. -/
def restarted : List Step :=
  [.ensured "project" "shop" false,
    .reconciled .route "shop" "web-in" ⟨⟨.create, "Create route \"web\\in\"\n\x01"⟩, some .null⟩,
    .failed (some "timeout"),
    .reconciled .service "shop" "web" ⟨⟨.noOp, "Service is there"⟩,
      some (.arr [.int (-9223372036854775808), .int 18446744073709551615, .obj []])⟩,
    .failed none,
    .reconciled .secret "shop" "key" ⟨⟨.delete, "Delete secret key"⟩, none⟩,
    .reconciled .route "shop" "web-in" ⟨⟨.replace, "Replace route"⟩,
      some (.obj [("\t\u2028", .str "😀\x7f"), ("", .arr [.bool true])])⟩,
    .failed (some "no \"web\"\n")]

theorem restarted_text :
    (∀ e ∈ recorded restarted, Recordable e.2) ∧
    Json.parse (ofSteps restarted).text = .ok (.obj [("changed", .bool true),
      ("actions", .arr [.str "Create project shop", .str "Create route \"web\\in\"\n\x01",
        .str "Delete secret key", .str "Replace route"]),
      ("resources", .obj [
        ("shop/web_in_route", .obj [("\t\u2028", .str "😀\x7f"), ("", .arr [.bool true])]),
        ("shop/web_service",
          .arr [.int (-9223372036854775808), .int 18446744073709551615, .obj []])]),
      ("error", .str "no \"web\"\n")]) ∧
    (ofSteps restarted).error = some "no \"web\"\n" := by
  have recordable : ∀ e ∈ recorded restarted, Recordable e.2 := by decide +kernel
  obtain ⟨read, -, error, -⟩ := text_determines_report recordable
  exact ⟨recordable, read.trans (by decide +kernel), error.trans rfl⟩

end Report

end Converge
