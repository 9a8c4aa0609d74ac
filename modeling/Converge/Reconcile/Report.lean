import Converge.Json.Printer
import Converge.Reconcile.Decision

/-!
# Reports

What a run did, as it is printed at its end: whether anything changed, the actions in
their order, the resulting state of every resource that is there, and the error that
ended the run.
-/

namespace Converge

/-- The outcome of one resource. -/
structure Outcome where
  decision : Decision
  /-- The object afterwards, if it is there. -/
  state : Option Json

structure Report where
  changed : Bool
  actions : List String
  resources : Table String Json
  error : Option String

namespace Report

def empty : Report := ⟨false, [], .empty, none⟩

/-- The key of a resource's state: `namespace/name_kind`, with underscores for the
hyphens of the name. -/
def resourceKey (kind : Kind) (ns name : String) : String :=
  ns ++ "/" ++ String.ofList (name.toList.map fun c => if c = '-' then '_' else c) ++ "_" ++
    kind.reportWord

/-- Note a change. -/
def note (r : Report) (line : String) : Report :=
  { r with changed := true, actions := r.actions ++ [line] }

/-- Record that a namespace was there or had to be created. -/
def recordNamespace (r : Report) (noun ns : String) (existed : Bool) : Report :=
  if existed then r else r.note ("Create " ++ noun ++ " " ++ ns)

/-- Record the outcome of a resource. -/
def record (r : Report) (kind : Kind) (ns name : String) (outcome : Outcome) : Report :=
  let r := if outcome.decision.changed then r.note outcome.decision.description else r
  match outcome.state with
  | none => r
  | some state => { r with resources := r.resources.insert (resourceKey kind ns name) state }

theorem recordNamespace_actions (r : Report) (noun ns : String) (existed : Bool) :
    (r.recordNamespace noun ns existed).actions =
      r.actions ++ if existed then [] else ["Create " ++ noun ++ " " ++ ns] := by
  cases existed with
  | true => exact (List.append_nil r.actions).symm
  | false => rfl

theorem recordNamespace_changed (r : Report) (noun ns : String) (existed : Bool) :
    (r.recordNamespace noun ns existed).changed = (r.changed || !existed) := by
  cases existed with
  | true => exact (Bool.or_false r.changed).symm
  | false => exact (Bool.or_true r.changed).symm

theorem record_actions (r : Report) (kind : Kind) (ns name : String) (outcome : Outcome) :
    (r.record kind ns name outcome).actions = r.actions ++ outcome.decision.lines := by
  rw [record, Decision.lines]
  cases outcome.decision.changed with
  | true => cases outcome.state <;> rfl
  | false => cases outcome.state <;> exact (List.append_nil r.actions).symm

theorem record_changed (r : Report) (kind : Kind) (ns name : String) (outcome : Outcome) :
    (r.record kind ns name outcome).changed = (r.changed || outcome.decision.changed) := by
  rw [record]
  cases outcome.decision.changed with
  | true => cases outcome.state <;> exact (Bool.or_true r.changed).symm
  | false => cases outcome.state <;> exact (Bool.or_false r.changed).symm

theorem recordNamespace_resources (r : Report) (noun ns : String) (existed : Bool) :
    (r.recordNamespace noun ns existed).resources = r.resources := by
  cases existed <;> rfl

/-- A state that is recorded takes the place of the one under the same key; no state leaves
that as it is. -/
theorem record_get? (r : Report) (kind : Kind) (ns name : String) (outcome : Outcome)
    (key : String) :
    (r.record kind ns name outcome).resources.get? key =
      if resourceKey kind ns name = key then outcome.state.or (r.resources.get? key)
      else r.resources.get? key := by
  have noted : (if outcome.decision.changed then r.note outcome.decision.description
      else r).resources = r.resources := by
    cases outcome.decision.changed <;> rfl
  rw [record]
  cases outcome.state with
  | none => rw [Option.none_or, ite_self, noted]
  | some state => rw [Table.get?_insert, Option.some_or, noted]

def withError (r : Report) (error : Option String) : Report := { r with error := error }

def toJson (r : Report) : Json :=
  .obj ([("changed", .bool r.changed), ("actions", .arr (r.actions.map .str))] ++
    (if r.resources.isEmpty then [] else [("resources", Json.ofTable r.resources)]) ++
    (match r.error with
      | none => []
      | some text => [("error", .str text)]))

/-- The report as it is printed. -/
def text (r : Report) : String := r.toJson.pretty

end Report

end Converge
