import Converge.Proofs.Accounting
import Converge.Proofs.Convergence
import Converge.Proofs.Protocol

/-!
# What a report tells

A run adds lines to its report and takes none away, and the report says that something changed
as soon as a line is added. If a real run ends well, the lines are those that tell of its
changes, segment by segment: a deletion and a creation are told as one only within the segment
of one desired state.
-/

namespace Converge

/-- The second report has some more lines than the first, and says so. -/
def Report.Adds (before after : Report) (lines : List String) : Prop :=
  after.actions = before.actions ++ lines ∧ after.changed = (before.changed || !lines.isEmpty)

namespace Report.Adds

theorem nothing (r : Report) : r.Adds r [] :=
  ⟨(List.append_nil _).symm, (Bool.or_false _).symm⟩

theorem trans {first second third : Report} {lines more : List String}
    (h : first.Adds second lines) (h' : second.Adds third more) :
    first.Adds third (lines ++ more) := by
  constructor
  · rw [h'.1, h.1, List.append_assoc]
  · rw [h'.2, h.2, Bool.or_assoc]
    cases lines <;> rfl

theorem recordNamespace (r : Report) (noun ns : String) (existed : Bool) :
    r.Adds (r.recordNamespace noun ns existed)
      (if existed then [] else ["Create " ++ noun ++ " " ++ ns]) := by
  refine ⟨recordNamespace_actions r noun ns existed, ?_⟩
  rw [recordNamespace_changed]
  cases existed <;> rfl

theorem record (r : Report) (kind : Kind) (ns name : String) (outcome : Outcome) :
    r.Adds (r.record kind ns name outcome) outcome.decision.lines := by
  refine ⟨record_actions r kind ns name outcome, ?_⟩
  rw [record_changed, Decision.lines]
  cases outcome.decision.changed <;> rfl

/-- The report says that something changed if it did before, or if there are more lines. -/
theorem changed_iff {before after : Report} {lines : List String} (h : before.Adds after lines) :
    after.changed = true ↔ before.changed = true ∨ lines ≠ [] := by
  rw [h.2, Bool.or_eq_true, Bool.not_eq_true', List.isEmpty_eq_false_iff]

end Report.Adds

section Run

variable {noun : String} {options : Options} {ensured : List String} {report after : Report}
  {t : List Exchange} {r : Except Failure Unit}

theorem Visiting.adds {desired : Desired}
    (h : Visiting noun options ensured desired report t r after) :
    ∃ lines, report.Adds after lines := by
  cases h with
  | unprepared prepared => exact ⟨[], .nothing report⟩
  | failed prepared pass => exact ⟨_, .recordNamespace report noun desired.ns _⟩
  | passed prepared pass =>
    exact ⟨_, (Report.Adds.recordNamespace report noun desired.ns _).trans (.record _ _ _ _ _)⟩

/-- A run, real or dry, only adds lines to its report, however it ends. -/
theorem Running.adds {desired : List Desired}
    (h : Running noun options ensured desired report t r after) :
    ∃ lines, report.Adds after lines := by
  induction h with
  | finished ensured report => exact ⟨[], .nothing report⟩
  | stopped rest visit => exact visit.adds
  | next visit others ih =>
    obtain ⟨lines, first⟩ := visit.adds
    obtain ⟨more, later⟩ := ih
    exact ⟨lines ++ more, first.trans later⟩

end Run

/-! ## Segment by segment -/

theorem NamespacePart.opening {desired : Desired} {t : List Exchange} {r : Except Failure Unit}
    (h : NamespacePart desired t r) : Opening t := by
  cases h with
  | none => exact (Recorded.nil "").opening
  | there | created | raced | unseen | refused => exact opening_cons (by simp) _

theorem Segment.opening {options : Options} {desired : Desired} {t : List Exchange}
    {r : Except Failure Unit} (h : Segment options desired t r) : Opening t := by
  cases h with
  | unready opening => exact opening.opening
  | unseen opening failure => exact opening.opening.append (opening_look desired _ [])
  | seen opening live steps => exact opening.opening.append (opening_look desired _ _)

theorem opening_flatten {parts : List (List Exchange)} (openings : ∀ part ∈ parts, Opening part) :
    Opening parts.flatten := by
  induction parts with
  | nil => exact (Recorded.nil "").opening
  | cons first rest ih =>
    obtain ⟨opening, openings⟩ := List.forall_mem_cons.mp openings
    exact opening.append (ih openings)

/-- What is told of some parts, none of which begins with a creation, is what is told of each. -/
theorem told_flatten (noun : String) {parts : List (List Exchange)}
    (openings : ∀ part ∈ parts, Opening part) :
    told noun parts.flatten = parts.flatMap (told noun) := by
  induction parts with
  | nil => rfl
  | cons first rest ih =>
    obtain ⟨_, openings⟩ := List.forall_mem_cons.mp openings
    rw [List.flatten_cons, told_append noun first (opening_flatten openings), ih openings,
      List.flatMap_cons]

theorem openings_of_segments {options : Options} {r : Except Failure Unit}
    {desired : List Desired} {parts : List (List Exchange)}
    (h : List.Forall₂ (fun state part => Segment options state part r) desired parts) :
    ∀ part ∈ parts, Opening part := by
  induction h with
  | nil => exact List.forall_mem_nil _
  | cons segment others ih => exact List.forall_mem_cons.mpr ⟨segment.opening, ih⟩

/-- A real run that ends well consists of one whole segment for each desired state. -/
theorem Running.whole {noun : String} {options : Options} (real : options.dryRun = false)
    {ensured : List String} {desired : List Desired} {report after : Report} {t : List Exchange}
    (h : Running noun options ensured desired report t (.ok ()) after) :
    ∃ parts, t = parts.flatten ∧
      List.Forall₂ (fun state part => Segment options state part (.ok ())) desired parts := by
  obtain ⟨done, rest, parts, cut, rfl, rfl, segments, ending⟩ := h.segments real
  cases ending with
  | finished => exact ⟨parts, List.append_nil _, (List.append_nil done).symm ▸ segments⟩

/-- If a real run ends well, the lines that it adds to its report are those that tell of the
changes it made, in their order and segment by segment, and the report says that something
changed if it did before or if there is such a line. And whatever a run does, a report that
says that something changed exactly if it tells of an action is left as such a one. -/
theorem run_tells_its_changes {σ : Type} (client : Client σ) (noun : String) (options : Options)
    (desired : List Desired) (before : Report) (s : σ) :
    let run := reconcileAll noun options desired before
    let t := run.transcript client s
    let after := (run.run client s).1.2
    (options.dryRun = false → (run.run client s).1.1 = .ok () →
      (∃ parts, t = parts.flatten ∧
        List.Forall₂ (fun state part => Segment options state part (.ok ())) desired parts ∧
        after.actions = before.actions ++ parts.flatMap (told noun)) ∧
      after.actions = before.actions ++ told noun t ∧
      (after.changed = true ↔ before.changed = true ∨ told noun t ≠ [])) ∧
    (before.Sound → after.Sound) := by
  intro run t after
  have running := reconcileAll_running client noun options desired before s
  obtain ⟨added, adds⟩ := running.adds
  constructor
  · intro real well
    rw [well] at running
    obtain ⟨lines, actions, accounted⟩ := running.accounted real
    obtain ⟨parts, split, segments⟩ := running.whole real
    have same : added = told noun t := by
      have complete : told noun t = lines := accounted.complete
      rw [complete]
      exact List.append_cancel_left (adds.1.symm.trans actions)
    subst same
    refine ⟨⟨parts, split, segments, ?_⟩, adds.1, adds.changed_iff⟩
    rw [← told_flatten noun (openings_of_segments segments), ← split]
    exact adds.1
  · exact running.sound

open Batch in
/-- A deployment is created again, a volume claim is created in a new namespace, and a route is
removed. -/
theorem run_tells_its_changes_batch :
    let run := reconcileAll "namespace" ⟨false, true, false⟩ desired .empty
    let t := run.transcript Memory.client cluster
    let after := (run.run Memory.client cluster).1.2
    (run.run Memory.client cluster).1.1 = .ok () ∧ Report.empty.Sound ∧
    told "namespace" t = ["Recreate deployment web", "Create namespace store", "Create PVC data",
      "Delete route old"] ∧
    (∃ parts, t = parts.flatten ∧
      List.Forall₂ (fun state part => Segment ⟨false, true, false⟩ state part (.ok ())) desired
        parts ∧
      after.actions = Report.empty.actions ++ parts.flatMap (told "namespace")) ∧
    after.actions = Report.empty.actions ++ told "namespace" t ∧
    (after.changed = true ↔ Report.empty.changed = true ∨ told "namespace" t ≠ []) ∧
    after.Sound := by
  intro run t after
  have well : (run.run Memory.client cluster).1.1 = .ok () := rfl
  obtain ⟨tells, sound⟩ :=
    run_tells_its_changes Memory.client "namespace" ⟨false, true, false⟩ desired .empty cluster
  obtain ⟨parts, actions, changed⟩ := tells rfl well
  exact ⟨well, rfl, by decide +kernel, parts, actions, changed, sound rfl⟩

end Converge
