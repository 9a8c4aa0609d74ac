import Converge.Proofs.CheckMode
import Converge.Proofs.ReportKeys

/-!
# Tours

A run on a cluster in memory that meets no invalid namespace is a tour: one visit after
another, each with one effect on the cluster and one on the report. A visit writes the object
of its own resource and the state reported for it; those of all other resources stay.
-/

namespace Converge

/-- What a pass records of a resource that was found in some form. -/
def Desired.recorded (desired : Desired) (options : Options) (live : Option Json) : Option Json :=
  if desired.isPresent then if options.dryRun then live else desired.settled options live
  else none

/-- What is said of the descriptors in a list is said of the resources that are to be present. -/
theorem Desired.forall_present {desired : List Desired} {P : Desired → Prop}
    (h : ∀ d, .present d ∈ desired → P (.present d)) :
    ∀ state ∈ desired, state.isPresent = true → P state := by
  intro state listed present
  cases state with
  | present d => exact h d listed
  | absent kind ns name => cases present

/-- A resource that is to be present is there after a real pass. -/
theorem Desired.settled_of_present {desired : Desired} (present : desired.isPresent = true)
    (options : Options) (live : Option Json) : ∃ v, desired.settled options live = some v := by
  have asked := desired.asked live options
  rw [settled]
  generalize desired.change live options = change at asked ⊢
  cases asked with
  | create d | recreate d v | replace d v | keep d v => exact ⟨_, rfl⟩
  | delete kind ns name v | gone kind ns name => cases present

/-- A resource that is to be absent is gone after a real pass. -/
theorem Desired.settled_of_absent {desired : Desired} (absent : desired.isPresent = false)
    (options : Options) (live : Option Json) : desired.settled options live = none := by
  have asked := desired.asked live options
  rw [settled]
  generalize desired.change live options = change at asked ⊢
  cases asked with
  | create d | recreate d v | replace d v | keep d v => cases absent
  | delete kind ns name v | gone kind ns name => rfl

theorem Desired.recorded_of_present {desired : Desired} (present : desired.isPresent = true)
    {options : Options} (real : options.dryRun = false) (live : Option Json) :
    desired.recorded options live = desired.settled options live := by
  rw [recorded, if_pos present, real, if_neg Bool.false_ne_true]

theorem Memory.outcome_state (m : Memory) (options : Options) {desired : Desired}
    (head : desired.KeepsHead) :
    (m.outcome options desired).state =
      desired.recorded options (m.objects.get? desired.key) := by
  rw [outcome, Desired.recorded]
  cases dry : options.dryRun with
  | true => rw [settle, if_pos dry, if_pos rfl]
  | false => rw [get?_settle m dry head, if_pos rfl, if_neg Bool.false_ne_true]

structure Standing where
  cluster : Memory
  report : Report

namespace Standing

/-- What a visit leaves. -/
def visit (noun : String) (options : Options) (ensured : List String) (s : Standing)
    (desired : Desired) : Standing :=
  ⟨s.cluster.visited options ensured desired,
    s.cluster.report noun options ensured desired s.report⟩

/-- What visits to some resources, one after another, leave. -/
def tour (noun : String) (options : Options) :
    List String → List Desired → Standing → Standing
  | _, [], s => s
  | ensured, first :: rest, s =>
    tour noun options (first.ensuredWith ensured) rest (s.visit noun options ensured first)

section Tours

variable {noun : String} {options : Options} {ensured : List String} {desired : List Desired}
  {s : Standing}

theorem tour_append (noun : String) (options : Options) (ensured : List String)
    (first later : List Desired) (s : Standing) :
    tour noun options ensured (first ++ later) s =
      tour noun options (ensuredAfter first ensured) later (tour noun options ensured first s) := by
  induction first generalizing ensured s with
  | nil => rfl
  | cons state rest ih => exact ih (state.ensuredWith ensured) (s.visit noun options ensured state)

/-- A run that meets no invalid namespace is a tour. -/
theorem run_tour (noun : String) (options : Options) (ensured : List String) (s : Standing)
    (heads : ∀ d ∈ desired, d.KeepsHead)
    (names : ∀ d ∈ desired, d.isPresent = true → isName d.ns = true) :
    (reconcileFrom noun options ensured desired s.report).run Memory.client s.cluster =
      ((.ok (), (tour noun options ensured desired s).report),
        (tour noun options ensured desired s).cluster) := by
  induction desired generalizing ensured s with
  | nil => rfl
  | cons first rest ih =>
    have good : first.opensNamespace ensured = true → isName first.ns = true := fun opens =>
      names first List.mem_cons_self (Desired.opensNamespace_iff.mp opens).1
    rw [Memory.run_next s.cluster noun options (heads first List.mem_cons_self) good]
    exact ih (first.ensuredWith ensured) (s.visit noun options ensured first)
      (fun d later => heads d (List.mem_cons_of_mem _ later))
      (fun d later => names d (List.mem_cons_of_mem _ later))

/-- A dry tour leaves the cluster as it is. -/
theorem tour_dry (dry : options.dryRun = true) :
    (tour noun options ensured desired s).cluster = s.cluster := by
  induction desired generalizing ensured s with
  | nil => rfl
  | cons first rest ih => exact ih.trans (Memory.visited_dry s.cluster dry ensured first)

/-! ## What a visit records -/

theorem visit_resources {state : Desired} (head : state.KeepsHead) (key : String) :
    (s.visit noun options ensured state).report.resources.get? key =
      if state.reportKey = key then
        (state.recorded options (s.cluster.objects.get? state.key)).or (s.report.resources.get? key)
      else s.report.resources.get? key := by
  rw [visit, Memory.report, Report.record_get?, Report.recordNamespace_resources,
    Memory.outcome_state _ options head, Memory.readied_objects]
  rfl

/-! ## What a tour leaves alone -/

theorem tour_objects (heads : ∀ d ∈ desired, d.KeepsHead) {k : ObjectKey}
    (unlisted : k ∉ desired.map Desired.key) :
    (tour noun options ensured desired s).cluster.objects.get? k = s.cluster.objects.get? k := by
  cases mode : options.dryRun with
  | true => rw [tour_dry mode]
  | false =>
    induction desired generalizing ensured s with
    | nil => rfl
    | cons first rest ih =>
      obtain ⟨other, unlisted⟩ := not_or.mp fun listed => unlisted (List.mem_cons.mpr listed)
      have kept := Memory.visited_objects s.cluster mode ensured (heads first List.mem_cons_self) k
      rw [if_neg fun same => other same.symm] at kept
      exact (ih (fun d later => heads d (List.mem_cons_of_mem _ later)) unlisted).trans kept

/-- Only a resource that is to be present has its state recorded. -/
theorem tour_resources (heads : ∀ d ∈ desired, d.KeepsHead) {key : String}
    (unlisted : ∀ d ∈ desired, d.isPresent = true → d.reportKey ≠ key) :
    (tour noun options ensured desired s).report.resources.get? key =
      s.report.resources.get? key := by
  induction desired generalizing ensured s with
  | nil => rfl
  | cons first rest ih =>
    have kept : (s.visit noun options ensured first).report.resources.get? key =
        s.report.resources.get? key := by
      rw [visit_resources (heads first List.mem_cons_self)]
      split
      · next same =>
        have absent : first.isPresent ≠ true := fun present =>
          unlisted first List.mem_cons_self present same
        rw [Desired.recorded, if_neg absent, Option.none_or]
      · rfl
    exact (ih (fun d later => heads d (List.mem_cons_of_mem _ later))
      (fun d later => unlisted d (List.mem_cons_of_mem _ later))).trans kept

/-- What is recorded may be replaced, but is not taken out again. -/
theorem tour_keeps_record (heads : ∀ d ∈ desired, d.KeepsHead) {key : String} {v : Json}
    (recorded : s.report.resources.get? key = some v) :
    ∃ w, (tour noun options ensured desired s).report.resources.get? key = some w := by
  induction desired generalizing ensured s v with
  | nil => exact ⟨v, recorded⟩
  | cons first rest ih =>
    have still : ∃ w, (s.visit noun options ensured first).report.resources.get? key = some w := by
      rw [visit_resources (heads first List.mem_cons_self), recorded]
      split
      · cases first.recorded options (s.cluster.objects.get? first.key) with
        | none => exact ⟨v, rfl⟩
        | some w => exact ⟨w, rfl⟩
      · exact ⟨v, rfl⟩
    obtain ⟨w, later⟩ := still
    exact ih (fun d later => heads d (List.mem_cons_of_mem _ later)) later

/-! ## The last visit to a resource -/

section Last

variable {before after : List Desired} {state : Desired}

/-- The last visit to a resource decides what is filed for it. -/
theorem tour_last_object (real : options.dryRun = false)
    (heads : ∀ d ∈ before ++ state :: after, d.KeepsHead)
    (last : state.key ∉ after.map Desired.key) :
    (tour noun options ensured (before ++ state :: after) s).cluster.objects.get? state.key =
      state.settled options
        ((tour noun options ensured before s).cluster.objects.get? state.key) := by
  obtain ⟨_, later⟩ := List.forall_mem_append.mp heads
  obtain ⟨head, later⟩ := List.forall_mem_cons.mp later
  rw [tour_append]
  refine (tour_objects later last).trans ?_
  rw [visit, Memory.visited_objects _ real _ head, if_pos rfl]

/-- The last visit to a resource decides what is recorded of it, unless it records nothing. -/
theorem tour_last_record (heads : ∀ d ∈ before ++ state :: after, d.KeepsHead)
    (last : ∀ d ∈ after, d.isPresent = true → d.reportKey ≠ state.reportKey) :
    (tour noun options ensured (before ++ state :: after) s).report.resources.get?
        state.reportKey =
      (state.recorded options
        ((tour noun options ensured before s).cluster.objects.get? state.key)).or
        ((tour noun options ensured before s).report.resources.get? state.reportKey) := by
  obtain ⟨_, later⟩ := List.forall_mem_append.mp heads
  obtain ⟨head, later⟩ := List.forall_mem_cons.mp later
  rw [tour_append]
  refine (tour_resources later last).trans ?_
  rw [visit_resources head, if_pos rfl]

end Last

end Tours

end Standing

end Converge
