import Converge.Proofs.Convergence
import Converge.Proofs.Tour

/-!
# The facts of a report

A report should hold the state of every resource that was to be present and is there. But what
is recorded stays recorded, so a resource that is to be present and later, last of all, to be
absent leaves a state behind that nothing has any more. In no other way does the report of a
real run go wrong about a resource.
-/

namespace Converge

/-- The report has the states of those resources that were to be present and are there, and no
other state. -/
def Report.TrueTo (report : Report) (desired : List Desired) (m : Memory) : Prop :=
  ∀ key v, report.resources.get? key = some v ↔
    ∃ d, .present d ∈ desired ∧ Report.resourceKey d.kind d.ns d.name = key ∧
      m.find? d.kind d.ns d.name = some v

/-- A resource is to be present, and later, last of all, to be absent. -/
def Forsaken (desired : List Desired) (d : Descriptor) : Prop :=
  ∃ before after, desired = before ++ .absent d.kind d.ns d.name :: after ∧
    .present d ∈ before ∧ ∀ state ∈ after, state.identity ≠ (d.kind, d.ns, d.name)

theorem Forsaken.listed {desired : List Desired} {d : Descriptor} (h : Forsaken desired d) :
    .present d ∈ desired := by
  obtain ⟨before, after, rfl, listed, _⟩ := h
  exact List.mem_append_left _ listed

/-- A resource that is mentioned is mentioned for the last time somewhere. -/
theorem exists_last_mention {desired : List Desired} {who : Kind × String × String}
    (mentioned : who ∈ desired.map Desired.identity) :
    ∃ before state after, desired = before ++ state :: after ∧ state.identity = who ∧
      ∀ d ∈ after, d.identity ≠ who := by
  induction desired with
  | nil => cases mentioned
  | cons first rest ih =>
    by_cases again : who ∈ rest.map Desired.identity
    · obtain ⟨before, state, after, rfl, same, last⟩ := ih again
      exact ⟨first :: before, state, after, rfl, same, last⟩
    · rcases List.mem_cons.mp mentioned with same | later
      · refine ⟨[], first, rest, rfl, same.symm, fun d listed other => again ?_⟩
        exact other ▸ List.mem_map_of_mem listed
      · exact absurd later again

namespace Standing

section Last

variable (noun : String) {options : Options} {before after : List Desired} {state : Desired}
  (s : Standing)

/-- The last mention of a resource decides what is filed for it and what is recorded of it. -/
theorem tour_last (real : options.dryRun = false)
    (heads : ∀ d ∈ before ++ state :: after, d.KeepsHead) (named : state.Named)
    (names : ∀ d ∈ after, d.isPresent = true → d.Named)
    (last : ∀ d ∈ after, d.identity ≠ state.identity) :
    let first := tour noun options [] before s
    let whole := tour noun options [] (before ++ state :: after) s
    whole.cluster.objects.get? state.key =
        state.settled options (first.cluster.objects.get? state.key) ∧
      whole.report.resources.get? state.reportKey =
        (state.recorded options (first.cluster.objects.get? state.key)).or
          (first.report.resources.get? state.reportKey) := by
  refine ⟨tour_last_object real heads ?_, tour_last_record heads ?_⟩
  · intro listed
    obtain ⟨d, listed, same⟩ := List.mem_map.mp listed
    exact last d listed (Desired.identity_eq_of_key_eq same)
  · intro d listed present same
    exact last d listed (Desired.identity_eq_of_reportKey_eq (names d listed present) named same)

/-- What a real visit to a resource that is to be present records is kept. -/
theorem tour_recorded (real : options.dryRun = false) {desired : List Desired}
    (heads : ∀ d ∈ desired, d.KeepsHead) (listed : state ∈ desired)
    (present : state.isPresent = true) (ensured : List String) :
    ∃ v, (tour noun options ensured desired s).report.resources.get? state.reportKey = some v := by
  obtain ⟨before, after, rfl⟩ := List.append_of_mem listed
  obtain ⟨_, head⟩ := List.forall_mem_append.mp heads
  obtain ⟨head, later⟩ := List.forall_mem_cons.mp head
  rw [tour_append]
  generalize tour noun options ensured before s = between
  obtain ⟨v, settled⟩ :=
    Desired.settled_of_present present options (between.cluster.objects.get? state.key)
  refine tour_keeps_record later (v := v) ?_
  rw [visit_resources head, if_pos rfl, Desired.recorded_of_present present real, settled]
  rfl

end Last

/-- A tour that begins with an empty report records states of resources that are to be present,
and of no others. -/
theorem exists_present_of_recorded (noun : String) (options : Options) (ensured : List String)
    {desired : List Desired} (heads : ∀ d ∈ desired, d.KeepsHead) {s : Standing}
    (empty : s.report = .empty) (key : String) (v : Json)
    (recorded : (tour noun options ensured desired s).report.resources.get? key = some v) :
    ∃ d, .present d ∈ desired ∧ Report.resourceKey d.kind d.ns d.name = key := by
  by_contra unlisted
  have untouched : ∀ d ∈ desired, d.isPresent = true → d.reportKey ≠ key :=
    Desired.forall_present fun d listed same => unlisted ⟨d, listed, same⟩
  rw [tour_resources heads untouched, empty] at recorded
  cases recorded

section Facts

variable (noun : String) {options : Options} {desired : List Desired} (s : Standing)
  {d : Descriptor}

theorem tour_forsaken (real : options.dryRun = false) (heads : ∀ d ∈ desired, d.KeepsHead)
    (names : ∀ d, .present d ∈ desired → (Desired.present d).Named)
    (forsaken : Forsaken desired d) :
    (tour noun options [] desired s).cluster.find? d.kind d.ns d.name = none ∧
      ∃ v, (tour noun options [] desired s).report.resources.get?
        (Report.resourceKey d.kind d.ns d.name) = some v := by
  obtain ⟨before, after, rfl, listed, last⟩ := forsaken
  have named : (Desired.absent d.kind d.ns d.name).Named :=
    names d (List.mem_append_left _ listed)
  have others : ∀ state ∈ after, state.isPresent = true → state.Named :=
    Desired.forall_present fun e later => names e (by simp [later])
  obtain ⟨filed, recorded⟩ := tour_last noun s real heads named others last
  refine ⟨filed.trans (Desired.settled_of_absent rfl options _), ?_⟩
  obtain ⟨v, kept⟩ := tour_recorded noun s real
    (fun d early => heads d (List.mem_append_left _ early)) listed rfl []
  refine ⟨v, recorded.trans ?_⟩
  exact kept

theorem tour_unforsaken (real : options.dryRun = false) (heads : ∀ d ∈ desired, d.KeepsHead)
    (names : ∀ d, .present d ∈ desired → (Desired.present d).Named)
    (listed : .present d ∈ desired) (faithful : ¬ Forsaken desired d) :
    ∃ v, (tour noun options [] desired s).cluster.find? d.kind d.ns d.name = some v ∧
      (tour noun options [] desired s).report.resources.get?
        (Report.resourceKey d.kind d.ns d.name) = some v := by
  obtain ⟨before, state, after, rfl, same, last⟩ :=
    exists_last_mention (List.mem_map_of_mem (f := Desired.identity) listed)
  have others : ∀ state ∈ after, state.isPresent = true → state.Named :=
    Desired.forall_present fun e later => names e (by simp [later])
  cases state with
  | present e =>
    have named : (Desired.present e).Named := names e (by simp)
    obtain ⟨filed, recorded⟩ :=
      tour_last noun s real heads named others (same ▸ last)
    have wanted : (Desired.present e).isPresent = true := rfl
    obtain ⟨v, settled⟩ := Desired.settled_of_present wanted options
      ((tour noun options [] before s).cluster.objects.get? (Desired.present e).key)
    rw [settled] at filed
    rw [Desired.recorded_of_present wanted real, settled] at recorded
    obtain ⟨kind, ns, name⟩ : e.kind = d.kind ∧ e.ns = d.ns ∧ e.name = d.name := by
      simpa [Desired.identity, Desired.kind, Desired.ns, Desired.name] using same
    rw [← kind, ← ns, ← name]
    exact ⟨v, filed, recorded⟩
  | absent kind ns name =>
    obtain ⟨rfl, rfl, rfl⟩ : kind = d.kind ∧ ns = d.ns ∧ name = d.name := by
      simpa [Desired.identity, Desired.kind, Desired.ns, Desired.name] using same
    -- The resource is wanted before this mention: what comes later is about others.
    refine absurd ⟨before, after, rfl, ?_, last⟩ faithful
    rcases List.mem_append.mp listed with early | late
    · exact early
    · rcases List.mem_cons.mp late with impossible | later
      · cases impossible
      · exact absurd rfl (last _ later)

end Facts

end Standing

/-- A real run over resources with names succeeds, and its report is true to the cluster exactly
if no resource is forsaken. The report has a state for each resource that was to be present, and
for no other: for one that is forsaken the state is that of a resource which is gone, and for
each other one that in which it is. -/
theorem report_true_iff (noun : String) {options : Options} (real : options.dryRun = false)
    {desired : List Desired} (heads : ∀ d, .present d ∈ desired → d.KeepsHead)
    (names : ∀ d, .present d ∈ desired → isName d.ns = true ∧ isName d.name = true) (m : Memory) :
    ∃ report after,
      (reconcileAll noun options desired .empty).run Memory.client m =
        ((.ok (), report), after) ∧
      (report.TrueTo desired after ↔ ¬ ∃ d, Forsaken desired d) ∧
      (∀ d, Forsaken desired d → after.find? d.kind d.ns d.name = none ∧
        ∃ v, report.resources.get? (Report.resourceKey d.kind d.ns d.name) = some v) ∧
      (∀ d, .present d ∈ desired → ¬ Forsaken desired d →
        ∃ v, after.find? d.kind d.ns d.name = some v ∧
          report.resources.get? (Report.resourceKey d.kind d.ns d.name) = some v) ∧
      ∀ key v, report.resources.get? key = some v →
        ∃ d, .present d ∈ desired ∧ Report.resourceKey d.kind d.ns d.name = key := by
  have keeps := Desired.keepsHead_of heads
  have places : ∀ d ∈ desired, d.isPresent = true → isName d.ns = true :=
    Desired.forall_present fun d listed => (names d listed).1
  have ran := Standing.run_tour noun options [] ⟨m, .empty⟩ keeps places
  have gone := fun d => Standing.tour_forsaken noun ⟨m, .empty⟩ (d := d) real keeps names
  have there := fun d => Standing.tour_unforsaken noun ⟨m, .empty⟩ (d := d) real keeps names
  have listed := Standing.exists_present_of_recorded noun options [] keeps
    (show (⟨m, .empty⟩ : Standing).report = .empty from rfl)
  generalize Standing.tour noun options [] desired ⟨m, .empty⟩ = s at ran gone there listed
  refine ⟨s.report, s.cluster, ran, ⟨?_, ?_⟩, gone, there, listed⟩
  · rintro agrees ⟨d, forsaken⟩
    obtain ⟨missing, v, recorded⟩ := gone d forsaken
    obtain ⟨e, present, same, found⟩ := (agrees _ v).mp recorded
    have ours := names d forsaken.listed
    have theirs := names e present
    obtain ⟨kind, ns, name⟩ :=
      Report.resourceKey_injective theirs.1 ours.1 theirs.2 ours.2 same
    rw [kind, ns, name, missing] at found
    cases found
  · intro faithful key v
    constructor
    · intro recorded
      obtain ⟨d, present, rfl⟩ := listed key v recorded
      obtain ⟨w, found, same⟩ := there d present fun forsaken => faithful ⟨d, forsaken⟩
      rw [recorded] at same
      cases same
      exact ⟨d, present, rfl, found⟩
    · rintro ⟨d, present, rfl, found⟩
      obtain ⟨w, same, recorded⟩ := there d present fun forsaken => faithful ⟨d, forsaken⟩
      rw [found] at same
      cases same
      exact recorded

namespace Fleeting

def data : Descriptor := .bare .persistentVolumeClaim "data" "shop" .empty

def desired : List Desired := [.present data, .absent .persistentVolumeClaim "shop" "data"]

theorem forsaken_data : Forsaken desired data :=
  ⟨[.present data], [], rfl, List.mem_cons_self, List.forall_mem_nil _⟩

end Fleeting

open Fleeting in
/-- The volume claim is gone, and the report still has its state. -/
theorem report_true_iff_fleeting :
    (∀ d, .present d ∈ desired → d.KeepsHead) ∧
    (∀ d, .present d ∈ desired → isName d.ns = true ∧ isName d.name = true) ∧
    ∃ report after,
      (reconcileAll "namespace" ⟨false, false, false⟩ desired .empty).run Memory.client
        (.ofContents ["shop"] []) = ((.ok (), report), after) ∧
      ¬ report.TrueTo desired after ∧
      after.find? .persistentVolumeClaim "shop" "data" = none ∧
      ∃ v, report.resources.get? "shop/data_pvc" = some v := by
  have heads : ∀ d, .present d ∈ desired → d.KeepsHead := by
    intro d listed
    obtain rfl : d = data := by simpa [desired] using listed
    decide
  have names : ∀ d, .present d ∈ desired → isName d.ns = true ∧ isName d.name = true := by
    intro d listed
    obtain rfl : d = data := by simpa [desired] using listed
    decide
  have real : (⟨false, false, false⟩ : Options).dryRun = false := rfl
  obtain ⟨report, after, ran, agrees, gone, _⟩ :=
    report_true_iff "namespace" real heads names (.ofContents ["shop"] [])
  obtain ⟨missing, recorded⟩ := gone data forsaken_data
  exact ⟨heads, names, report, after, ran, fun faithful =>
    agrees.mp faithful ⟨data, forsaken_data⟩, missing, recorded⟩

end Converge
