import Converge.Proofs.CheckMode
import Converge.Proofs.Convergence
import Converge.Proofs.Holdings
import Converge.Proofs.Namespaces

/-!
# Runs one after another

A real run over some resources and then others does what two runs do, the second of which goes
on with the report of the first. Only the second one looks again at the namespaces that the
first has ensured. It finds them all: a namespace that was ensured has a name, and stays in the
cluster whatever is said later.
-/

namespace Converge

namespace Memory

variable {m m' : Memory} {t : List Exchange}

/-- A cluster in memory loses no namespace. -/
theorem Taking.keeps_namespaces {e : Exchange} (h : m.Taking e m') :
    m.namespaces ⊆ m'.namespaces := by
  cases h with
  | founded ns free => exact fun _ inside => mem_addNamespace.mpr (Or.inl inside)
  | _ => exact List.Subset.refl _

theorem namespaces_kept (h : client.Answers m t m') : m.namespaces ⊆ m'.namespaces := by
  induction h with
  | nothing m => exact List.Subset.refl _
  | next c _ ih => exact List.Subset.trans (answer_taking _ c).keeps_namespaces ih

/-- A namespace that was ensured is in the cluster afterwards. -/
theorem mem_namespaces_of_ensured {ns : String} (h : client.Answers m t m')
    (ensured : Ensured false ns t) : ns ∈ m'.namespaces := by
  have after {e : Exchange} (said : e ∈ t)
      (found : ∀ first second, Memory.Taking first e second → ns ∈ second.namespaces) :
      ns ∈ m'.namespaces := by
    obtain ⟨before, later, rfl⟩ := List.append_of_mem said
    obtain ⟨first, second, _, taking, back⟩ := answers_split h
    exact namespaces_kept back (found first second taking)
  cases ensured with
  | there found =>
    refine after found fun first second taking => ?_
    obtain ⟨answered, rfl⟩ := taking.of_search
    exact hasNamespace_iff.mp (Except.ok.inj answered).symm
  | missing dry => cases dry
  | created real looked made =>
    refine after made fun first second taking => ?_
    cases taking with
    | founded ns free => exact mem_addNamespace.mpr (Or.inr rfl)
  | raced real looked failure race lost =>
    refine after lost fun first second taking => ?_
    cases taking with
    | raced ns there => exact hasNamespace_iff.mp there

def Houses (m : Memory) (known : List String) : Prop :=
  ∀ ns ∈ known, isName ns = true ∧ ns ∈ m.namespaces

theorem Houses.run {α : Type} {known : List String} (housed : m.Houses known) (d : Dialogue α) :
    (d.run client m).2.Houses known := fun ns listed =>
  ⟨(housed ns listed).1, namespaces_kept (client.answers_transcript d m) (housed ns listed).2⟩

end Memory

/-! ## Namespaces that are looked up have names -/

section Names

variable {noun : String} {options : Options} {ensured : List String} {report after : Report}
  {t : List Exchange} {ns : String}

theorem Preparing.isName_of_lookup {desired : Desired} {r : Except Failure Bool}
    (h : Preparing options ensured desired t r) (looked : ns ∈ lookups t) : isName ns = true := by
  rcases h.lookups_cases with none | ⟨one, _⟩
  · rw [none] at looked
    cases looked
  · cases h with
    | known closed => cases one
    | ensured opens look =>
      rw [one, List.mem_singleton] at looked
      subst looked
      cases look with
      | misnamed bad => cases one
      | unseen good | there good | missing good | created good | raced good | refused good =>
        exact good

theorem Visiting.isName_of_lookup {desired : Desired} {r : Except Failure Unit}
    (h : Visiting noun options ensured desired report t r after) (looked : ns ∈ lookups t) :
    isName ns = true := by
  cases h with
  | unprepared prepared => exact prepared.isName_of_lookup looked
  | failed prepared pass | passed prepared pass =>
    rw [lookups_append, lookups_aboutResource pass.aboutResource, List.append_nil] at looked
    exact prepared.isName_of_lookup looked

theorem Running.isName_of_lookup {desired : List Desired} {r : Except Failure Unit}
    (h : Running noun options ensured desired report t r after) (looked : ns ∈ lookups t) :
    isName ns = true := by
  induction h with
  | finished => cases looked
  | stopped rest visit => exact visit.isName_of_lookup looked
  | next visit others ih =>
    rw [lookups_append] at looked
    exact (List.mem_append.mp looked).elim visit.isName_of_lookup ih

end Names

theorem Ensured.looked {dryRun : Bool} {ns : String} {t : List Exchange}
    (h : Ensured dryRun ns t) : ns ∈ lookups t := by
  refine List.mem_filterMap.mpr ?_
  cases h with
  | there found => exact ⟨_, found, rfl⟩
  | missing _ looked | created _ looked | raced _ looked => exact ⟨_, looked, rfl⟩

/-- If a run from no ensured namespace ends well, the namespaces that it has ensured are those
that it has looked up. -/
theorem Running.mem_ensuredAfter_iff {noun : String} {options : Options} {desired : List Desired}
    {report after : Report} {t : List Exchange}
    (h : Running noun options [] desired report t (.ok ()) after) {ns : String} :
    ns ∈ ensuredAfter desired [] ↔ ns ∈ lookups t := by
  rw [mem_ensuredAfter]
  constructor
  · rintro (none | ⟨state, listed, present, rfl⟩)
    · cases none
    · rcases h.secures listed present with none | secured
      · cases none
      · exact secured.looked
  · exact fun looked => Or.inr (h.lookups_nodup.2 ns looked).2

theorem Running.houses {noun : String} {options : Options} (real : options.dryRun = false)
    {desired : List Desired} {report after : Report} {t : List Exchange}
    (h : Running noun options [] desired report t (.ok ()) after) {m m' : Memory}
    (answers : Memory.client.Answers m t m') : m'.Houses (lookups t) := by
  intro ns looked
  refine ⟨h.isName_of_lookup looked, ?_⟩
  obtain ⟨_, state, listed, present, rfl⟩ := h.lookups_nodup.2 ns looked
  rcases h.secures listed present with none | secured
  · cases none
  · rw [real] at secured
    exact Memory.mem_namespaces_of_ensured answers secured

/-! ## Looks that are left out -/

def Call.looksAmong (c : Call) (known : List String) : Bool :=
  c.lookedUp?.any known.contains

def without (known : List String) (t : List Exchange) : List Exchange :=
  t.filter fun e => !e.1.looksAmong known

theorem without_append (known : List String) (t u : List Exchange) :
    without known (t ++ u) = without known t ++ without known u :=
  List.filter_append t u

theorem without_of_disjoint {known : List String} {t : List Exchange}
    (other : ∀ ns ∈ lookups t, ns ∉ known) : without known t = t := by
  refine List.filter_eq_self.mpr fun e said => ?_
  rw [Call.looksAmong]
  cases looked : e.1.lookedUp? with
  | none => rfl
  | some ns => simpa using other ns (List.mem_filterMap.mpr ⟨e, said, looked⟩)

section Known

variable (noun : String) (options : Options) {ensured fresh known : List String} {m : Memory}

theorem transcript_ensureNamespace_there {ns : String} (good : isName ns = true)
    (there : ns ∈ m.namespaces) (dryRun : Bool) :
    (ensureNamespace ns dryRun).run.transcript Memory.client m =
      [⟨.namespaceExists ns, .ok true⟩] := by
  have found : m.hasNamespace ns = true := Memory.hasNamespace_iff.mpr there
  have ended := Memory.run_ensureNamespace m good dryRun
  have said :=
    ensureNamespace_trace (Dialogue.trace_run Memory.client (ensureNamespace ns dryRun).run m)
  have answers := Memory.client.answers_transcript (ensureNamespace ns dryRun).run m
  rw [ended, found] at said
  generalize (ensureNamespace ns dryRun).run.transcript Memory.client m = t at said answers
  cases said with
  | there good => rfl
  | raced good real failure race =>
    obtain ⟨_, taking, _⟩ := Memory.answers_cons answers
    obtain ⟨answered, _⟩ := taking.of_search
    rw [found] at answered
    cases answered

/-- A visit to a resource whose namespace is known does without the look at it. -/
theorem visit_known {desired : Desired} (opens : desired.opensNamespace fresh = true)
    (closed : desired.opensNamespace ensured = false) (good : isName desired.ns = true)
    (there : desired.ns ∈ m.namespaces) (report : Report) :
    (visit noun options fresh desired report).run Memory.client m =
        (visit noun options ensured desired report).run Memory.client m ∧
      (visit noun options fresh desired report).transcript Memory.client m =
        ⟨.namespaceExists desired.ns, .ok true⟩ ::
          (visit noun options ensured desired report).transcript Memory.client m := by
  have found : m.hasNamespace desired.ns = true := Memory.hasNamespace_iff.mpr there
  have same : m.addNamespace desired.ns = m := by rw [Memory.addNamespace, if_pos found]
  have ended : (ensureNamespace desired.ns options.dryRun).run.run Memory.client m =
      (.ok true, m) := by
    rw [Memory.run_ensureNamespace m good, found, same, ite_self]
  have said := transcript_ensureNamespace_there good there options.dryRun
  rw [visit, visit, prepare, prepare, if_pos opens, closed, if_neg Bool.false_ne_true]
  constructor
  · rw [Dialogue.run_bind, ended]
    rfl
  · rw [Dialogue.transcript_bind, ended, said]
    rfl

theorem visit_congr {desired : Desired}
    (same : desired.opensNamespace fresh = desired.opensNamespace ensured) (report : Report) :
    visit noun options fresh desired report = visit noun options ensured desired report := by
  rw [visit, visit, prepare, prepare, same]

/-- Ensured namespaces are those that this run has ensured and those that are known from before.
What is known needs no look, and a look at it would change nothing. -/
theorem visit_housed (housed : m.Houses known)
    (parts : ∀ ns, ns ∈ ensured ↔ ns ∈ fresh ∨ ns ∈ known) (desired : Desired) (report : Report) :
    (visit noun options ensured desired report).run Memory.client m =
        (visit noun options fresh desired report).run Memory.client m ∧
      (visit noun options ensured desired report).transcript Memory.client m =
        without known ((visit noun options fresh desired report).transcript Memory.client m) := by
  have visiting :=
    visit_trace (Dialogue.trace_run Memory.client (visit noun options ensured desired report) m)
  have unlooked : without known ((visit noun options ensured desired report).transcript
      Memory.client m) = (visit noun options ensured desired report).transcript Memory.client m :=
    without_of_disjoint fun ns looked listed =>
      (visiting.lookups_nodup.2 ns looked).1 ((parts ns).mpr (Or.inr listed))
  by_cases again : desired.opensNamespace fresh = true ∧ desired.ns ∈ known
  · -- Only the look differs: the known namespace passes the check of its name, and is found.
    obtain ⟨opens, listed⟩ := again
    have closed : desired.opensNamespace ensured = false := by
      rw [Bool.eq_false_iff]
      exact fun new => (Desired.opensNamespace_iff.mp new).2 ((parts _).mpr (Or.inr listed))
    obtain ⟨ended, said⟩ := visit_known noun options opens closed
      (housed _ listed).1 (housed _ listed).2 report
    refine ⟨ended.symm, ?_⟩
    rw [said, without, List.filter_cons_of_neg (by simpa [Call.looksAmong, Call.lookedUp?])]
    exact unlooked.symm
  · have same : desired.opensNamespace fresh = desired.opensNamespace ensured := by
      rw [Bool.eq_iff_iff, Desired.opensNamespace_iff, Desired.opensNamespace_iff, parts]
      refine and_congr_right fun present => ⟨fun new => not_or.mpr ⟨new, fun listed => ?_⟩,
        fun new => (not_or.mp new).1⟩
      exact again ⟨Desired.opensNamespace_iff.mpr ⟨present, new⟩, listed⟩
    rw [visit_congr noun options same]
    exact ⟨rfl, unlooked.symm⟩

/-- Namespaces that are known from before change nothing in a run but its looks. -/
theorem reconcileFrom_housed (housed : m.Houses known)
    (parts : ∀ ns, ns ∈ ensured ↔ ns ∈ fresh ∨ ns ∈ known) (desired : List Desired)
    (report : Report) :
    (reconcileFrom noun options ensured desired report).run Memory.client m =
        (reconcileFrom noun options fresh desired report).run Memory.client m ∧
      (reconcileFrom noun options ensured desired report).transcript Memory.client m =
        without known
          ((reconcileFrom noun options fresh desired report).transcript Memory.client m) := by
  induction desired generalizing ensured fresh report m with
  | nil => exact ⟨rfl, rfl⟩
  | cons first rest ih =>
    obtain ⟨ended, said⟩ :=
      visit_housed noun options housed parts first report
    have still := housed.run (visit noun options fresh first report)
    rw [reconcileFrom_cons, reconcileFrom_cons, Dialogue.run_bind, Dialogue.run_bind,
      Dialogue.transcript_bind, Dialogue.transcript_bind, ended, said, without_append]
    generalize (visit noun options fresh first report).run Memory.client m = visited at still ⊢
    obtain ⟨⟨failure | _, between⟩, after⟩ := visited
    · exact ⟨rfl, rfl⟩
    · have parts' : ∀ ns, ns ∈ first.ensuredWith ensured ↔
          ns ∈ first.ensuredWith fresh ∨ ns ∈ known := fun ns => by
        rw [Desired.mem_ensuredWith, Desired.mem_ensuredWith, parts, or_right_comm]
      obtain ⟨later, told⟩ := ih still parts' between
      exact ⟨later, congrArg _ told⟩

end Known

/-- A real run over two lists of desired states, the first of which succeeds alone, ends as two
runs do, the second of which goes on with the report and the cluster that the first has left.
It says what the two say, except that it looks no namespace up again. -/
theorem reconcileAll_append (noun : String) {options : Options} (real : options.dryRun = false)
    {first : List Desired} (later : List Desired) {before between : Report} {m m' : Memory}
    (ended : (reconcileAll noun options first before).run Memory.client m =
      ((.ok (), between), m')) :
    let whole := reconcileAll noun options (first ++ later) before
    let opening := (reconcileAll noun options first before).transcript Memory.client m
    let second := reconcileAll noun options later between
    whole.run Memory.client m = second.run Memory.client m' ∧
    whole.transcript Memory.client m =
      opening ++ without (lookups opening) (second.transcript Memory.client m') ∧
    (lookups (whole.transcript Memory.client m)).Nodup := by
  intro whole opening second
  have running := reconcileAll_running Memory.client noun options first before m
  have answers := Memory.client.answers_transcript (reconcileAll noun options first before) m
  rw [ended] at running answers
  have housed : m'.Houses (lookups opening) := running.houses real answers
  have parts (ns : String) : ns ∈ ensuredAfter first [] ↔ ns ∈ [] ∨ ns ∈ lookups opening := by
    rw [running.mem_ensuredAfter_iff]
    simp [opening]
  obtain ⟨same, said⟩ :=
    reconcileFrom_housed noun options housed parts later between
  refine ⟨?_, ?_, (reconcileAll_running Memory.client noun options _ before m).lookups_nodup.1⟩
  · refine Eq.trans ?_ same
    simp only [whole]
    rw [reconcileAll, reconcileFrom_append, Dialogue.run_bind, ← reconcileAll, ended]
  · rw [transcript_append ended later, said]
    rfl

namespace Batch

/-- A second batch, in the namespaces of the first and in a third one. -/
def later : List Desired :=
  [.present secret, .absent .persistentVolumeClaim "store" "data",
    .present (.bare .service "web" "edge" .empty)]

end Batch

open Batch in
/-- The second run looks two namespaces up, and the run over both batches only the one that
the first batch has not ensured. -/
theorem reconcileAll_append_batch :
    let options : Options := ⟨true, false, false⟩
    let run (states : List Desired) (report : Report) (m : Memory) :=
      (reconcileAll "namespace" options states report).run Memory.client m
    let said (states : List Desired) (report : Report) (m : Memory) :=
      (reconcileAll "namespace" options states report).transcript Memory.client m
    ∃ between m', run desired .empty cluster = ((.ok (), between), m') ∧
      run (desired ++ later) .empty cluster = run later between m' ∧
      said (desired ++ later) .empty cluster =
        said desired .empty cluster ++
          without (lookups (said desired .empty cluster)) (said later between m') ∧
      (lookups (said (desired ++ later) .empty cluster)).Nodup ∧
      lookups (said later between m') = ["shop", "edge"] ∧
      lookups (said (desired ++ later) .empty cluster) = ["shop", "store", "edge"] := by
  intro options run said
  have ended : run desired .empty cluster =
      ((.ok (), (run desired .empty cluster).1.2), (run desired .empty cluster).2) := rfl
  obtain ⟨same, more, nodup⟩ := reconcileAll_append "namespace" rfl later ended
  exact ⟨_, _, ended, same, more, nodup, by decide +kernel, by decide +kernel⟩

end Converge
