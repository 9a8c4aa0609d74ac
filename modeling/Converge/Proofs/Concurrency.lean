import Converge.Proofs.Changes
import Converge.Proofs.Convergence
import Converge.Proofs.Course
import Converge.Proofs.Holdings
import Converge.Proofs.Meeting

/-!
# Concurrent runs

Any number of runs that only add resources go on at the same time on one cluster in memory.
None of them overwrites what another one has stored. A run looks before it creates, but others
may come in between, so two runs can race for one resource: the first to create it wins, and
the other one fails.
-/

namespace Converge

def Options.additive : Options := ⟨false, false, false⟩

/-- Runs that are about to see to it, each on its own, that some resources are there. -/
def company {ι : Type} (noun : String) (wanted : ι → List Descriptor) (reports : ι → Report)
    (m : Memory) : Meeting ι (Except Failure Unit × Report) Memory :=
  .begin (fun i => reconcileAll noun .additive ((wanted i).map .present) (reports i)) m

/-- A party looked for a resource and found it missing, then another one created it, and so the
last thing that the first one said was a creation that failed. -/
def Forestalled {ι : Type} (said : List (ι × Exchange)) (i : ι) (d : Descriptor)
    (failure : Failure) (stored : Json) : Prop :=
  ∃ j rival front between behind rest,
    said = front ++ (i, ⟨.get d.kind d.ns d.name, .ok none⟩) :: (between ++
      (j, ⟨.create rival, .ok stored⟩) :: (behind ++ (i, ⟨.create d, .error failure⟩) :: rest)) ∧
    (Desired.present rival).identity = (Desired.present d).identity ∧
    j ≠ i ∧ ∀ x ∈ between ++ behind ++ rest, x.1 ≠ i

theorem Wanted.isGentle {d : Descriptor} (head : d.KeepsHead) {c : Call}
    (h : Wanted .additive (.present d) c) : c.IsGentle := by
  cases h with
  | create => exact head
  | replace _ _ _ replace => cases replace
  | recreate _ recreate => cases recreate

/-- A pass whose looks succeed either creates the resource and tells so, or changes nothing. -/
theorem Passing.result_of_additive {d : Descriptor} {t : List Exchange}
    {r : Except Failure Outcome} (h : Passing .additive (.present d) t r)
    (seen : ∀ failure, (Desired.present d).look (.error failure) ∉ t) :
    (brought t = [.object (Desired.present d).key] ∧ ∃ outcome, r = .ok outcome ∧
        outcome.decision.action = .create ∧ outcome.decision.changed = true) ∨
      brought t = [] ∧ ((∃ outcome, r = .ok outcome ∧
        outcome.decision.action = .noOp ∧ outcome.decision.changed = false) ∨
          ∃ failure, r = .error failure) := by
  cases h with
  | unseen failure => exact absurd List.mem_cons_self (seen failure)
  | checked dry => cases dry
  | gone real absent => cases absent
  | lost real present live change failure =>
    exact absurd (List.mem_append_right _ List.mem_cons_self) (seen failure)
  | broken real live change =>
    cases live with
    | none =>
      cases change with
      | uncreated => exact Or.inr ⟨rfl, Or.inr ⟨_, rfl⟩⟩
    | some v => cases change
  | settled real present live change state =>
    cases live with
    | none =>
      cases change with
      | created d v => exact Or.inl ⟨rfl, _, rfl, rfl, rfl⟩
    | some v =>
      cases change with
      | nothing => exact Or.inr ⟨rfl, Or.inl ⟨_, rfl, rfl, rfl⟩⟩

section Company

variable {ι : Type} [DecidableEq ι] {noun : String} {wanted : ι → List Descriptor}
  {reports : ι → Report} {m : Memory} {schedule : List ι}

/-- What a run has said is the beginning of what it might say alone. -/
theorem company_saidBy (noun : String) (wanted : ι → List Descriptor) (reports : ι → Report)
    (m : Memory) (schedule : List ι) (i : ι) :
    ∃ more r report',
      Running noun .additive [] ((wanted i).map .present) (reports i)
        (((company noun wanted reports m).run Memory.client schedule).saidBy i ++ more) r
        report' := by
  obtain ⟨more, ⟨r, report'⟩, whole⟩ := Meeting.exists_trace_of_saidBy Memory.client
    (fun i => reconcileAll noun .additive ((wanted i).map .present) (reports i)) m schedule i
  exact ⟨more, r, report', reconcileFrom_trace whole⟩

theorem company_done {i : ι} {r : Except Failure Unit × Report}
    (done : ((company noun wanted reports m).run Memory.client schedule).parties i = .done r) :
    (reconcileAll noun .additive ((wanted i).map .present) (reports i)).Trace
      (((company noun wanted reports m).run Memory.client schedule).saidBy i) r :=
  Meeting.trace_of_done done

theorem company_answers (noun : String) (wanted : ι → List Descriptor) (reports : ι → Report)
    (m : Memory) (schedule : List ι) :
    Memory.client.Answers m ((company noun wanted reports m).run Memory.client schedule).exchanges
      ((company noun wanted reports m).run Memory.client schedule).state :=
  Meeting.begin_answers Memory.client _ m schedule

/-- A change that a run asked for is the creation of a namespace or of a wanted resource. -/
theorem company_asked {i : ι} {e : Exchange}
    (said : e ∈ ((company noun wanted reports m).run Memory.client schedule).saidBy i)
    (mutation : e.1.isMutation = true) :
    (∃ ns, e.1 = .createNamespace ns) ∨
      ∃ d ∈ wanted i, Wanted .additive (.present d) e.1 := by
  obtain ⟨more, r, report', run⟩ := company_saidBy noun wanted reports m schedule i
  rcases run.wanted e (List.mem_append_left more said) mutation with founds | ⟨state, listed, asks⟩
  · exact Or.inl founds
  · obtain ⟨d, mine, rfl⟩ := List.mem_map.mp listed
    exact Or.inr ⟨d, mine, asks⟩

theorem company_gentle (heads : ∀ i, ∀ d ∈ wanted i, d.KeepsHead) :
    ∀ e ∈ ((company noun wanted reports m).run Memory.client schedule).exchanges,
      e.1.IsGentle := by
  intro e said
  obtain ⟨i, said⟩ := Meeting.mem_exchanges.mp said
  cases mutation : e.1.isMutation with
  | false =>
    obtain ⟨c, answer⟩ := e
    cases c with
    | get | namespaceExists => trivial
    | create | replace | delete | createNamespace => cases mutation
  | true =>
    have own := Meeting.mem_saidBy.mpr said
    rcases company_asked own mutation with ⟨ns, founds⟩ | ⟨d, listed, asks⟩
    · rw [founds]
      trivial
    · exact asks.isGentle (heads i d listed)

theorem company_taken (heads : ∀ i, ∀ d ∈ wanted i, d.KeepsHead) {i : ι} {e : Exchange}
    (said : e ∈ ((company noun wanted reports m).run Memory.client schedule).saidBy i) :
    e.1.IsGentle ∧ ∃ before after : Memory, before.Taking e after := by
  have listed := Meeting.mem_exchanges.mpr ⟨i, Meeting.mem_saidBy.mp said⟩
  have answered := company_answers noun wanted reports m schedule
  obtain ⟨before, after, taking, _⟩ := Memory.taken_of_mem answered (company_gentle heads) listed
  exact ⟨company_gentle heads e listed, before, after, taking⟩

/-- The last thing that a failed run said is a creation of a resource that it had just found
missing, and what was wrong is that the resource is there. -/
theorem company_failed (heads : ∀ i, ∀ d ∈ wanted i, d.KeepsHead)
    (names : ∀ i, ∀ d ∈ wanted i, isName d.ns = true) {i : ι} {failure : Failure} {report' : Report}
    (done : ((company noun wanted reports m).run Memory.client schedule).parties i =
      .done (.error failure, report')) :
    ∃ d ∈ wanted i, ∃ before,
      ((company noun wanted reports m).run Memory.client schedule).saidBy i =
        before ++ [⟨.get d.kind d.ns d.name, .ok none⟩, ⟨.create d, .error failure⟩] ∧
      failure = Memory.alreadyExists (.create d) d.kind.name d.name "object already exists" := by
  have run := reconcileFrom_trace (company_done done)
  cases run.course with
  | misplaced flowing listed present bad =>
    obtain ⟨d, mine, rfl⟩ := List.mem_map.mp listed
    have good : isName d.ns = true := names i d mine
    rw [Desired.ns, good] at bad
    cases bad
  | stopped halting =>
    obtain ⟨before, c, said, _, fatal⟩ := halting
    have last : ⟨c, .error failure⟩ ∈
        ((company noun wanted reports m).run Memory.client schedule).saidBy i := by
      rw [said]
      exact List.mem_append_right _ List.mem_cons_self
    obtain ⟨gentle, first, second, taking⟩ := company_taken heads last
    cases taking with
    | undeleted => cases gentle
    | raced ns there => exact absurd (.raced ns _ rfl) fatal
    | occupied d v there =>
      rcases company_asked last rfl with ⟨ns, founds⟩ | ⟨d, listed, asks⟩
      · cases founds
      cases asks with
      | create =>
        obtain ⟨x, ending, clears⟩ := run.cleared.before said
        rw [Option.or_none] at ending
        obtain ⟨front, rfl⟩ := List.getLast?_eq_some_iff.mp ending
        cases clears with
        | deleted recreate => cases recreate
        | missing =>
          refine ⟨d, listed, front, ?_, rfl⟩
          rw [said, List.append_assoc]
          rfl

/-- A failed run was forestalled by another one. -/
theorem company_forestalled (heads : ∀ i, ∀ d ∈ wanted i, d.KeepsHead)
    (names : ∀ i, ∀ d ∈ wanted i, isName d.ns = true) {i : ι} {failure : Failure} {report' : Report}
    (done : ((company noun wanted reports m).run Memory.client schedule).parties i =
      .done (.error failure, report')) :
    failure.isAlreadyExists = true ∧ ∃ d ∈ wanted i, ∃ stored,
      Forestalled ((company noun wanted reports m).run Memory.client schedule).said i d failure
        stored ∧
      ((company noun wanted reports m).run Memory.client schedule).state.objects.get?
        (Desired.present d).key = some stored := by
  obtain ⟨d, listed, before, succession, rfl⟩ := company_failed heads names done
  have answered := company_answers noun wanted reports m schedule
  have gentle : ∀ e ∈ ((company noun wanted reports m).run Memory.client schedule).exchanges,
      e.1.IsGentle := company_gentle heads
  obtain ⟨front, between, rest, said, foreign⟩ := Meeting.said_of_succession succession
  -- the creation failed, so someone created the resource after the look that found it missing
  have made : .object (Desired.present d).key ∈ brought (between.map (·.2)) := by
    have told := answered
    simp only [Meeting.exchanges, said, List.map_append, List.map_cons] at told
    refine Memory.brought_between (heads i d listed) told fun e others => gentle e ?_
    simp only [Meeting.exchanges, said, List.map_append, List.map_cons]
    exact List.mem_append_right _ (List.mem_cons_of_mem _ (List.mem_append_left _ others))
  obtain ⟨e, others, brings⟩ := List.mem_filterMap.mp made
  obtain ⟨⟨j, e⟩, rivals, rfl⟩ := List.mem_map.mp others
  obtain ⟨rival, stored, rfl, same⟩ := created_of_brings brings
  have other : j ≠ i := foreign _ (List.mem_append_left rest rivals)
  obtain ⟨between, behind, rfl⟩ := List.append_of_mem rivals
  refine ⟨rfl, d, listed, stored, ⟨j, rival, front, between, behind, rest, ?_, ?_, other, ?_⟩, ?_⟩
  · rw [said, List.append_assoc, List.cons_append]
  · exact Desired.identity_eq_of_key_eq same
  · intro x inside
    refine foreign x ?_
    simp only [List.mem_append, List.mem_cons] at inside ⊢
    rcases inside with (first | second) | last
    · exact Or.inl (Or.inl first)
    · exact Or.inl (Or.inr (Or.inr second))
    · exact Or.inr last
  · rw [← same]
    refine Memory.stored_of_created answered gentle (Meeting.mem_exchanges.mpr ⟨j, ?_⟩)
    simp [said]

end Company

/-- Runs that only add resources may go on at the same time, in any number and in any order of
their calls. What is stored stays as it is. No resource is created twice. A finished pass over
a resource has created it and tells so, or has created nothing and tells that, or has failed;
and a run that ends well has made a pass over all of its resources. A run fails only if it
was forestalled: another run has created one of its resources after it had looked for it. -/
theorem concurrent_runs_overwrite_nothing {ι : Type} [DecidableEq ι] (noun : String)
    {wanted : ι → List Descriptor} (heads : ∀ i, ∀ d ∈ wanted i, d.KeepsHead)
    (names : ∀ i, ∀ d ∈ wanted i, isName d.ns = true) (reports : ι → Report) (m : Memory)
    (schedule : List ι) :
    let runs := fun i => reconcileAll noun .additive ((wanted i).map .present) (reports i)
    let after := (Meeting.begin runs m).run Memory.client schedule
    (∀ more k v, after.state.objects.get? k = some v →
      (after.run Memory.client more).state.objects.get? k = some v) ∧
    (brought after.exchanges).Nodup ∧
    (∀ i d t r, (runs i).Comprises (after.saidBy i) (reconcile .additive (.present d)).run t r →
      (brought t = [.object (Desired.present d).key] ∧ ∃ outcome, r = .ok outcome ∧
        outcome.decision.action = .create ∧ outcome.decision.changed = true) ∨
      (brought t = [] ∧ ((∃ outcome, r = .ok outcome ∧
        outcome.decision.action = .noOp ∧ outcome.decision.changed = false) ∨
          ∃ failure, r = .error failure))) ∧
    (∀ i report', after.parties i = .done (.ok (), report') → ∀ d ∈ wanted i, ∃ t outcome,
      (runs i).Comprises (after.saidBy i) (reconcile .additive (.present d)).run t (.ok outcome)) ∧
    (∀ i failure report', after.parties i = .done (.error failure, report') →
      failure.isAlreadyExists = true ∧ ∃ d ∈ wanted i, ∃ stored,
        Forestalled after.said i d failure stored ∧
        after.state.objects.get? (Desired.present d).key = some stored) := by
  intro runs after
  have answered : Memory.client.Answers m after.exchanges after.state :=
    company_answers noun wanted reports m schedule
  have gentle : ∀ e ∈ after.exchanges, e.1.IsGentle := company_gentle heads
  refine ⟨?_, (Memory.grows_by_brought answered gentle).2.1, ?_, ?_, ?_⟩
  · intro more k v there
    obtain ⟨later, said, answered⟩ := Meeting.run_answers Memory.client after more
    refine Memory.keeps_objects answered ?_ there
    intro e listed
    have whole : ∀ e ∈ ((company noun wanted reports m).run Memory.client
        (schedule ++ more)).exchanges, e.1.IsGentle := company_gentle heads
    refine whole e ?_
    rw [Meeting.run_append, Meeting.exchanges]
    show e ∈ ((after.run Memory.client more).said.map (·.2))
    rw [said, List.map_append]
    exact List.mem_append_right _ listed
  · intro i d t r comprised
    obtain ⟨before, later, next, said, _, passed⟩ := comprised
    refine (reconcile_trace passed).result_of_additive ?_
    intro failure unseen
    have listed : (Desired.present d).look (.error failure) ∈ after.saidBy i := by
      rw [said]
      exact List.mem_append_left _ (List.mem_append_right _ unseen)
    obtain ⟨_, first, second, taking⟩ := company_taken heads listed
    obtain ⟨impossible, _⟩ := taking.of_look
    cases impossible
  · intro i report' done d listed
    exact comprises_of_finished (company_done done) (List.mem_map_of_mem listed)
  · intro i failure report' done
    exact company_forestalled heads names done

namespace Rivals

def wanted (_ : Fin 2) : List Descriptor := [Batch.data]

def meeting : Meeting (Fin 2) (Except Failure Unit × Report) Memory :=
  (company "namespace" wanted (fun _ => .empty) .empty).run Memory.client
    [0, 1, 0, 1, 0, 1, 0, 1, 0]

end Rivals

/-- The second run fails, since the first one has created the claim that both found missing. -/
theorem concurrent_runs_overwrite_nothing_of_two :
    (∀ i, ∀ d ∈ Rivals.wanted i, d.KeepsHead) ∧ (∀ i, ∀ d ∈ Rivals.wanted i, isName d.ns = true) ∧
    (∃ report', Rivals.meeting.parties 0 = .done (.ok (), report') ∧
      report'.actions = ["Create namespace store", "Create PVC data"]) ∧
    ∃ failure report' stored, Rivals.meeting.parties 1 = .done (.error failure, report') ∧
      Forestalled Rivals.meeting.said 1 Batch.data failure stored ∧
      Rivals.meeting.state.objects.get? (Desired.present Batch.data).key = some stored := by
  have heads : ∀ i, ∀ d ∈ Rivals.wanted i, d.KeepsHead := by
    intro i d listed
    rw [List.mem_singleton.mp listed]
    decide
  have names : ∀ i, ∀ d ∈ Rivals.wanted i, isName d.ns = true := by
    intro i d listed
    rw [List.mem_singleton.mp listed]
    decide
  have failed : ∃ failure report', Rivals.meeting.parties 1 = .done (.error failure, report') :=
    ⟨_, _, rfl⟩
  obtain ⟨failure, report', done⟩ := failed
  obtain ⟨_, _, _, _, fails⟩ := concurrent_runs_overwrite_nothing "namespace" heads names
    (fun _ => .empty) .empty [0, 1, 0, 1, 0, 1, 0, 1, 0]
  obtain ⟨_, d, listed, stored, outrun, there⟩ := fails 1 failure report' done
  obtain rfl := List.mem_singleton.mp listed
  exact ⟨heads, names, ⟨_, rfl, rfl⟩, failure, report', stored, done, outrun, there⟩

end Converge
