import Converge.Proofs.Holdings
import Converge.Proofs.Meeting
import Converge.Proofs.Namespaces

/-!
# Races for a namespace

Any number of callers see to it that one namespace is there, all at once and on one cluster
in memory. Looking and creating are separate calls, so others may come in between. What each
caller returns can be read off what it said, and of the creations that were asked for the
cluster has granted at most one.
-/

namespace Converge

/-- Callers that are about to ensure one namespace. -/
def race (ι : Type) (ns : String) (m : Memory) : Meeting ι (Except Failure Bool) Memory :=
  .begin (fun _ => (ensureNamespace ns false).run) m

theorem Call.isGentle_of_namespace {c : Call} (h : c.isAboutResource = false) : c.IsGentle := by
  cases c with
  | get | create | replace | delete => cases h
  | namespaceExists | createNamespace => trivial

theorem Ensuring.length_le {ns : String} {dryRun : Bool} {t : List Exchange}
    {r : Except Failure Bool} (h : Ensuring ns dryRun t r) : t.length ≤ 2 := by
  cases h <;> simp

section Race

variable {ι : Type} [DecidableEq ι] {ns : String} {m : Memory} {schedule : List ι}

/-- What a caller has said is the beginning of what it might say alone. -/
theorem race_saidBy (ns : String) (m : Memory) (schedule : List ι) (i : ι) :
    ∃ more r, Ensuring ns false
      (((race ι ns m).run Memory.client schedule).saidBy i ++ more) r := by
  obtain ⟨more, r, whole⟩ := Meeting.exists_trace_of_saidBy Memory.client
    (fun _ : ι => (ensureNamespace ns false).run) m schedule i
  exact ⟨more, r, ensureNamespace_trace whole⟩

theorem race_done {i : ι} {r : Except Failure Bool}
    (done : ((race ι ns m).run Memory.client schedule).parties i = .done r) :
    Ensuring ns false (((race ι ns m).run Memory.client schedule).saidBy i) r :=
  ensureNamespace_trace (Meeting.trace_of_done done)

theorem race_gentle :
    ∀ e ∈ ((race ι ns m).run Memory.client schedule).exchanges, e.1.IsGentle := by
  intro e said
  obtain ⟨i, said⟩ := Meeting.mem_exchanges.mp said
  obtain ⟨more, r, form⟩ := race_saidBy ns m schedule i
  have listed := List.mem_append_left more (Meeting.mem_saidBy.mpr said)
  exact Call.isGentle_of_namespace (form.aboutNamespace e listed)

theorem race_answers (ns : String) (m : Memory) (schedule : List ι) :
    Memory.client.Answers m ((race ι ns m).run Memory.client schedule).exchanges
      ((race ι ns m).run Memory.client schedule).state :=
  Meeting.begin_answers Memory.client _ m schedule

theorem race_taken {i : ι} {e : Exchange}
    (said : e ∈ ((race ι ns m).run Memory.client schedule).saidBy i) :
    ∃ before after : Memory, before.Taking e after ∧
      ∀ x, after.Holds x → ((race ι ns m).run Memory.client schedule).state.Holds x :=
  Memory.taken_of_mem (race_answers ns m schedule) race_gentle
    (Meeting.mem_exchanges.mpr ⟨i, Meeting.mem_saidBy.mp said⟩)

/-- No caller fails. -/
theorem race_succeeds (good : isName ns = true) {i : ι} {failure : Failure} :
    ((race ι ns m).run Memory.client schedule).parties i ≠ .done (.error failure) := by
  intro done
  have form := race_done done
  generalize said : ((race ι ns m).run Memory.client schedule).saidBy i = t at form
  cases form with
  | misnamed bad =>
    rw [good] at bad
    cases bad
  | unseen _ failure =>
    obtain ⟨before, after, taking, _⟩ := race_taken (by rw [said]; exact List.mem_cons_self)
    cases taking.of_search.1
  | refused _ real failure other =>
    obtain ⟨before, after, taking, _⟩ :=
      race_taken (by rw [said]; exact List.mem_cons_of_mem _ List.mem_cons_self)
    cases taking
    cases other

/-- A caller returns that the namespace was missing exactly if it has created it. -/
theorem race_created_iff {i : ι} {existed : Bool}
    (done : ((race ι ns m).run Memory.client schedule).parties i = .done (.ok existed)) :
    existed = false ↔ ∃ e, (i, e) ∈ ((race ι ns m).run Memory.client schedule).said ∧
      brings? e = some (.space ns) := by
  have form := race_done done
  have listed (e : Exchange) : (i, e) ∈ ((race ι ns m).run Memory.client schedule).said ↔
      e ∈ ((race ι ns m).run Memory.client schedule).saidBy i := Meeting.mem_saidBy.symm
  simp only [listed]
  generalize ((race ι ns m).run Memory.client schedule).saidBy i = t at form
  cases form with
  | there good => simp [brings?]
  | missing good dry => cases dry
  | created good real => simp [brings?]
  | raced good real failure race => simp [brings?]

/-- From the moment on when the first caller is done, the namespace is there. -/
theorem race_holds {i : ι} {existed : Bool}
    (done : ((race ι ns m).run Memory.client schedule).parties i = .done (.ok existed)) :
    ((race ι ns m).run Memory.client schedule).state.Holds (.space ns) := by
  have form := race_done done
  generalize said : ((race ι ns m).run Memory.client schedule).saidBy i = t at form
  cases form with
  | missing good dry => cases dry
  | there good =>
    obtain ⟨before, after, taking, kept⟩ := race_taken (by rw [said]; exact List.mem_cons_self)
    obtain ⟨found, same⟩ := taking.of_search
    have there : before.hasNamespace ns = true := (Except.ok.inj found).symm
    rw [← same] at there
    exact kept _ (Memory.hasNamespace_iff.mp there)
  | created good real =>
    obtain ⟨before, after, taking, kept⟩ :=
      race_taken (by rw [said]; exact List.mem_cons_of_mem _ List.mem_cons_self)
    cases taking with
    | founded _ free => exact kept _ ((Memory.holds_addNamespace before ns _).mpr (Or.inr rfl))
  | raced good real failure race =>
    obtain ⟨before, after, taking, kept⟩ :=
      race_taken (by rw [said]; exact List.mem_cons_of_mem _ List.mem_cons_self)
    cases taking with
    | raced _ there => exact kept _ (Memory.hasNamespace_iff.mp there)

/-- A caller that has had two turns is done. -/
theorem race_finishes (good : isName ns = true) {i : ι} (turns : 2 ≤ schedule.count i) :
    ∃ existed, ((race ι ns m).run Memory.client schedule).parties i = .done (.ok existed) := by
  have way := Meeting.run_leads Memory.client (fun _ : ι => (ensureNamespace ns false).run) m
    schedule i
  cases left : ((race ι ns m).run Memory.client schedule).parties i with
  | done r =>
    cases r with
    | ok existed => exact ⟨existed, rfl⟩
    | error failure => exact absurd left (race_succeeds good)
  | ask c next =>
    -- it would say one thing more than a caller ever says
    have used := Meeting.length_saidBy left
    rw [race] at left used
    rw [left] at way
    obtain ⟨more, r, later, whole⟩ := way.exists_trace
    have bound := (ensureNamespace_trace whole).length_le
    obtain ⟨answer, rest, rfl, _⟩ := Dialogue.trace_ask_iff.mp later
    rw [List.length_append, List.length_cons] at bound
    omega

end Race

/-- Any number of callers may ensure one namespace at the same time. No caller ever fails, and
each is done after two turns. At no time has more than one returned that the namespace was
missing, and none has if it was there from the start. As soon as any caller is done, the
namespace is there; once all are, exactly one has returned that it was missing, unless there
is no caller or the namespace was there from the start. -/
theorem ensureNamespace_withstands_races {ι : Type} [DecidableEq ι] {ns : String}
    (good : isName ns = true) (m : Memory) (schedule : List ι) :
    let after := (race ι ns m).run Memory.client schedule
    (∀ i failure, after.parties i ≠ .done (.error failure)) ∧
    (∀ i, 2 ≤ schedule.count i → ∃ existed, after.parties i = .done (.ok existed)) ∧
    (∀ i j, after.parties i = .done (.ok false) → after.parties j = .done (.ok false) → i = j) ∧
    (ns ∈ m.namespaces → ∀ i, after.parties i ≠ .done (.ok false)) ∧
    (∀ i existed, after.parties i = .done (.ok existed) → ns ∈ after.state.namespaces) ∧
    ((∀ i, ∃ r, after.parties i = .done r) →
      (ns ∈ after.state.namespaces ↔ ns ∈ m.namespaces ∨ Nonempty ι) ∧
      (ns ∉ m.namespaces → Nonempty ι → ∃! i, after.parties i = .done (.ok false))) := by
  intro after
  obtain ⟨holds, once, new⟩ := Memory.grows_by_brought (race_answers ns m schedule) race_gentle
  have single : ∀ i j, after.parties i = .done (.ok false) →
      after.parties j = .done (.ok false) → i = j := by
    intro i j first second
    obtain ⟨e, saidFirst, brings⟩ := (race_created_iff first).mp rfl
    obtain ⟨f, saidSecond, brings'⟩ := (race_created_iff second).mp rfl
    have same := Memory.eq_of_brings once saidFirst saidSecond brings brings'
    exact congrArg Prod.fst same
  refine ⟨fun i failure => race_succeeds good, fun i turns => race_finishes good turns, single,
    ?_, fun i existed done => race_holds done, ?_⟩
  · intro there i done
    obtain ⟨e, said, brings⟩ := (race_created_iff done).mp rfl
    have listed : e ∈ after.exchanges := Meeting.mem_exchanges.mpr ⟨i, said⟩
    exact new _ (List.mem_filterMap.mpr ⟨e, listed, brings⟩) there
  · intro finished
    have returned : ∀ i, ∃ existed, after.parties i = .done (.ok existed) := by
      intro i
      obtain ⟨r, done⟩ := finished i
      cases r with
      | ok existed => exact ⟨existed, done⟩
      | error failure => exact absurd done (race_succeeds good)
    constructor
    · constructor
      · intro there
        rcases (holds (.space ns)).mp there with before | brought
        · exact Or.inl before
        · obtain ⟨e, listed, _⟩ := List.mem_filterMap.mp brought
          obtain ⟨i, _⟩ := Meeting.mem_exchanges.mp listed
          exact Or.inr ⟨i⟩
      · rintro (before | caller)
        · exact (holds (.space ns)).mpr (Or.inl before)
        · obtain ⟨i⟩ := caller
          obtain ⟨existed, done⟩ := returned i
          exact race_holds done
    · rintro missing ⟨i⟩
      obtain ⟨existed, done⟩ := returned i
      rcases (holds (.space ns)).mp (race_holds done) with before | brought
      · exact absurd before missing
      · obtain ⟨e, listed, brings⟩ := List.mem_filterMap.mp brought
        obtain ⟨j, said⟩ := Meeting.mem_exchanges.mp listed
        obtain ⟨existed, done⟩ := returned j
        obtain rfl := (race_created_iff done).mpr ⟨e, said, brings⟩
        exact ⟨j, done, fun k also => single k j also done⟩

/-- All three callers look before any of them creates. -/
theorem ensureNamespace_withstands_race_of_three :
    isName "shop" = true ∧
    let after := (race (Fin 3) "shop" .empty).run Memory.client [0, 1, 2, 1, 0, 2]
    after.parties 0 = .done (.ok true) ∧ after.parties 1 = .done (.ok false) ∧
      after.parties 2 = .done (.ok true) ∧ "shop" ∈ after.state.namespaces ∧
      ∃! i, after.parties i = .done (.ok false) := by
  have good : isName "shop" = true := by decide
  refine ⟨good, rfl, rfl, rfl, ?_⟩
  obtain ⟨_, finishes, _, _, holds, last⟩ :=
    ensureNamespace_withstands_races good Memory.empty [(0 : Fin 3), 1, 2, 1, 0, 2]
  refine ⟨holds 1 false rfl, (last ?_).2 List.not_mem_nil ⟨0⟩⟩
  intro i
  have turns : 2 ≤ [(0 : Fin 3), 1, 2, 1, 0, 2].count i := by
    revert i
    decide
  obtain ⟨existed, done⟩ := finishes i turns
  exact ⟨_, done⟩

end Converge
