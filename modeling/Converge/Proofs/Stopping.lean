import Converge.Proofs.Course
import Converge.Proofs.Namespaces

/-!
# Where a run stops

A call that fails is the last one of a run, and its failure is that of the run; only a lost
race for a namespace is gone on behind. A run that fails has ended well over the desired states
before some state and fails in the visit of that one. Its report is the one of the run over
those before, with at most the line of the namespace that the visit founded.
-/

namespace Converge

/-- A failure that carrying an action out comes to by itself, with no call. -/
def Unfit (failure : Failure) : Prop :=
  ∃ (desired : Desired) (action : Action) (live : Option Json),
    desired.carryOut action live = throw failure

/-- The exchanges found a namespace: it was created or, in a dry run, would have been. -/
def Founded (options : Options) (ns : String) (t : List Exchange) : Prop :=
  ⟨.createNamespace ns, .ok ()⟩ ∈ t ∨
    options.dryRun = true ∧ ⟨.namespaceExists ns, .ok false⟩ ∈ t

/-- Nothing fits a replacement of nothing, nor an action for what is wanted otherwise. -/
theorem Unfit.cases {failure : Failure} (h : Unfit failure) :
    (∃ (kind : Kind) (name : String),
      failure = .notFound kind.name name ("replace " ++ kind.name ++ "/" ++ name) "") ∨
    ∃ (action : Action) (kind : Kind) (name : String),
      failure = .invalid (.inapplicable action.title kind name) := by
  obtain ⟨desired, action, live, fails⟩ := h
  cases desired with
  | present d =>
    cases action with
    | replace =>
      cases live with
      | none =>
        cases fails
        exact Or.inl ⟨d.kind, d.name, rfl⟩
      | some v => cases fails
    | delete =>
      cases fails
      exact Or.inr ⟨.delete, d.kind, d.name, rfl⟩
    | noOp | create | recreate => cases fails
  | absent kind ns name =>
    cases action with
    | noOp | delete => cases fails
    | create | replace | recreate =>
      cases fails
      exact Or.inr ⟨_, kind, name, rfl⟩

section Visit

variable {noun : String} {options : Options} {ensured : List String} {desired : Desired}
  {report after : Report} {t u : List Exchange} {failure : Failure}

/-- A failed lookup or creation founds nothing. -/
theorem Preparing.not_founded (h : Preparing options ensured desired t (.error failure)) :
    ¬ Founded options desired.ns t := by
  cases h with
  | ensured opens look =>
    cases look with
    | misnamed bad => simp [Founded]
    | unseen good failure => simp [Founded]
    | refused good real failure other => simp [Founded, real]

theorem Preparing.founded_iff {existed : Bool}
    (h : Preparing options ensured desired t (.ok existed)) :
    existed = false ↔ Founded options desired.ns t := by
  cases h with
  | known closed => simp [Founded]
  | ensured opens look =>
    cases look with
    | there good =>
      refine iff_of_false (by simp) ?_
      rintro (made | ⟨_, looked⟩)
      · simp at made
      · cases List.mem_singleton.mp looked
    | missing good dry => simp [Founded, dry]
    | created good real => simp [Founded]
    | raced good real failure race => simp [Founded, real]

/-- What is said about resources founds no namespace. -/
theorem founded_append (about : ∀ e ∈ u, e.1.isAboutResource = true) (ns : String) :
    Founded options ns (t ++ u) ↔ Founded options ns t := by
  have other {c : Call} {answer : c.Answer} (none : c.isAboutResource = false) :
      ⟨c, answer⟩ ∉ u := by
    intro said
    rw [about _ said] at none
    cases none
  have made : ⟨.createNamespace ns, .ok ()⟩ ∉ u := other rfl
  have looked : ⟨.namespaceExists ns, .ok false⟩ ∉ u := other rfl
  rw [Founded, Founded, List.mem_append, List.mem_append, or_iff_left made, or_iff_left looked]

/-- A failed visit is ended by a call, or not begun since the namespace has an invalid name. It
leaves the report with at most the line of the namespace that it founded. -/
theorem Visiting.stops
    (h : Visiting noun options ensured desired report t (.error failure) after) :
    (Halting failure t ∨ t = [] ∧ desired.isPresent = true ∧ isName desired.ns = false ∧
      failure = .invalid (.badName "Namespace" desired.ns)) ∧
    ∃ existed, after = report.recordNamespace noun desired.ns existed ∧
      (existed = false ↔ Founded options desired.ns t) := by
  cases h with
  | unprepared prepared =>
    exact ⟨prepared.halting, true, rfl, iff_of_false (by simp) prepared.not_founded⟩
  | @failed t u existed _ prepared pass =>
    refine ⟨Or.inl (prepared.flowing.halting pass.halting), existed, rfl, ?_⟩
    rw [founded_append pass.aboutResource]
    exact prepared.founded_iff

theorem Passing.ne_nil {r : Except Failure Outcome} (h : Passing options desired t r) :
    t ≠ [] := by
  cases h <;> simp

end Visit

def Pursued (t : List Exchange) : Prop :=
  ∀ ns failure, failure.isAlreadyExists = true →
    t.getLast? ≠ some ⟨.createNamespace ns, .error failure⟩

section Pursuit

variable {noun : String} {options : Options} {ensured : List String} {report after : Report}
  {t u : List Exchange} {r : Except Failure Unit}

theorem Pursued.append (ht : Pursued t) (hu : Pursued u) : Pursued (t ++ u) := by
  intro ns failure race last
  rw [List.getLast?_append] at last
  cases end? : u.getLast? with
  | none => exact ht ns failure race (by rwa [end?] at last)
  | some e => exact hu ns failure race (by rwa [end?] at last ⊢)

/-- Exchanges about a resource that follow leave no lost race at the end. -/
theorem Pursued.behind (about : ∀ e ∈ u, e.1.isAboutResource = true) (some : u ≠ []) :
    Pursued (t ++ u) := by
  intro ns failure race last
  rw [List.getLast?_append, List.getLast?_eq_some_getLast some, Option.some_or] at last
  have inside := List.getLast_mem some
  rw [Option.some.inj last] at inside
  cases about _ inside

theorem Preparing.pursued {desired : Desired} {failure : Failure}
    (h : Preparing options ensured desired t (.error failure)) : Pursued t := by
  cases h with
  | ensured opens look =>
    cases look with
    | misnamed bad => simp [Pursued]
    | unseen good failure => simp [Pursued]
    | refused good real failure other =>
      intro ns failure' race last
      cases last
      rw [other] at race
      cases race

theorem Visiting.pursued {desired : Desired}
    (h : Visiting noun options ensured desired report t r after) : Pursued t := by
  cases h with
  | unprepared prepared => exact prepared.pursued
  | failed prepared pass => exact .behind pass.aboutResource pass.ne_nil
  | passed prepared pass => exact .behind pass.aboutResource pass.ne_nil

/-- A run goes on behind a lost race for a namespace. -/
theorem Running.pursued {desired : List Desired}
    (h : Running noun options ensured desired report t r after) : Pursued t := by
  induction h with
  | finished => simp [Pursued]
  | stopped rest visit => exact visit.pursued
  | next visit others ih => exact visit.pursued.append ih

end Pursuit

section Client

variable {σ : Type} {client : Client σ} {noun : String} {options : Options}

/-- A run that fails ends well over the states before some state and fails in the visit of
that one, which goes on from there. -/
theorem reconcileFrom_stops {desired : List Desired} {ensured : List String}
    {report after : Report} {s s' : σ} {failure : Failure}
    (failed : (reconcileFrom noun options ensured desired report).run client s =
      ((.error failure, after), s')) :
    ∃ done state rest between reached, desired = done ++ state :: rest ∧
      (reconcileFrom noun options ensured done report).run client s =
        ((.ok (), between), reached) ∧
      (visit noun options (ensuredAfter done ensured) state between).run client reached =
        ((.error failure, after), s') ∧
      (reconcileFrom noun options ensured desired report).transcript client s =
        (reconcileFrom noun options ensured done report).transcript client s ++
          (visit noun options (ensuredAfter done ensured) state between).transcript client
            reached := by
  induction desired generalizing ensured report s with
  | nil => cases failed
  | cons first rest ih =>
    rw [reconcileFrom_cons, Dialogue.run_bind] at failed
    rcases visited : (visit noun options ensured first report).run client s with
      ⟨⟨stopped | _, between⟩, reached⟩
    · rw [visited] at failed
      cases failed
      refine ⟨[], first, rest, report, s, rfl, rfl, visited, ?_⟩
      rw [reconcileFrom_cons, Dialogue.transcript_bind, visited]
      exact List.append_nil _
    · rw [visited] at failed
      obtain ⟨done, state, rest, last, end_, rfl, ended, stops, said⟩ := ih failed
      refine ⟨first :: done, state, rest, last, end_, rfl, ?_, stops, ?_⟩
      · rw [reconcileFrom_cons, Dialogue.run_bind, visited]
        exact ended
      · rw [reconcileFrom_cons, reconcileFrom_cons, Dialogue.transcript_bind,
          Dialogue.transcript_bind, visited, List.append_assoc]
        exact congrArg (_ ++ ·) said

end Client

/-- A call that fails is the last one of a run, and the run fails in the same way, unless the
call lost a race for a namespace: behind that the run goes on. A run that fails has ended well
over the states before some state; what is said for that one ends with a call that failed in
the same way, or nothing is said for it since it is misplaced, and all that the report has
more than the one of the states before is the line of the namespace that was founded for it. A
failure that no call came to is never one of an action that does not fit. -/
theorem failed_call_stops_run {σ : Type} (client : Client σ) (noun : String) (options : Options)
    (desired : List Desired) (report : Report) (s : σ) :
    let run (states : List Desired) := reconcileAll noun options states report
    let t := (run desired).transcript client s
    let result := ((run desired).run client s).1.1
    let after := ((run desired).run client s).1.2
    (∀ before c failure later, t = before ++ ⟨c, .error failure⟩ :: later →
      (¬ Borne ⟨c, .error failure⟩ → later = [] ∧ result = .error failure) ∧
      (Borne ⟨c, .error failure⟩ → later ≠ [])) ∧
    (∀ failure, result = .error failure →
      ∃ done state rest, desired = done ++ state :: rest ∧
        ((run done).run client s).1.1 = .ok () ∧
        ∃ own, t = (run done).transcript client s ++ own ∧
          ((∃ c, own.getLast? = some ⟨c, .error failure⟩) ∨
            own = [] ∧ state.isPresent = true ∧ isName state.ns = false ∧
              failure = .invalid (.badName "Namespace" state.ns)) ∧
          ∃ existed,
            after = ((run done).run client s).1.2.recordNamespace noun state.ns existed ∧
            (existed = false ↔ Founded options state.ns own)) ∧
    ∀ failure, Unfit failure → (∀ c, ⟨c, .error failure⟩ ∉ t) → result ≠ .error failure := by
  intro run t result after
  have running := reconcileAll_running client noun options desired report s
  have course : Course desired t result := running.course
  refine ⟨?_, ?_, ?_⟩
  · intro before c failure later split
    refine ⟨course.of_fatal split, ?_⟩
    rintro borne rfl
    cases borne with
    | raced ns _ race =>
      exact running.pursued ns failure race
        ((congrArg List.getLast? split).trans List.getLast?_concat)
  · intro failure fails
    have failed : (run desired).run client s =
        ((.error failure, after), ((run desired).run client s).2) := by
      rw [← fails]
    obtain ⟨done, state, rest, between, reached, split, ended, stopped, said⟩ :=
      reconcileFrom_stops failed
    have first : (run done).run client s = ((.ok (), between), reached) := ended
    have visiting := visit_trace (Dialogue.trace_run client
      (visit noun options (ensuredAfter done []) state between) reached)
    rw [stopped] at visiting
    obtain ⟨ending, noted⟩ := visiting.stops
    refine ⟨done, state, rest, split, by rw [first], _, said, ?_, by rwa [first]⟩
    rcases ending with ⟨before, c, last, _, _⟩ | misplaced
    · exact Or.inl ⟨c, by rw [last, List.getLast?_concat]⟩
    · exact Or.inr misplaced
  · intro failure unfit uncalled fails
    rw [fails] at course
    generalize same : (Except.error failure : Except Failure Unit) = r at course
    cases course with
    | finished flowing => cases same
    | stopped halting =>
      cases same
      obtain ⟨before, c, whole, _, _⟩ := halting
      exact uncalled c (by rw [whole]; simp)
    | misplaced flowing listed present bad =>
      cases same
      rcases unfit.cases with ⟨kind, name, same⟩ | ⟨action, kind, name, same⟩ <;> cases same

end Converge
