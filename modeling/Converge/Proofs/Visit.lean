import Converge.Proofs.Pass

/-!
# Visits

A visit is all that a run does for one desired state: it ensures the namespace if that
was not done before, and makes a pass over the resource. A run is a chain of visits that
ends with the first failed one. Every trace of a run has the form of such a chain.
-/

namespace Converge

/-- Is this the first resource to be present in its namespace? -/
def Desired.opensNamespace (desired : Desired) (ensured : List String) : Bool :=
  desired.isPresent && !ensured.contains desired.ns

/-- The namespaces that need no look once a desired state was visited. -/
def Desired.ensuredWith (desired : Desired) (ensured : List String) : List String :=
  if desired.opensNamespace ensured then desired.ns :: ensured else ensured

theorem Desired.opensNamespace_iff {desired : Desired} {ensured : List String} :
    desired.opensNamespace ensured = true ↔ desired.isPresent = true ∧ desired.ns ∉ ensured := by
  simp [opensNamespace]

theorem Desired.mem_ensuredWith {desired : Desired} {ensured : List String} {ns : String} :
    ns ∈ desired.ensuredWith ensured ↔
      ns ∈ ensured ∨ desired.isPresent = true ∧ desired.ns = ns := by
  rw [ensuredWith]
  split
  · next opens =>
    rw [List.mem_cons, or_comm, (opensNamespace_iff.mp opens).1, eq_comm]
    simp
  · next closed =>
    refine ⟨Or.inl, ?_⟩
    rintro (inside | ⟨present, rfl⟩)
    · exact inside
    · by_cases inside : desired.ns ∈ ensured
      · exact inside
      · exact absurd (opensNamespace_iff.mpr ⟨present, inside⟩) closed

def prepare (options : Options) (ensured : List String) (desired : Desired) : Attempt Bool :=
  if desired.opensNamespace ensured then ensureNamespace desired.ns options.dryRun else pure true

/-- All that a run does for one desired state. -/
def visit (noun : String) (options : Options) (ensured : List String) (desired : Desired)
    (report : Report) : Dialogue (Except Failure Unit × Report) := do
  match ← (prepare options ensured desired).run with
  | .error failure => pure (.error failure, report)
  | .ok existed =>
    let report := report.recordNamespace noun desired.ns existed
    match ← (reconcile options desired).run with
    | .error failure => pure (.error failure, report)
    | .ok outcome =>
      pure (.ok (), report.record desired.kind desired.ns desired.name outcome)

/-- A run visits one desired state after another, until a visit fails. -/
theorem reconcileFrom_cons (noun : String) (options : Options) (ensured : List String)
    (desired : Desired) (rest : List Desired) (report : Report) :
    reconcileFrom noun options ensured (desired :: rest) report =
      (visit noun options ensured desired report >>= fun visited =>
        match visited.1 with
        | .error failure => pure (.error failure, visited.2)
        | .ok () =>
          reconcileFrom noun options (desired.ensuredWith ensured) rest visited.2) := by
  rw [reconcileFrom, visit, prepare, Desired.ensuredWith, Desired.opensNamespace]
  cases opens : desired.isPresent && !ensured.contains desired.ns with
  | true =>
    simp only [if_true, bind_assoc]
    congr 1
    funext prepared
    cases prepared with
    | error failure => rfl
    | ok existed =>
      simp only [bind_assoc]
      congr 1
      funext passed
      cases passed <;> rfl
  | false =>
    simp only [Bool.false_eq_true, if_false, ExceptT.run_pure, pure_bind, bind_assoc]
    congr 1
    funext passed
    cases passed <;> rfl

def ensuredAfter : List Desired → List String → List String
  | [], ensured => ensured
  | first :: rest, ensured => ensuredAfter rest (first.ensuredWith ensured)

theorem mem_ensuredAfter {desired : List Desired} {ensured : List String} {ns : String} :
    ns ∈ ensuredAfter desired ensured ↔
      ns ∈ ensured ∨ ∃ state ∈ desired, state.isPresent = true ∧ state.ns = ns := by
  induction desired generalizing ensured with
  | nil => simp [ensuredAfter]
  | cons first rest ih =>
    rw [ensuredAfter, ih, Desired.mem_ensuredWith, or_assoc]
    simp only [List.mem_cons, exists_eq_or_imp]

/-- A run over two lists of desired states is a run over the first and, if that ends well,
one over the second that goes on from there. -/
theorem reconcileFrom_append (noun : String) (options : Options) (ensured : List String)
    (first later : List Desired) (report : Report) :
    reconcileFrom noun options ensured (first ++ later) report =
      (reconcileFrom noun options ensured first report >>= fun done =>
        match done.1 with
        | .error failure => pure (.error failure, done.2)
        | .ok () => reconcileFrom noun options (ensuredAfter first ensured) later done.2) := by
  induction first generalizing ensured report with
  | nil => rfl
  | cons state rest ih =>
    rw [List.cons_append, reconcileFrom_cons, reconcileFrom_cons, bind_assoc]
    congr 1
    funext visited
    cases visited.1 with
    | error failure => rfl
    | ok _ => exact ih (state.ensuredWith ensured) visited.2

/-- Ensuring the namespace of a desired state, unless it needs no look. -/
inductive Preparing (options : Options) (ensured : List String) (desired : Desired) :
    List Exchange → Except Failure Bool → Prop
  | known (closed : desired.opensNamespace ensured = false) :
      Preparing options ensured desired [] (.ok true)
  | ensured (opens : desired.opensNamespace ensured = true) {t : List Exchange}
      {r : Except Failure Bool} (namespaceLook : Ensuring desired.ns options.dryRun t r) :
      Preparing options ensured desired t r

/-- A visit, from a report to a report. -/
inductive Visiting (noun : String) (options : Options) (ensured : List String)
    (desired : Desired) (report : Report) : List Exchange → Except Failure Unit → Report → Prop
  | unprepared {t : List Exchange} {failure : Failure}
      (prepared : Preparing options ensured desired t (.error failure)) :
      Visiting noun options ensured desired report t (.error failure) report
  | failed {t u : List Exchange} {existed : Bool} {failure : Failure}
      (prepared : Preparing options ensured desired t (.ok existed))
      (pass : Passing options desired u (.error failure)) :
      Visiting noun options ensured desired report (t ++ u) (.error failure)
        (report.recordNamespace noun desired.ns existed)
  | passed {t u : List Exchange} {existed : Bool} {outcome : Outcome}
      (prepared : Preparing options ensured desired t (.ok existed))
      (pass : Passing options desired u (.ok outcome)) :
      Visiting noun options ensured desired report (t ++ u) (.ok ())
        ((report.recordNamespace noun desired.ns existed).record desired.kind desired.ns
          desired.name outcome)

/-- A run over desired states, from a report to a report. -/
inductive Running (noun : String) (options : Options) : List String → List Desired → Report →
    List Exchange → Except Failure Unit → Report → Prop
  | finished (ensured : List String) (report : Report) :
      Running noun options ensured [] report [] (.ok ()) report
  | stopped {ensured : List String} {desired : Desired} (rest : List Desired)
      {report after : Report} {t : List Exchange} {failure : Failure}
      (visit : Visiting noun options ensured desired report t (.error failure) after) :
      Running noun options ensured (desired :: rest) report t (.error failure) after
  | next {ensured : List String} {desired : Desired} {rest : List Desired}
      {report between after : Report} {t u : List Exchange} {r : Except Failure Unit}
      (visit : Visiting noun options ensured desired report t (.ok ()) between)
      (others : Running noun options (desired.ensuredWith ensured) rest between u r after) :
      Running noun options ensured (desired :: rest) report (t ++ u) r after

open Attempt in
theorem prepare_trace {options : Options} {ensured : List String} {desired : Desired}
    {t : List Exchange} {r : Except Failure Bool}
    (h : (prepare options ensured desired).run.Trace t r) :
    Preparing options ensured desired t r := by
  unfold prepare at h
  cases opens : desired.opensNamespace ensured with
  | true =>
    rw [opens, if_pos rfl] at h
    exact .ensured opens (ensureNamespace_trace h)
  | false =>
    rw [opens, if_neg Bool.false_ne_true] at h
    obtain ⟨rfl, rfl⟩ := trace_pure_iff.mp h
    exact .known opens

open Dialogue in
theorem visit_trace {noun : String} {options : Options} {ensured : List String}
    {desired : Desired} {report after : Report} {t : List Exchange} {r : Except Failure Unit}
    (h : (visit noun options ensured desired report).Trace t (r, after)) :
    Visiting noun options ensured desired report t r after := by
  obtain ⟨prepared, t, u, rfl, first, h₁⟩ := trace_bind_iff.mp h
  have preparing := prepare_trace first
  cases prepared with
  | error failure =>
    obtain ⟨rfl, same⟩ := trace_pure_iff.mp h₁
    cases same
    rw [List.append_nil]
    exact .unprepared preparing
  | ok existed =>
    obtain ⟨passed, u, v, rfl, second, h₂⟩ := trace_bind_iff.mp h₁
    have passing := reconcile_trace second
    cases passed with
    | error failure =>
      obtain ⟨rfl, same⟩ := trace_pure_iff.mp h₂
      cases same
      rw [List.append_nil]
      exact .failed preparing passing
    | ok outcome =>
      obtain ⟨rfl, same⟩ := trace_pure_iff.mp h₂
      cases same
      rw [List.append_nil]
      exact .passed preparing passing

open Dialogue in
theorem reconcileFrom_trace {noun : String} {options : Options} {ensured : List String}
    {desired : List Desired} {report after : Report} {t : List Exchange}
    {r : Except Failure Unit}
    (h : (reconcileFrom noun options ensured desired report).Trace t (r, after)) :
    Running noun options ensured desired report t r after := by
  induction desired generalizing ensured report t with
  | nil =>
    obtain ⟨rfl, same⟩ := trace_pure_iff.mp h
    cases same
    exact .finished ensured _
  | cons first rest ih =>
    rw [reconcileFrom_cons] at h
    obtain ⟨⟨result, between⟩, t, u, rfl, visited, h₁⟩ := trace_bind_iff.mp h
    have visiting := visit_trace visited
    cases result with
    | error failure =>
      obtain ⟨rfl, same⟩ := trace_pure_iff.mp h₁
      cases same
      rw [List.append_nil]
      exact .stopped rest visiting
    | ok _ => exact .next visiting (ih h₁)

/-- A run with a client has the form of a run, from no ensured namespace. -/
theorem reconcileAll_running {σ : Type} (client : Client σ) (noun : String) (options : Options)
    (desired : List Desired) (report : Report) (s : σ) :
    Running noun options [] desired report
      ((reconcileAll noun options desired report).transcript client s)
      ((reconcileAll noun options desired report).run client s).1.1
      ((reconcileAll noun options desired report).run client s).1.2 :=
  reconcileFrom_trace (Dialogue.trace_run client _ s)

/-- A visit that went well has made a pass over its resource. -/
theorem comprises_of_visited {noun : String} {options : Options} {ensured : List String}
    {desired : Desired} {report after : Report} {t : List Exchange}
    (h : (visit noun options ensured desired report).Trace t (.ok (), after)) :
    ∃ u outcome, (visit noun options ensured desired report).Comprises t
      (reconcile options desired).run u (.ok outcome) := by
  obtain ⟨prepared, t, u, rfl, first, h⟩ := Dialogue.trace_bind_iff.mp h
  cases prepared with
  | error failure =>
    obtain ⟨_, impossible⟩ := Dialogue.trace_pure_iff.mp h
    cases impossible
  | ok existed =>
    obtain ⟨passed, u, v, rfl, second, h⟩ := Dialogue.trace_bind_iff.mp h
    cases passed with
    | error failure =>
      obtain ⟨_, impossible⟩ := Dialogue.trace_pure_iff.mp h
      cases impossible
    | ok outcome =>
      exact ⟨u, outcome, first.comprises_bind ⟨[], v, _, rfl, .here _, second⟩⟩

/-- A run that ended well has made a pass over each of its resources. -/
theorem comprises_of_finished {noun : String} {options : Options} {ensured : List String}
    {desired : List Desired} {report after : Report} {t : List Exchange}
    (h : (reconcileFrom noun options ensured desired report).Trace t (.ok (), after))
    {state : Desired} (listed : state ∈ desired) :
    ∃ u outcome, (reconcileFrom noun options ensured desired report).Comprises t
      (reconcile options state).run u (.ok outcome) := by
  induction desired generalizing ensured report t with
  | nil => cases listed
  | cons first rest ih =>
    rw [reconcileFrom_cons] at h ⊢
    obtain ⟨⟨result, between⟩, t, u, rfl, visited, h⟩ := Dialogue.trace_bind_iff.mp h
    cases result with
    | error failure =>
      obtain ⟨_, impossible⟩ := Dialogue.trace_pure_iff.mp h
      cases impossible
    | ok _ =>
      rcases List.mem_cons.mp listed with rfl | later
      · obtain ⟨v, outcome, comprised⟩ := comprises_of_visited visited
        exact ⟨v, outcome, comprised.bind _ u⟩
      · obtain ⟨v, outcome, comprised⟩ := ih h later
        exact ⟨v, outcome, visited.comprises_bind comprised⟩

/-! ## Dry runs -/

section Dry

variable {noun : String} {options : Options} {ensured : List String} {report after : Report}
  {t : List Exchange} {r : Except Failure Unit}

theorem Preparing.dry (dry : options.dryRun = true) {desired : Desired} {r : Except Failure Bool}
    (h : Preparing options ensured desired t r) : ∀ e ∈ t, e.1.isMutation = false := by
  cases h with
  | known closed => simp
  | ensured opens look =>
    rw [dry] at look
    cases look with
    | misnamed bad => simp
    | unseen good failure => simp [Call.isMutation]
    | there good => simp [Call.isMutation]
    | missing good _ => simp [Call.isMutation]
    | created good real => cases real
    | raced good real => cases real
    | refused good real => cases real

theorem Passing.dry (dry : options.dryRun = true) {desired : Desired} {r : Except Failure Outcome}
    (h : Passing options desired t r) : ∀ e ∈ t, e.1.isMutation = false := by
  cases h with
  | unseen failure => simp [Desired.look, Call.isMutation]
  | checked _ live => simp [Desired.look, Call.isMutation]
  | broken real | lost real | settled real | gone real =>
    rw [dry] at real
    cases real

theorem Visiting.dry (dry : options.dryRun = true) {desired : Desired}
    (h : Visiting noun options ensured desired report t r after) :
    ∀ e ∈ t, e.1.isMutation = false := by
  cases h with
  | unprepared prepared => exact prepared.dry dry
  | failed prepared pass =>
    exact List.forall_mem_append.mpr ⟨prepared.dry dry, pass.dry dry⟩
  | passed prepared pass =>
    exact List.forall_mem_append.mpr ⟨prepared.dry dry, pass.dry dry⟩

/-- A dry run asks for no change, whoever answers. -/
theorem Running.dry (dry : options.dryRun = true) {desired : List Desired}
    (h : Running noun options ensured desired report t r after) :
    ∀ e ∈ t, e.1.isMutation = false := by
  induction h with
  | finished => simp
  | stopped rest visit => exact visit.dry dry
  | next visit others ih => exact List.forall_mem_append.mpr ⟨visit.dry dry, ih⟩

end Dry

end Converge
