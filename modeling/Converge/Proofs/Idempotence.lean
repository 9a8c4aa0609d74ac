import Converge.Proofs.CheckMode
import Converge.Proofs.Convergence
import Converge.Proofs.Holdings

/-!
# Idempotence

A real run over distinct resources leaves nothing to be done: a second run with the same
options finds every resource in its final form. It still makes the changes that the options
call for, but only a deployment that is replaced comes out of them in another form, since the
version that it is sent with counts on.
-/

namespace Converge

/-! ## Objects up to one field -/

namespace Entries

variable {κ α : Type} [DecidableEq κ]

def without (k : κ) (l : List (κ × α)) : List (κ × α) := l.filter fun e => e.1 != k

theorem without_cons (k : κ) (e : κ × α) (rest : List (κ × α)) :
    without k (e :: rest) = if e.1 = k then without k rest else e :: without k rest := by
  by_cases dropped : e.1 = k <;> simp [without, dropped]

theorem without_put_self (k : κ) (v : α) (l : List (κ × α)) :
    without k (put k v l) = without k l := by
  induction l with
  | nil => simp [put, without]
  | cons e rest ih =>
    obtain ⟨k', v'⟩ := e
    by_cases here : k' = k
    · simp [put, without_cons, here]
    · simp [put, without_cons, here, ih]

theorem without_put_of_ne {k j : κ} (other : j ≠ k) (v : α) (l : List (κ × α)) :
    without k (put j v l) = put j v (without k l) := by
  induction l with
  | nil => simp [put, without, other]
  | cons e rest ih =>
    obtain ⟨k', v'⟩ := e
    by_cases here : k' = j
    · subst here
      simp [put, without_cons, other]
    · rw [put, if_neg here, without_cons, without_cons, ih]
      by_cases dropped : k' = k
      · simp [dropped]
      · simp [dropped, put, here]

/-- A key can be left out before or after the writing. -/
theorem without_putAll (k : κ) (old new : List (κ × α)) :
    without k (putAll old new) = putAll (without k old) (without k new) := by
  induction new generalizing old with
  | nil => rfl
  | cons e rest ih =>
    obtain ⟨j, v⟩ := e
    refine (ih (put j v old)).trans ?_
    by_cases dropped : j = k
    · subst dropped
      rw [without_put_self, without_cons, if_pos rfl]
    · rw [without_put_of_ne dropped, without_cons, if_neg dropped]
      rfl

end Entries

def Json.without (name : String) : Json → Json
  | .obj fields => .obj (Entries.without name fields)
  | v => v

theorem Descriptor.manifest_withField_without (d : Descriptor) (name : String) (v : Json) :
    (d.withField name v).manifest.without name = d.manifest.without name := by
  simp only [manifest, withField, Json.ofTable, Json.without, Table.insertAll, Table.insert]
  rw [Entries.without_putAll, Entries.without_putAll, Entries.without_put_self]
  rfl

/-- What is sent to replace an object differs from what is wanted in the status at most. -/
theorem Kind.prepareReplace_without (kind : Kind) (d : Descriptor) (live : Json) :
    (kind.prepareReplace d live).manifest.without "status" = d.manifest.without "status" := by
  cases kind with
  | deploymentConfig => exact d.manifest_withField_without "status" _
  | _ => rfl

/-- Only a deployment is not replaced by just what is wanted. -/
theorem Kind.prepareReplace_of_ne {kind : Kind} (other : kind ≠ .deploymentConfig) (d : Descriptor)
    (live : Json) : kind.prepareReplace d live = d := by
  cases kind with
  | deploymentConfig => exact absurd rfl other
  | _ => rfl

/-! ## Final forms -/

/-- Without replacing and recreating, a resource in its final form needs no change. -/
theorem Desired.change_settled (desired : Desired) {options : Options} (live : Option Json)
    (replace : options.replace = false) (recreate : options.recreate = false) :
    desired.change (desired.settled options live) options = .none := by
  have asked := desired.asked live options
  rw [Desired.settled]
  generalize desired.change live options = change at asked ⊢
  cases asked with
  | create d | keep d v => simp [Change.filed, Desired.change, replace, recreate]
  | recreate d v recreates =>
    rw [recreate] at recreates
    cases recreates
  | replace d v _ replaces =>
    rw [replace] at replaces
    cases replaces
  | delete kind ns name v | gone kind ns name => rfl

/-- The status of a deployment is written anew. -/
def Restated (options : Options) (desired : Desired) (before after : Option Json) : Prop :=
  options.replace = true ∧ options.recreate = false ∧ desired.isPresent = true ∧
    desired.kind = .deploymentConfig ∧
    ∃ v w, before = some v ∧ after = some w ∧ w.without "status" = v.without "status"

/-- Another pass leaves the final form, or it writes the status of a deployment anew. -/
theorem Desired.settled_settled (desired : Desired) (options : Options) (live : Option Json) :
    desired.settled options (desired.settled options live) = desired.settled options live ∨
      Restated options desired (desired.settled options live)
        (desired.settled options (desired.settled options live)) := by
  cases desired with
  | absent kind ns name => cases live <;> exact Or.inl rfl
  | present d =>
    cases recreate : options.recreate with
    | true => cases live <;> simp [Desired.settled, Desired.change, Change.filed, recreate]
    | false =>
      cases replace : options.replace with
      | false =>
        cases live <;> simp [Desired.settled, Desired.change, Change.filed, recreate, replace]
      | true =>
        -- the first pass left some manifest, and the second one replaces it
        have second (v : Json) : (Desired.present d).settled options (some v) =
            some (d.kind.prepareReplace d v).manifest := by
          simp [Desired.settled, Desired.change, Change.filed, recreate, replace]
        have first : ∃ sent : Descriptor, (Desired.present d).settled options live =
            some sent.manifest ∧ sent.manifest.without "status" = d.manifest.without "status" ∧
            (d.kind ≠ .deploymentConfig → sent = d) := by
          cases live with
          | none => exact ⟨d, rfl, rfl, fun _ => rfl⟩
          | some v =>
            exact ⟨_, second v, d.kind.prepareReplace_without d v,
              fun other => Kind.prepareReplace_of_ne other d v⟩
        obtain ⟨sent, sends, same, other⟩ := first
        rw [sends, second]
        by_cases deployment : d.kind = .deploymentConfig
        · refine Or.inr ⟨replace, recreate, rfl, deployment, _, _, rfl, rfl, ?_⟩
          rw [same, Kind.prepareReplace_without]
        · rw [other deployment, Kind.prepareReplace_of_ne deployment]
          exact Or.inl rfl

/-! ## Runs with nothing to do -/

namespace Memory

/-- Every resource is as it is wanted, and its namespace is there if it needs one. -/
structure Steady (options : Options) (desired : List Desired) (m : Memory) : Prop where
  settled : ∀ d ∈ desired, d.change (m.objects.get? d.key) options = .none
  placed : ∀ d ∈ desired, d.isPresent = true → d.ns ∈ m.namespaces

theorem Taking.eq_of_look {m m' : Memory} {e : Exchange} (h : m.Taking e m')
    (look : e.1.isMutation = false) : m' = m := by
  cases h with
  | looked | searched => rfl
  | created | occupied | replaced | deleted | undeleted | founded | raced => cases look

/-- Looks leave a cluster as it is. -/
theorem eq_of_looks {m m' : Memory} {t : List Exchange} (answered : client.Answers m t m')
    (looks : ∀ e ∈ t, e.1.isMutation = false) : m' = m := by
  induction t generalizing m with
  | nil =>
    cases answered
    rfl
  | cons e rest ih =>
    obtain ⟨between, taking, later⟩ := answers_cons answered
    obtain rfl := taking.eq_of_look (looks e List.mem_cons_self)
    exact ih later fun e listed => looks e (List.mem_cons_of_mem _ listed)

end Memory

section Steady

variable {noun : String} {options : Options} {ensured : List String} {m m' : Memory}
  {t : List Exchange}

theorem Preparing.steady {desired : Desired} {r : Except Failure Bool}
    (h : Preparing options ensured desired t r) (answered : Memory.client.Answers m t m')
    (placed : desired.isPresent = true → desired.ns ∈ m.namespaces) :
    (∀ e ∈ t, e.1.isMutation = false) ∧ ∀ existed, r = .ok existed → existed = true := by
  cases h with
  | known closed => simp
  | ensured opens look =>
    have there : m.hasNamespace desired.ns = true :=
      Memory.hasNamespace_iff.mpr (placed (Desired.opensNamespace_iff.mp opens).1)
    have found {answer : Except Failure Bool} {rest : List Exchange}
        (answered : Memory.client.Answers m (⟨.namespaceExists desired.ns, answer⟩ :: rest) m') :
        answer = .ok true := by
      obtain ⟨between, taking, _⟩ := Memory.answers_cons answered
      rw [taking.of_search.1, there]
    cases look with
    | misnamed bad => simp
    | there good => simp [Call.isMutation]
    | unseen | missing | created | raced | refused => cases found answered

theorem Passing.steady {desired : Desired} {r : Except Failure Outcome}
    (h : Passing options desired t r) (answered : Memory.client.Answers m t m')
    (settled : desired.change (m.objects.get? desired.key) options = .none) :
    (∀ e ∈ t, e.1.isMutation = false) ∧
      ∀ outcome, r = .ok outcome → outcome.decision.changed = false := by
  have found {answer : Except Failure (Option Json)} {rest : List Exchange}
      (answered : Memory.client.Answers m (desired.look answer :: rest) m') :
      answer = .ok (m.objects.get? desired.key) := by
    obtain ⟨between, taking, _⟩ := Memory.answers_cons answered
    exact taking.of_look.1
  have ending (state : Option Json) (outcome : Outcome)
      (same : Except.ok ⟨decide desired (m.objects.get? desired.key) options, state⟩ =
        (.ok outcome : Except Failure Outcome)) : outcome.decision.changed = false := by
    cases same
    rw [Decision.changed, decide, settled]
    rfl
  cases h with
  | unseen failure => cases found answered
  | checked dry live =>
    cases found answered
    exact ⟨by simp [Desired.look, Call.isMutation], ending _⟩
  | broken real live change =>
    cases found answered
    rw [settled] at change
    cases change
  | lost real present live change failure =>
    cases found answered
    rw [settled] at change
    cases change
    simp [Desired.look, Call.isMutation]
  | settled real present live change state =>
    cases found answered
    rw [settled] at change
    cases change
    exact ⟨by simp [Desired.look, Call.isMutation], ending _⟩
  | gone real absent live change =>
    cases found answered
    rw [settled] at change
    cases change
    exact ⟨by simp [Desired.look, Call.isMutation], ending _⟩

theorem Report.Agrees.unchanged {a b : Report} (h : a.Agrees b) (kind : Kind) (ns name : String)
    {outcome : Outcome} (unchanged : outcome.decision.changed = false) :
    (a.record kind ns name outcome).Agrees b := by
  constructor
  · rw [record_actions, Decision.lines, unchanged, h.1]
    exact List.append_nil b.actions
  · rw [record_changed, unchanged, Bool.or_false, h.2]

theorem Visiting.steady {desired : Desired} {report after : Report} {r : Except Failure Unit}
    (h : Visiting noun options ensured desired report t r after)
    (answered : Memory.client.Answers m t m')
    (placed : desired.isPresent = true → desired.ns ∈ m.namespaces)
    (settled : desired.change (m.objects.get? desired.key) options = .none) :
    (∀ e ∈ t, e.1.isMutation = false) ∧ after.Agrees report := by
  cases h with
  | unprepared prepared => exact ⟨(prepared.steady answered placed).1, rfl, rfl⟩
  | failed prepared pass =>
    obtain ⟨between, first, second⟩ := Client.answers_append_iff.mp answered
    obtain ⟨looks, existed⟩ := prepared.steady first placed
    obtain rfl := Memory.eq_of_looks first looks
    obtain rfl := existed _ rfl
    exact ⟨List.forall_mem_append.mpr ⟨looks, (pass.steady second settled).1⟩, rfl, rfl⟩
  | passed prepared pass =>
    obtain ⟨between, first, second⟩ := Client.answers_append_iff.mp answered
    obtain ⟨looks, existed⟩ := prepared.steady first placed
    obtain rfl := Memory.eq_of_looks first looks
    obtain rfl := existed _ rfl
    obtain ⟨others, unchanged⟩ := pass.steady second settled
    refine ⟨List.forall_mem_append.mpr ⟨looks, others⟩, ?_⟩
    exact Report.Agrees.unchanged ⟨rfl, rfl⟩ _ _ _ (unchanged _ rfl)

/-- A run with nothing to do only looks, and reports no change. -/
theorem Running.steady {desired : List Desired} {report after : Report} {r : Except Failure Unit}
    (h : Running noun options ensured desired report t r after)
    (answered : Memory.client.Answers m t m') (steady : m.Steady options desired) :
    (∀ e ∈ t, e.1.isMutation = false) ∧ after.Agrees report := by
  induction h generalizing m with
  | finished => exact ⟨List.forall_mem_nil _, rfl, rfl⟩
  | stopped rest visit =>
    exact visit.steady answered (steady.placed _ List.mem_cons_self)
      (steady.settled _ List.mem_cons_self)
  | next visit others ih =>
    obtain ⟨between, first, second⟩ := Client.answers_append_iff.mp answered
    obtain ⟨looks, same⟩ := visit.steady first (steady.placed _ List.mem_cons_self)
      (steady.settled _ List.mem_cons_self)
    obtain rfl := Memory.eq_of_looks first looks
    obtain ⟨laterLooks, later⟩ := ih second
      ⟨fun d listed => steady.settled d (List.mem_cons_of_mem _ listed),
        fun d listed => steady.placed d (List.mem_cons_of_mem _ listed)⟩
    exact ⟨List.forall_mem_append.mpr ⟨looks, laterLooks⟩, later.1.trans same.1,
      later.2.trans same.2⟩

end Steady

/-- A second run over distinct resources, with the same options, leaves the namespaces and all
resources as the first one has left them; only the status of a deployment that is replaced is
written anew. Unless it is to replace or recreate what is there, it asks for no change, and
its report tells of none. -/
theorem reconcileAll_settles_once (noun : String) {options : Options}
    (real : options.dryRun = false) {desired : List Desired}
    (distinct : (desired.map Desired.identity).Nodup)
    (heads : ∀ d, .present d ∈ desired → d.KeepsHead)
    (names : ∀ d, .present d ∈ desired → isName d.ns = true)
    (m : Memory) (report again : Report) :
    ∃ report' once,
      (reconcileAll noun options desired report).run Memory.client m =
        ((.ok (), report'), once) ∧
      ∃ again' twice,
        (reconcileAll noun options desired again).run Memory.client once =
          ((.ok (), again'), twice) ∧
        (options.replace = false → options.recreate = false →
          (∀ e ∈ (reconcileAll noun options desired again).transcript Memory.client once,
            e.1.isMutation = false) ∧
          again'.changed = again.changed ∧ again'.actions = again.actions) ∧
        (∀ ns, ns ∈ twice.namespaces ↔ ns ∈ once.namespaces) ∧
        ∀ k, twice.objects.get? k = once.objects.get? k ∨
          ∃ d ∈ desired, d.key = k ∧
            Restated options d (once.objects.get? k) (twice.objects.get? k) := by
  have good : ∀ d ∈ desired, d.isPresent = true → isName d.ns = true := by
    intro d listed present
    cases d with
    | present d => exact names d listed
    | absent kind ns name => cases present
  have settles := reconcileFrom_settles noun real (Desired.nodup_keys distinct)
    (Desired.keepsHead_of heads) good []
  obtain ⟨report', once, ran, first⟩ := settles m report
  obtain ⟨again', twice, reran, second⟩ := settles once again
  have placed : ∀ d ∈ desired, d.isPresent = true → d.ns ∈ once.namespaces := by
    intro d listed present
    exact (first.namespaces d.ns).mpr (Or.inr ⟨List.not_mem_nil, d, listed, present, rfl⟩)
  refine ⟨report', once, ran, again', twice, reran, ?_, ?_, ?_⟩
  · intro replace recreate
    have steady : once.Steady options desired := by
      refine ⟨?_, placed⟩
      intro d listed
      rw [first.listed d listed]
      exact d.change_settled _ replace recreate
    have run := reconcileAll_running Memory.client noun options desired again once
    have answered := Client.answers_transcript Memory.client
      (reconcileAll noun options desired again) once
    obtain ⟨looks, agrees⟩ := run.steady answered steady
    rw [reconcileAll, reran] at agrees
    exact ⟨looks, agrees.2, agrees.1⟩
  · intro ns
    rw [second.namespaces ns]
    refine ⟨?_, Or.inl⟩
    rintro (there | ⟨_, d, listed, present, rfl⟩)
    · exact there
    · exact placed d listed present
  · intro k
    by_cases listed : k ∈ desired.map Desired.key
    · obtain ⟨d, wanted, rfl⟩ := List.mem_map.mp listed
      rw [second.listed d wanted, first.listed d wanted]
      rcases d.settled_settled options (m.objects.get? d.key) with same | restated
      · exact Or.inl same
      · exact Or.inr ⟨d, wanted, rfl, restated⟩
    · exact Or.inl (second.untouched k listed)

theorem reconcileAll_settles_batch_once :
    (Batch.desired.map Desired.identity).Nodup ∧
    (∀ d, .present d ∈ Batch.desired → d.KeepsHead) ∧
    (∀ d, .present d ∈ Batch.desired → isName d.ns = true) ∧
    ∃ report' once,
      (reconcileAll "namespace" ⟨false, false, false⟩ Batch.desired .empty).run Memory.client
        Batch.cluster = ((.ok (), report'), once) ∧
      ∃ again' twice,
        (reconcileAll "namespace" ⟨false, false, false⟩ Batch.desired .empty).run Memory.client
          once = ((.ok (), again'), twice) ∧
        (∀ e ∈ (reconcileAll "namespace" ⟨false, false, false⟩ Batch.desired .empty).transcript
          Memory.client once, e.1.isMutation = false) ∧
        again'.changed = false ∧ again'.actions = [] := by
  have distinct : (Batch.desired.map Desired.identity).Nodup := by decide
  have heads : ∀ d, .present d ∈ Batch.desired → d.KeepsHead := by
    intro d listed
    rcases Batch.mem_desired listed with rfl | rfl <;> decide
  have names : ∀ d, .present d ∈ Batch.desired → isName d.ns = true := by
    intro d listed
    rcases Batch.mem_desired listed with rfl | rfl <;> decide
  have real : (⟨false, false, false⟩ : Options).dryRun = false := rfl
  obtain ⟨report', once, ran, again', twice, reran, idle, _⟩ :=
    reconcileAll_settles_once "namespace" real distinct heads names Batch.cluster .empty .empty
  exact ⟨distinct, heads, names, report', once, ran, again', twice, reran, idle rfl rfl⟩

/-- A deployment that is replaced again is one version further. -/
example :
    let run :=
      (reconcileAll "namespace" ⟨true, false, false⟩ Batch.desired .empty).run Memory.client
    let version := fun m : Memory => ((m.find? .deploymentConfig "shop" "web").bind
      (Json.at? ["status", "latestVersion"])).bind Json.asInt64?
    version (run Batch.cluster).2 = some 1 ∧ version (run (run Batch.cluster).2).2 = some 2 :=
  ⟨rfl, rfl⟩

end Converge
