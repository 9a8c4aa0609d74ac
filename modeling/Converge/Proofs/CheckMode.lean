import Converge.Proofs.Memory

/-!
# Check mode

A dry run over distinct resources predicts the real one. The two clusters drift apart
while the real run goes on, but only where it does not look again: on the resources that
it has visited, and on the namespaces that it has ensured.
-/

namespace Converge

namespace Report

def Agrees (a b : Report) : Prop := a.actions = b.actions ∧ a.changed = b.changed

theorem Agrees.recordNamespace {a b : Report} (h : a.Agrees b) (noun ns : String)
    (existed : Bool) :
    (a.recordNamespace noun ns existed).Agrees (b.recordNamespace noun ns existed) := by
  constructor
  · rw [recordNamespace_actions, recordNamespace_actions, h.1]
  · rw [recordNamespace_changed, recordNamespace_changed, h.2]

theorem Agrees.record {a b : Report} (h : a.Agrees b) (kind : Kind) (ns name : String)
    {o p : Outcome} (same : o.decision = p.decision) :
    (a.record kind ns name o).Agrees (b.record kind ns name p) := by
  constructor
  · rw [record_actions, record_actions, h.1, same]
  · rw [record_changed, record_changed, h.2, same]

end Report

namespace Memory

/-- The clusters look alike to what is still to be visited. -/
structure Alike (ensured : List String) (desired : List Desired) (dry real : Memory) : Prop where
  objects : ∀ d ∈ desired, real.objects.get? d.key = dry.objects.get? d.key
  namespaces : ∀ ns, ns ∉ ensured → (ns ∈ real.namespaces ↔ ns ∈ dry.namespaces)

theorem Alike.refl (desired : List Desired) (m : Memory) : Alike [] desired m m :=
  ⟨fun _ _ => rfl, fun _ _ => Iff.rfl⟩

theorem visited_dry (m : Memory) {options : Options} (dry : options.dryRun = true)
    (ensured : List String) (desired : Desired) : m.visited options ensured desired = m := by
  rw [visited, settle, readied, dry, Bool.not_true, Bool.and_false]
  rfl

section Step

variable {ensured : List String} {first : Desired} {rest : List Desired} {m m' : Memory}

theorem Alike.visited (alike : Alike ensured (first :: rest) m m') {options : Options}
    (real : options.dryRun = false) (head : first.KeepsHead)
    (fresh : first.key ∉ rest.map Desired.key) :
    Alike (first.ensuredWith ensured) rest m (m'.visited options ensured first) := by
  refine ⟨?_, ?_⟩
  · intro d later
    have different : first.key ≠ d.key := fun same => fresh (same ▸ List.mem_map_of_mem later)
    rw [visited_objects m' real ensured head, if_neg different]
    exact alike.objects d (List.mem_cons_of_mem _ later)
  · intro ns new
    obtain ⟨new, other⟩ := not_or.mp fun h => new (Desired.mem_ensuredWith.mpr h)
    rw [mem_visited_namespaces m' real, ← alike.namespaces ns new]
    exact ⟨fun h => h.elim id fun h => absurd h.2 other, Or.inl⟩

theorem Alike.knows (alike : Alike ensured (first :: rest) m m') :
    m'.knows ensured first = m.knows ensured first := by
  rw [Memory.knows, Memory.knows]
  cases opens : first.opensNamespace ensured with
  | false => rfl
  | true =>
    have new := (Desired.opensNamespace_iff.mp opens).2
    have same : m'.hasNamespace first.ns = m.hasNamespace first.ns := by
      rw [Bool.eq_iff_iff, hasNamespace_iff, hasNamespace_iff]
      exact alike.namespaces first.ns new
    rw [same]

theorem Alike.report (alike : Alike ensured (first :: rest) m m') (noun : String)
    (replace recreate : Bool) {before before' : Report} (agree : before.Agrees before') :
    (m.report noun ⟨replace, recreate, true⟩ ensured first before).Agrees
      (m'.report noun ⟨replace, recreate, false⟩ ensured first before') := by
  rw [Memory.report, Memory.report, alike.knows]
  refine (agree.recordNamespace noun first.ns _).record first.kind first.ns first.name ?_
  rw [outcome, outcome, readied_objects, readied_objects, alike.objects first List.mem_cons_self]
  rfl

end Step

end Memory

/-- How a run over distinct resources may end on a cluster in memory. -/
def Foreseen (desired : List Desired) (r : Except Failure Unit) : Prop :=
  r = .ok () ∨ ∃ d, .present d ∈ desired ∧ isName d.ns = false ∧
    r = .error (.invalid (.badName "Namespace" d.ns))

theorem reconcileFrom_predicts (noun : String) (replace recreate : Bool) {desired : List Desired}
    (distinct : (desired.map Desired.key).Nodup) (heads : ∀ d ∈ desired, d.KeepsHead)
    {ensured : List String} {m m' : Memory} (alike : Memory.Alike ensured desired m m')
    {before before' : Report} (agree : before.Agrees before') :
    ∃ r report report' after,
      (reconcileFrom noun ⟨replace, recreate, true⟩ ensured desired before).run Memory.client m =
        ((r, report), m) ∧
      (reconcileFrom noun ⟨replace, recreate, false⟩ ensured desired before').run Memory.client m' =
        ((r, report'), after) ∧
      report.Agrees report' ∧ Foreseen desired r := by
  induction desired generalizing ensured m' before before' with
  | nil => exact ⟨.ok (), before, before', m', rfl, rfl, agree, Or.inl rfl⟩
  | cons first rest ih =>
    obtain ⟨fresh, distinct⟩ := List.nodup_cons.mp distinct
    have head := heads first List.mem_cons_self
    by_cases bad : first.opensNamespace ensured = true ∧ isName first.ns = false
    · refine ⟨_, before, before', m', Memory.run_stopped m noun _ bad.1 bad.2 rest before,
        Memory.run_stopped m' noun _ bad.1 bad.2 rest before', agree, Or.inr ?_⟩
      cases first with
      | present d => exact ⟨d, List.mem_cons_self, bad.2, rfl⟩
      | absent kind ns name => cases (Desired.opensNamespace_iff.mp bad.1).1
    · have good : first.opensNamespace ensured = true → isName first.ns = true := by
        intro opens
        cases named : isName first.ns with
        | true => rfl
        | false => exact absurd ⟨opens, named⟩ bad
      have real : (⟨replace, recreate, false⟩ : Options).dryRun = false := rfl
      obtain ⟨r, report, report', after, dry, real, agree, ends⟩ :=
        ih distinct (fun d later => heads d (List.mem_cons_of_mem _ later))
          (alike.visited real head fresh)
          (alike.report noun replace recreate agree)
      rw [Memory.run_next m noun _ head good, Memory.run_next m' noun _ head good,
        Memory.visited_dry m rfl]
      refine ⟨r, report, report', after, dry, real, agree, ?_⟩
      rcases ends with ok | ⟨d, later, unnamed, failed⟩
      · exact Or.inl ok
      · exact Or.inr ⟨d, List.mem_cons_of_mem _ later, unnamed, failed⟩

/-- A dry run ends as the real run does and tells of the same actions, and leaves the
cluster as it was. -/
theorem dryRun_predicts (noun : String) (replace recreate : Bool) {desired : List Desired}
    (distinct : (desired.map Desired.identity).Nodup)
    (heads : ∀ d, .present d ∈ desired → d.KeepsHead) (m : Memory) :
    ∃ r report report' after,
      (reconcileAll noun ⟨replace, recreate, true⟩ desired .empty).run Memory.client m =
        ((r, report), m) ∧
      (reconcileAll noun ⟨replace, recreate, false⟩ desired .empty).run Memory.client m =
        ((r, report'), after) ∧
      report.actions = report'.actions ∧ report.changed = report'.changed ∧ Foreseen desired r := by
  obtain ⟨r, report, report', after, dry, real, agree, ends⟩ :=
    reconcileFrom_predicts noun replace recreate (Desired.nodup_keys distinct)
      (Desired.keepsHead_of heads) (Memory.Alike.refl desired m) ⟨rfl, rfl⟩
  exact ⟨r, report, report', after, dry, real, agree.1, agree.2, ends⟩

namespace Batch

def secret : Descriptor :=
  .bare .secret "token" "shop" (.ofList [("type", .str "Opaque")])

def unnamed : Descriptor := .bare .service "web" "Shop" .empty

/-- A secret to be recreated, a route that is not there, and a service that cannot be placed. -/
def unplaceable : List Desired :=
  [.present secret, .absent .route "shop" "old", .present unnamed]

end Batch

theorem dryRun_predicts_unplaceable :
    (Batch.unplaceable.map Desired.identity).Nodup ∧
    (∀ d, .present d ∈ Batch.unplaceable → d.KeepsHead) ∧
    ∃ r report report' after,
      (reconcileAll "namespace" ⟨true, true, true⟩ Batch.unplaceable .empty).run Memory.client
        (.ofContents [] [Batch.secret.manifest]) =
          ((r, report), .ofContents [] [Batch.secret.manifest]) ∧
      (reconcileAll "namespace" ⟨true, true, false⟩ Batch.unplaceable .empty).run Memory.client
        (.ofContents [] [Batch.secret.manifest]) = ((r, report'), after) ∧
      report.actions = report'.actions ∧ report.changed = report'.changed ∧
      Foreseen Batch.unplaceable r := by
  have distinct : (Batch.unplaceable.map Desired.identity).Nodup := by decide
  have heads : ∀ d, .present d ∈ Batch.unplaceable → d.KeepsHead := by
    intro d listed
    have known : d = Batch.secret ∨ d = Batch.unnamed := by simpa [Batch.unplaceable] using listed
    rcases known with rfl | rfl <;> decide
  exact ⟨distinct, heads, dryRun_predicts "namespace" true true distinct heads _⟩

end Converge
