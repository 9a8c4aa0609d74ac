import Converge.Proofs.Memory

/-!
# Convergence

A real run over distinct resources brings a cluster in memory to the desired state: what
should be absent is gone, what should be present is there in the form that the options
ask for, and nothing else has changed. The run visits one resource at a time, so what is
filed for a resource changes at its own visit only.
-/

namespace Converge

namespace Memory

def find? (m : Memory) (kind : Kind) (ns name : String) : Option Json :=
  m.objects.get? (key kind ns name)

/-- How a cluster is related to what it was before a real run. -/
structure Converged (options : Options) (desired : List Desired) (before after : Memory) :
    Prop where
  gone : ∀ kind ns name, .absent kind ns name ∈ desired → after.find? kind ns name = none
  created : ∀ d, .present d ∈ desired → before.find? d.kind d.ns d.name = none →
    after.find? d.kind d.ns d.name = some d.manifest
  recreated : ∀ d v, .present d ∈ desired → before.find? d.kind d.ns d.name = some v →
    options.recreate = true → after.find? d.kind d.ns d.name = some d.manifest
  replaced : ∀ d v, .present d ∈ desired → before.find? d.kind d.ns d.name = some v →
    options.recreate = false → options.replace = true →
    after.find? d.kind d.ns d.name = some (d.kind.prepareReplace d v).manifest
  kept : ∀ d v, .present d ∈ desired → before.find? d.kind d.ns d.name = some v →
    options.recreate = false → options.replace = false →
    after.find? d.kind d.ns d.name = some v
  untouched : ∀ k, k ∉ desired.map Desired.key → after.objects.get? k = before.objects.get? k
  namespaces : ∀ ns, ns ∈ after.namespaces ↔
    ns ∈ before.namespaces ∨ ∃ d, .present d ∈ desired ∧ d.ns = ns

/-- What visits to some resources do to a cluster, the ensured namespaces being left alone. -/
structure Settled (options : Options) (ensured : List String) (desired : List Desired)
    (before after : Memory) : Prop where
  listed : ∀ d ∈ desired, after.objects.get? d.key = d.settled options (before.objects.get? d.key)
  untouched : ∀ k, k ∉ desired.map Desired.key → after.objects.get? k = before.objects.get? k
  namespaces : ∀ ns, ns ∈ after.namespaces ↔
    ns ∈ before.namespaces ∨ ns ∉ ensured ∧ ∃ d ∈ desired, d.isPresent = true ∧ d.ns = ns

theorem Settled.nil (options : Options) (ensured : List String) (m : Memory) :
    Settled options ensured [] m m := by
  refine ⟨by simp, fun k _ => rfl, by simp⟩

/-- A visit comes before the visits to other resources. -/
theorem Settled.cons {options : Options} (real : options.dryRun = false) {ensured : List String}
    {first : Desired} (head : first.KeepsHead) {rest : List Desired}
    (fresh : first.key ∉ rest.map Desired.key) {m after : Memory}
    (others : Settled options (first.ensuredWith ensured) rest (m.visited options ensured first)
      after) :
    Settled options ensured (first :: rest) m after := by
  refine ⟨?_, ?_, ?_⟩
  · intro d listed
    rcases List.mem_cons.mp listed with rfl | later
    · rw [others.untouched _ fresh, visited_objects m real ensured head, if_pos rfl]
    · have different : first.key ≠ d.key := by
        intro same
        exact fresh (same ▸ List.mem_map_of_mem later)
      rw [others.listed d later, visited_objects m real ensured head, if_neg different]
  · intro k unlisted
    obtain ⟨different, later⟩ := not_or.mp fun listed => unlisted (List.mem_cons.mpr listed)
    rw [others.untouched k later, visited_objects m real ensured head,
      if_neg fun same => different same.symm]
  · intro ns
    rw [others.namespaces, mem_visited_namespaces m real, Desired.mem_ensuredWith]
    simp only [List.mem_cons, exists_eq_or_imp]
    by_cases here : first.isPresent = true ∧ first.ns = ns
    · simp [here]
    · simp [here]

end Memory

/-- Visiting one resource after another gives each its final form and leaves all others. -/
theorem reconcileFrom_settles (noun : String) {options : Options} (real : options.dryRun = false)
    {desired : List Desired} (distinct : (desired.map Desired.key).Nodup)
    (heads : ∀ d ∈ desired, d.KeepsHead)
    (names : ∀ d ∈ desired, d.isPresent = true → isName d.ns = true)
    (ensured : List String) (m : Memory) (report : Report) :
    ∃ report' after,
      (reconcileFrom noun options ensured desired report).run Memory.client m =
        ((.ok (), report'), after) ∧
      Memory.Settled options ensured desired m after := by
  induction desired generalizing ensured m report with
  | nil => exact ⟨report, m, rfl, .nil options ensured m⟩
  | cons first rest ih =>
    obtain ⟨fresh, distinct⟩ := List.nodup_cons.mp distinct
    have head := heads first List.mem_cons_self
    have good : first.opensNamespace ensured = true → isName first.ns = true := fun opens =>
      names first List.mem_cons_self (Desired.opensNamespace_iff.mp opens).1
    obtain ⟨report', after, ran, others⟩ :=
      ih distinct (fun d hd => heads d (List.mem_cons_of_mem _ hd))
        (fun d hd => names d (List.mem_cons_of_mem _ hd)) (first.ensuredWith ensured)
        (m.visited options ensured first) (m.report noun options ensured first report)
    rw [Memory.run_next m noun options head good]
    exact ⟨report', after, ran, others.cons real head fresh⟩

namespace Memory

/-- The final forms, told apart by what was there and what the options ask for. -/
theorem Settled.converged {options : Options} {desired : List Desired} {before after : Memory}
    (h : Settled options [] desired before after) : Converged options desired before after := by
  have final (d : Descriptor) (listed : Desired.present d ∈ desired) :
      after.find? d.kind d.ns d.name =
        (Desired.present d).settled options (before.find? d.kind d.ns d.name) :=
    h.listed _ listed
  refine ⟨?_, ?_, ?_, ?_, ?_, h.untouched, ?_⟩
  · intro kind ns name listed
    have last := h.listed _ listed
    cases live : before.objects.get? (Desired.absent kind ns name).key with
    | none => exact last.trans (by rw [live]; rfl)
    | some v => exact last.trans (by rw [live]; rfl)
  · intro d listed missing
    rw [final d listed, missing]
    rfl
  · intro d v listed live recreate
    rw [final d listed, live, Desired.settled, Desired.change, if_pos recreate]
    rfl
  · intro d v listed live recreate replace
    have overwrite : ¬options.recreate = true := by simp [recreate]
    rw [final d listed, live, Desired.settled, Desired.change, if_neg overwrite, if_pos replace]
    rfl
  · intro d v listed live recreate replace
    have keep : ¬options.recreate = true ∧ ¬options.replace = true := by simp [recreate, replace]
    rw [final d listed, live, Desired.settled, Desired.change, if_neg keep.1, if_neg keep.2]
    rfl
  · intro ns
    rw [h.namespaces ns]
    refine or_congr Iff.rfl ⟨?_, ?_⟩
    · rintro ⟨_, d, listed, present, same⟩
      cases d with
      | present d => exact ⟨d, listed, same⟩
      | absent kind ns name => cases present
    · rintro ⟨d, listed, same⟩
      exact ⟨List.not_mem_nil, .present d, listed, rfl, same⟩

end Memory

/-- A real run over distinct resources succeeds and brings the cluster to the desired state. -/
theorem reconcileAll_converges (noun : String) {options : Options} (real : options.dryRun = false)
    {desired : List Desired} (distinct : (desired.map Desired.identity).Nodup)
    (heads : ∀ d, .present d ∈ desired → d.KeepsHead)
    (names : ∀ d, .present d ∈ desired → isName d.ns = true)
    (m : Memory) (report : Report) :
    ∃ report' after,
      (reconcileAll noun options desired report).run Memory.client m =
        ((.ok (), report'), after) ∧
      Memory.Converged options desired m after := by
  have good : ∀ d ∈ desired, d.isPresent = true → isName d.ns = true := by
    intro d listed present
    cases d with
    | present d => exact names d listed
    | absent kind ns name => cases present
  obtain ⟨report', after, ran, settled⟩ :=
    reconcileFrom_settles noun real (Desired.nodup_keys distinct) (Desired.keepsHead_of heads) good
      [] m report
  exact ⟨report', after, ran, settled.converged⟩

namespace Batch

def web : Descriptor :=
  .bare .deploymentConfig "web" "shop" (.ofList [("spec", .obj [("replicas", .int 1)])])

def data : Descriptor :=
  .bare .persistentVolumeClaim "data" "store" (.ofList [("spec", .obj [])])

/-- A deployment to be replaced, a volume claim in a new namespace, and a route to be removed. -/
def desired : List Desired := [.present web, .present data, .absent .route "shop" "old"]

def cluster : Memory :=
  .ofContents ["shop"] [web.manifest, (Descriptor.bare .route "old" "shop" .empty).manifest]

theorem mem_desired {d : Descriptor} (listed : .present d ∈ desired) : d = web ∨ d = data := by
  simpa [desired] using listed

end Batch

theorem batch_converges :
    (Batch.desired.map Desired.identity).Nodup ∧
    (∀ d, .present d ∈ Batch.desired → d.KeepsHead) ∧
    (∀ d, .present d ∈ Batch.desired → isName d.ns = true) ∧
    ∃ report' after,
      (reconcileAll "namespace" ⟨true, false, false⟩ Batch.desired .empty).run Memory.client
        Batch.cluster = ((.ok (), report'), after) ∧
      Memory.Converged ⟨true, false, false⟩ Batch.desired Batch.cluster after := by
  have distinct : (Batch.desired.map Desired.identity).Nodup := by decide
  have heads : ∀ d, .present d ∈ Batch.desired → d.KeepsHead := by
    intro d listed
    rcases Batch.mem_desired listed with rfl | rfl <;> decide
  have names : ∀ d, .present d ∈ Batch.desired → isName d.ns = true := by
    intro d listed
    rcases Batch.mem_desired listed with rfl | rfl <;> decide
  exact ⟨distinct, heads, names,
    reconcileAll_converges "namespace" rfl distinct heads names Batch.cluster .empty⟩

end Converge
