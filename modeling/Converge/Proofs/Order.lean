import Converge.Proofs.Convergence
import Converge.Proofs.Telling
import Converge.Proofs.Tour
import Mathlib.Data.List.Nodup

/-!
# The order of resources

A run over distinct resources may take them in any order. What it leaves is read off the
cluster as it was: each resource is visited once, and none of the other visits changes what is
filed for it. Only the visit that creates a namespace depends on the order, not the namespaces
that are created.
-/

namespace Converge

namespace Memory

/-! ## What a run tells, read off the cluster before it -/

/-- The namespaces that visits to some resources do not find, in their order. -/
def lacking (m : Memory) : List String → List Desired → List String
  | _, [] => []
  | ensured, first :: rest =>
    (if m.knows ensured first then [] else [first.ns]) ++
      m.lacking (first.ensuredWith ensured) rest

/-- The lines that visits to distinct resources add to a report. -/
def foretold (m : Memory) (noun : String) (options : Options) :
    List String → List Desired → List String
  | _, [] => []
  | ensured, first :: rest =>
    ((if m.knows ensured first then [] else ["Create " ++ noun ++ " " ++ first.ns]) ++
      (decide first (m.objects.get? first.key) options).lines) ++
      m.foretold noun options (first.ensuredWith ensured) rest

variable {m : Memory} {ensured : List String} {desired reordered : List Desired}

theorem knows_eq_false_iff {first : Desired} :
    m.knows ensured first = false ↔
      first.isPresent = true ∧ first.ns ∉ ensured ∧ first.ns ∉ m.namespaces := by
  rw [knows, Bool.or_eq_false_iff, Bool.not_eq_false', Desired.opensNamespace_iff, and_assoc,
    Bool.eq_false_iff, Ne, hasNamespace_iff]

theorem mem_lacking {ns : String} :
    ns ∈ m.lacking ensured desired ↔
      ns ∉ ensured ∧ ns ∉ m.namespaces ∧ ∃ d ∈ desired, d.isPresent = true ∧ d.ns = ns := by
  induction desired generalizing ensured with
  | nil => simp [lacking]
  | cons first rest ih =>
    have own : ns ∈ (if m.knows ensured first then [] else [first.ns]) ↔
        (first.isPresent = true ∧ first.ns = ns) ∧ ns ∉ ensured ∧ ns ∉ m.namespaces := by
      cases found : m.knows ensured first with
      | true =>
        refine iff_of_false List.not_mem_nil ?_
        rintro ⟨⟨present, rfl⟩, new, missing⟩
        rw [knows_eq_false_iff.mpr ⟨present, new, missing⟩] at found
        cases found
      | false =>
        obtain ⟨present, new, missing⟩ := knows_eq_false_iff.mp found
        refine List.mem_singleton.trans ⟨?_, fun h => h.1.2.symm⟩
        rintro rfl
        exact ⟨⟨present, rfl⟩, new, missing⟩
    rw [lacking, List.mem_append, own, ih, Desired.mem_ensuredWith]
    simp only [List.mem_cons, exists_eq_or_imp]
    by_cases here : first.isPresent = true ∧ first.ns = ns
    · simp [here]
    · simp [here]

theorem nodup_lacking : (m.lacking ensured desired).Nodup := by
  induction desired generalizing ensured with
  | nil => exact List.nodup_nil
  | cons first rest ih =>
    rw [lacking]
    cases found : m.knows ensured first with
    | true => exact ih
    | false =>
      refine List.nodup_cons.mpr ⟨fun again => ?_, ih⟩
      exact (mem_lacking.mp again).1
        (Desired.mem_ensuredWith.mpr (Or.inr ⟨(knows_eq_false_iff.mp found).1, rfl⟩))

/-- Which namespaces are missing does not depend on the order of the visits. -/
theorem lacking_perm (perm : desired.Perm reordered) :
    (m.lacking ensured desired).Perm (m.lacking ensured reordered) := by
  refine (List.perm_ext_iff_of_nodup nodup_lacking nodup_lacking).mpr fun ns => ?_
  simp only [mem_lacking, perm.mem_iff]

theorem foretold_perm_lines (noun : String) (options : Options) :
    (m.foretold noun options ensured desired).Perm
      ((m.lacking ensured desired).map (fun ns => "Create " ++ noun ++ " " ++ ns) ++
        desired.flatMap fun d => (decide d (m.objects.get? d.key) options).lines) := by
  induction desired generalizing ensured with
  | nil => exact .refl _
  | cons first rest ih =>
    have own : (if m.knows ensured first then [] else ["Create " ++ noun ++ " " ++ first.ns]) =
        (if m.knows ensured first then [] else [first.ns]).map
          (fun ns => "Create " ++ noun ++ " " ++ ns) := by
      cases m.knows ensured first <;> rfl
    rw [foretold, lacking, List.map_append, List.flatMap_cons, own, List.append_assoc,
      List.append_assoc]
    exact ((ih.append_left _).trans (List.perm_append_comm_assoc _ _ _)).append_left _

theorem foretold_perm (perm : desired.Perm reordered) (noun : String) (options : Options) :
    (m.foretold noun options ensured desired).Perm (m.foretold noun options ensured reordered) :=
  (foretold_perm_lines noun options).trans <|
    (((lacking_perm perm).map _).append (perm.flatMap_right _)).trans
      (foretold_perm_lines noun options).symm

/-! ## What a run leaves, whatever the order -/

/-- What is still to be visited is as it was before the run. -/
theorem Alike.visited_in_any_mode {first : Desired} {rest : List Desired} {m' : Memory}
    (alike : Alike ensured (first :: rest) m m') (options : Options) (head : first.KeepsHead)
    (fresh : first.key ∉ rest.map Desired.key) :
    Alike (first.ensuredWith ensured) rest m (m'.visited options ensured first) := by
  cases mode : options.dryRun with
  | false => exact alike.visited mode head fresh
  | true =>
    rw [visited_dry m' mode]
    exact ⟨fun d later => alike.objects d (List.mem_cons_of_mem _ later), fun ns new =>
      alike.namespaces ns fun known => new (Desired.mem_ensuredWith.mpr (Or.inl known))⟩

theorem Settled.eq_of_perm {options : Options} {after after' : Memory}
    (h : Settled options ensured desired m after) (h' : Settled options ensured reordered m after')
    (perm : desired.Perm reordered) :
    (∀ k, after.objects.get? k = after'.objects.get? k) ∧
      ∀ ns, ns ∈ after.namespaces ↔ ns ∈ after'.namespaces := by
  constructor
  · intro k
    by_cases listed : k ∈ desired.map Desired.key
    · obtain ⟨d, inside, rfl⟩ := List.mem_map.mp listed
      rw [h.listed d inside, h'.listed d (perm.mem_iff.mp inside)]
    · rw [h.untouched k listed, h'.untouched k ((perm.map _).mem_iff.not.mp listed)]
  · intro ns
    simp only [h.namespaces, h'.namespaces, perm.mem_iff]

end Memory

namespace Desired

structure Apart (desired : List Desired) : Prop where
  distinct : (desired.map identity).Nodup
  heads : ∀ d ∈ desired, d.KeepsHead
  names : ∀ d ∈ desired, d.Named

theorem Apart.perm {desired reordered : List Desired} (apart : Apart desired)
    (perm : desired.Perm reordered) : Apart reordered where
  distinct := (perm.map _).nodup_iff.mp apart.distinct
  heads d listed := apart.heads d (perm.mem_iff.mpr listed)
  names d listed := apart.names d (perm.mem_iff.mpr listed)

end Desired

namespace Standing

/-- Two standings are the same, but for the order in which things are listed. -/
structure Rearranged (a b : Standing) : Prop where
  objects : ∀ k, a.cluster.objects.get? k = b.cluster.objects.get? k
  namespaces : ∀ ns, ns ∈ a.cluster.namespaces ↔ ns ∈ b.cluster.namespaces
  changed : a.report.changed = b.report.changed
  actions : a.report.actions.Perm b.report.actions
  resources : ∀ key, a.report.resources.get? key = b.report.resources.get? key

section Tours

variable {noun : String} {options : Options} {ensured : List String}
  {desired reordered : List Desired} {s : Standing}

theorem visit_adds (noun : String) (options : Options) (ensured : List String) (s : Standing)
    (first : Desired) :
    s.report.Adds (s.visit noun options ensured first).report
      ((if s.cluster.knows ensured first then [] else ["Create " ++ noun ++ " " ++ first.ns]) ++
        (decide first (s.cluster.objects.get? first.key) options).lines) := by
  have same : (s.cluster.readied options ensured first).objects = s.cluster.objects :=
    Memory.readied_objects s.cluster options ensured first
  rw [visit, Memory.report, Memory.outcome, same]
  exact (Report.Adds.recordNamespace s.report noun first.ns _).trans (.record _ _ _ _ _)

/-- A tour of distinct resources adds the lines that the cluster before it foretells. -/
theorem tour_adds (distinct : (desired.map Desired.key).Nodup)
    (heads : ∀ d ∈ desired, d.KeepsHead) {m : Memory}
    (alike : Memory.Alike ensured desired m s.cluster) :
    s.report.Adds (tour noun options ensured desired s).report
      (m.foretold noun options ensured desired) := by
  -- The cluster changes from visit to visit, but stays like `m` where it is still to be visited.
  induction desired generalizing ensured s with
  | nil => exact .nothing s.report
  | cons first rest ih =>
    obtain ⟨fresh, distinct⟩ := List.nodup_cons.mp distinct
    have own := visit_adds noun options ensured s first
    rw [alike.knows, alike.objects first List.mem_cons_self] at own
    exact own.trans (ih distinct (fun d later => heads d (List.mem_cons_of_mem _ later))
      (alike.visited_in_any_mode options (heads first List.mem_cons_self) fresh))

/-- What a tour of distinct resources records of one depends on what was filed for that. -/
theorem tour_record (apart : Desired.Apart desired) {state : Desired} (listed : state ∈ desired) :
    (tour noun options ensured desired s).report.resources.get? state.reportKey =
      (state.recorded options (s.cluster.objects.get? state.key)).or
        (s.report.resources.get? state.reportKey) := by
  have keys := Desired.nodup_keys apart.distinct
  have reportKeys := Desired.nodup_reportKeys apart.distinct apart.names
  have heads := apart.heads
  obtain ⟨before, after, rfl⟩ := List.append_of_mem listed
  rw [List.map_append, List.map_cons, List.nodup_middle, List.nodup_cons, List.mem_append,
    not_or] at keys reportKeys
  have unrecorded {part : List Desired} (other : state.reportKey ∉ part.map Desired.reportKey) :
      ∀ d ∈ part, d.isPresent = true → d.reportKey ≠ state.reportKey :=
    fun d inside _ same => other (same ▸ List.mem_map_of_mem inside)
  have early := (List.forall_mem_append.mp heads).1
  rw [tour_last_record heads (unrecorded reportKeys.1.2), tour_objects early keys.1.1,
    tour_resources early (unrecorded reportKeys.1.1)]

/-- A real tour settles what the run that makes it settles. -/
theorem tour_settled (real : options.dryRun = false) (apart : Desired.Apart desired) :
    Memory.Settled options ensured desired s.cluster
      (tour noun options ensured desired s).cluster := by
  have places : ∀ d ∈ desired, d.isPresent = true → isName d.ns = true :=
    fun d listed _ => (apart.names d listed).1
  obtain ⟨report, after, ran, settled⟩ := reconcileFrom_settles noun real
    (Desired.nodup_keys apart.distinct) apart.heads places ensured s.cluster s.report
  rw [run_tour noun options ensured s apart.heads places] at ran
  cases ran
  exact settled

theorem tour_cluster_perm (noun : String) (options : Options) (ensured : List String) (s : Standing)
    (apart : Desired.Apart desired) (perm : desired.Perm reordered) :
    (∀ k, (tour noun options ensured desired s).cluster.objects.get? k =
        (tour noun options ensured reordered s).cluster.objects.get? k) ∧
      ∀ ns, ns ∈ (tour noun options ensured desired s).cluster.namespaces ↔
        ns ∈ (tour noun options ensured reordered s).cluster.namespaces := by
  cases mode : options.dryRun with
  | true =>
    rw [tour_dry mode, tour_dry mode]
    exact ⟨fun _ => rfl, fun _ => Iff.rfl⟩
  | false => exact (tour_settled mode apart).eq_of_perm (tour_settled mode (apart.perm perm)) perm

theorem tour_resources_perm (apart : Desired.Apart desired) (perm : desired.Perm reordered)
    (key : String) :
    (tour noun options ensured desired s).report.resources.get? key =
      (tour noun options ensured reordered s).report.resources.get? key := by
  have apart' := apart.perm perm
  by_cases listed : key ∈ desired.map Desired.reportKey
  · obtain ⟨state, inside, rfl⟩ := List.mem_map.mp listed
    rw [tour_record apart inside, tour_record apart' (perm.mem_iff.mp inside)]
  · have unlisted : ∀ d ∈ desired, d.isPresent = true → d.reportKey ≠ key :=
      fun d inside _ same => listed (same ▸ List.mem_map_of_mem inside)
    rw [tour_resources apart.heads unlisted,
      tour_resources apart'.heads fun d inside => unlisted d (perm.mem_iff.mpr inside)]

/-- Two tours of the same distinct resources leave the same, but for the order. -/
theorem tour_perm (apart : Desired.Apart desired) (perm : desired.Perm reordered) :
    (tour noun options [] desired s).Rearranged (tour noun options [] reordered s) := by
  have adds {states : List Desired} (apart : Desired.Apart states) :
      s.report.Adds (tour noun options [] states s).report
        (s.cluster.foretold noun options [] states) :=
    tour_adds (Desired.nodup_keys apart.distinct) apart.heads (.refl states s.cluster)
  obtain ⟨actions, changed⟩ := adds apart
  obtain ⟨actions', changed'⟩ := adds (apart.perm perm)
  have lines : (s.cluster.foretold noun options [] desired).Perm
      (s.cluster.foretold noun options [] reordered) := Memory.foretold_perm perm noun options
  obtain ⟨objects, namespaces⟩ :=
    tour_cluster_perm noun options [] s apart perm
  refine ⟨objects, namespaces, ?_, ?_, tour_resources_perm apart perm⟩
  · rw [changed, changed', lines.isEmpty_eq]
  · rw [actions, actions']
    exact lines.append_left _

end Tours

end Standing

/-- Two runs over the same distinct resources, real or dry, succeed and leave the same cluster
and the same report, but for the order of actions, whatever the order of the resources is. -/
theorem reconcileAll_perm (noun : String) (options : Options) {desired reordered : List Desired}
    (perm : desired.Perm reordered) (distinct : (desired.map Desired.identity).Nodup)
    (heads : ∀ d, .present d ∈ desired → d.KeepsHead)
    (names : ∀ d ∈ desired, isName d.ns = true ∧ isName d.name = true)
    (m : Memory) (before : Report) :
    ∃ a b : Standing,
      (reconcileAll noun options desired before).run Memory.client m =
        ((.ok (), a.report), a.cluster) ∧
      (reconcileAll noun options reordered before).run Memory.client m =
        ((.ok (), b.report), b.cluster) ∧
      a.Rearranged b := by
  have apart : Desired.Apart desired := ⟨distinct, Desired.keepsHead_of heads, names⟩
  have ran {states : List Desired} (apart : Desired.Apart states) :=
    Standing.run_tour noun options [] ⟨m, before⟩ apart.heads
      fun d listed _ => (apart.names d listed).1
  exact ⟨_, _, ran apart, ran (apart.perm perm), Standing.tour_perm apart perm⟩

namespace Batch

def front : Descriptor := .bare .service "web" "store" .empty

/-- A volume claim and a service in a new namespace, and a route to be removed. -/
def crowd : List Desired := [.present data, .present front, .absent .route "shop" "old"]

end Batch

open Batch in
/-- The namespace is created before the one or before the other of its resources. -/
theorem reconcileAll_perm_crowd :
    crowd.Perm crowd.reverse ∧ (crowd.map Desired.identity).Nodup ∧
    (∀ d, .present d ∈ crowd → d.KeepsHead) ∧
    (∀ d ∈ crowd, isName d.ns = true ∧ isName d.name = true) ∧
    ∃ a b : Standing,
      (reconcileAll "namespace" ⟨true, false, false⟩ crowd .empty).run Memory.client cluster =
        ((.ok (), a.report), a.cluster) ∧
      (reconcileAll "namespace" ⟨true, false, false⟩ crowd.reverse .empty).run Memory.client
        cluster = ((.ok (), b.report), b.cluster) ∧
      a.Rearranged b ∧
      a.report.actions = ["Create namespace store", "Create PVC data", "Create service web",
        "Delete route old"] ∧
      b.report.actions = ["Delete route old", "Create namespace store", "Create service web",
        "Create PVC data"] := by
  have perm : crowd.Perm crowd.reverse := crowd.reverse_perm.symm
  have distinct : (crowd.map Desired.identity).Nodup := by decide
  have heads : ∀ d, .present d ∈ crowd → d.KeepsHead := by
    intro d listed
    have known : d = data ∨ d = front := by simpa [crowd] using listed
    rcases known with rfl | rfl <;> decide
  have names : ∀ d ∈ crowd, isName d.ns = true ∧ isName d.name = true := by decide
  obtain ⟨a, b, ran, ran', same⟩ :=
    reconcileAll_perm "namespace" ⟨true, false, false⟩ perm distinct heads names cluster .empty
  have told : a.report.actions = ["Create namespace store", "Create PVC data",
      "Create service web", "Delete route old"] := by
    have last : ((reconcileAll "namespace" ⟨true, false, false⟩ crowd .empty).run Memory.client
        cluster).1.2.actions = a.report.actions := by rw [ran]
    rw [← last]
    decide +kernel
  have told' : b.report.actions = ["Delete route old", "Create namespace store",
      "Create service web", "Create PVC data"] := by
    have last : ((reconcileAll "namespace" ⟨true, false, false⟩ crowd.reverse .empty).run
        Memory.client cluster).1.2.actions = b.report.actions := by rw [ran']
    rw [← last]
    decide +kernel
  exact ⟨perm, distinct, heads, names, a, b, ran, ran', same, told, told'⟩

end Converge
