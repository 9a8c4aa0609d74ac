import Converge.Proofs.Manifest
import Converge.Proofs.Visit

/-!
# Runs on a cluster in memory

Each part of a run has one outcome on a cluster in memory, and one effect on it: a
namespace is added, or what is filed for the one resource is put in its final form and
all else stays. A visit fails only over a namespace that has no name.
-/

namespace Converge

def Change.sent? : Change → Option Descriptor
  | .create d | .replace d | .recreate d => some d
  | .none | .delete .. => Option.none

/-- What is filed for a resource once a change of it is made. -/
def Change.filed (live : Option Json) : Change → Option Json
  | .none => live
  | .create d | .replace d | .recreate d => some d.manifest
  | .delete .. => Option.none

/-- What is filed for a resource after a real pass over it. -/
def Desired.settled (desired : Desired) (options : Options) (live : Option Json) : Option Json :=
  (desired.change live options).filed live

theorem Asked.keepsHead {options : Options} {desired : Desired} {live : Option Json}
    {change : Change} (h : Asked options desired live change) (head : desired.KeepsHead)
    {d : Descriptor} (sent : change.sent? = some d) : d.KeepsHead := by
  cases h with
  | create | recreate =>
    cases sent
    exact head
  | replace wanted v =>
    cases sent
    exact Descriptor.KeepsHead.prepareReplace head wanted.kind v
  | keep | delete | gone => cases sent

namespace Memory

theorem hasNamespace_iff {m : Memory} {ns : String} :
    m.hasNamespace ns = true ↔ ns ∈ m.namespaces :=
  List.contains_iff_mem

theorem mem_addNamespace {m : Memory} {ns other : String} :
    other ∈ (m.addNamespace ns).namespaces ↔ other ∈ m.namespaces ∨ other = ns := by
  rw [addNamespace]
  split
  · next there =>
    refine ⟨Or.inl, ?_⟩
    rintro (inside | rfl)
    · exact inside
    · exact hasNamespace_iff.mp there
  · exact List.mem_append.trans (or_congr Iff.rfl List.mem_singleton)

theorem addNamespace_objects (m : Memory) (ns : String) :
    (m.addNamespace ns).objects = m.objects := by
  rw [addNamespace]
  split <;> rfl

theorem run_ensureNamespace_misnamed (m : Memory) {ns : String} (bad : isName ns = false)
    (dryRun : Bool) :
    (ensureNamespace ns dryRun).run.run client m =
      (.error (.invalid (.badName "Namespace" ns)), m) := by
  rw [ensureNamespace, checkName_of_not_isName bad]
  rfl

theorem run_ensureNamespace (m : Memory) {ns : String} (good : isName ns = true) (dryRun : Bool) :
    (ensureNamespace ns dryRun).run.run client m =
      (.ok (m.hasNamespace ns), if dryRun then m else m.addNamespace ns) := by
  have look : (Attempt.call (.namespaceExists ns)).run.run client m =
      (.ok (m.hasNamespace ns), m) := rfl
  rw [ensureNamespace, checkName_of_isName good]
  refine (Attempt.run_bind_ok (x := Attempt.check (.ok ())) (a := ()) rfl _).trans ?_
  refine (Attempt.run_bind_ok look _).trans ?_
  cases there : m.hasNamespace ns with
  | true =>
    have same : m.addNamespace ns = m := by rw [addNamespace, if_pos there]
    rw [same, ite_self]
    rfl
  | false =>
    cases dryRun with
    | true => rfl
    | false =>
      have made : (Dialogue.call (.createNamespace ns)).run client m =
          (.ok (), m.addNamespace ns) := by
        simp [Dialogue.call, Dialogue.run, client, answer, there]
      have told := Attempt.run_lift client (Dialogue.call (.createNamespace ns)) m
      rw [made] at told
      exact (Attempt.run_bind_ok told _).trans rfl

/-! ## Changes -/

def remove (m : Memory) (k : ObjectKey) : Memory := { m with objects := m.objects.erase k }

def after (m : Memory) : Change → Memory
  | .none => m
  | .create d | .replace d => m.store d.manifest
  | .recreate d => (m.remove (key d.kind d.ns d.name)).store d.manifest
  | .delete kind ns name => m.remove (key kind ns name)

/-- The cluster after a pass over a resource. -/
def settle (m : Memory) (options : Options) (desired : Desired) : Memory :=
  if options.dryRun then m
  else m.after (desired.change (m.objects.get? desired.key) options)

def outcome (m : Memory) (options : Options) (desired : Desired) : Outcome :=
  ⟨decide desired (m.objects.get? desired.key) options,
    if desired.isPresent then (m.settle options desired).objects.get? desired.key else none⟩

theorem get?_store (m : Memory) (manifest : Json) (k : ObjectKey) :
    (m.store manifest).objects.get? k =
      if keyOf manifest = k then some manifest else m.objects.get? k :=
  Table.get?_insert m.objects (keyOf manifest) k manifest

theorem get?_remove (m : Memory) (k j : ObjectKey) :
    (m.remove k).objects.get? j = if k = j then none else m.objects.get? j :=
  Table.get?_erase m.objects k j

theorem run_create {m : Memory} {d : Descriptor} (h : d.KeepsHead)
    (free : m.objects.get? (key d.kind d.ns d.name) = none) :
    (do let _ ← Attempt.call (.create d) : Attempt Unit).run.run client m =
      (.ok (), m.store d.manifest) := by
  have made : (Attempt.call (.create d)).run.run client m = (.ok d.manifest, m.store d.manifest) := by
    simp [Attempt.call, Dialogue.call, Dialogue.run, client, answer, Table.contains,
      keyOf_manifest h, free]
  exact (Attempt.run_bind_ok made _).trans rfl

theorem run_delete {m : Memory} {kind : Kind} {ns name : String} {v : Json}
    (live : m.objects.get? (key kind ns name) = some v) :
    (Attempt.call (.delete kind ns name)).run.run client m =
      (.ok (), m.remove (key kind ns name)) := by
  have there : m.objects.contains (kind.name, ns, name) = true := by
    rw [Table.contains, show m.objects.get? (kind.name, ns, name) = some v from live]
    rfl
  simp [Attempt.call, Dialogue.call, Dialogue.run, client, answer, there, remove, key]

/-- The change that a desired state asks for can be carried out. -/
theorem run_perform {m : Memory} {desired : Desired} (h : desired.KeepsHead) (options : Options) :
    (desired.change (m.objects.get? desired.key) options).perform.run.run client m =
      (.ok (), m.after (desired.change (m.objects.get? desired.key) options)) := by
  have asked := desired.asked (m.objects.get? desired.key) options
  generalize desired.change (m.objects.get? desired.key) options = change at asked ⊢
  generalize live : m.objects.get? desired.key = v at asked
  cases asked with
  | create d => exact run_create h live
  | recreate d v =>
    have free : (m.remove (key d.kind d.ns d.name)).objects.get? (key d.kind d.ns d.name) = none :=
      (get?_remove m _ _).trans (if_pos rfl)
    exact (Attempt.run_bind_ok (run_delete live) _).trans (run_create h free)
  | replace d v => rfl
  | keep d v => rfl
  | delete kind ns name v => exact run_delete live
  | gone kind ns name => rfl

theorem run_reconcile {m : Memory} {desired : Desired} (h : desired.KeepsHead)
    (options : Options) :
    (reconcile options desired).run.run client m =
      (.ok (m.outcome options desired), m.settle options desired) := by
  have look (m : Memory) :
      (Attempt.call (.get desired.kind desired.ns desired.name)).run.run client m =
        (.ok (m.objects.get? desired.key), m) := rfl
  rw [reconcile_eq]
  refine (Attempt.run_bind_ok (look m) _).trans ?_
  rw [outcome, settle]
  cases options.dryRun with
  | true => rfl
  | false =>
    refine (Attempt.run_bind_ok (run_perform h options) _).trans ?_
    cases desired.isPresent with
    | true => exact (Attempt.run_bind_ok (look _) _).trans rfl
    | false => rfl

/-! ## What is filed afterwards -/

theorem settle_namespaces (m : Memory) (options : Options) (desired : Desired) :
    (m.settle options desired).namespaces = m.namespaces := by
  rw [settle]
  split
  · rfl
  · cases desired.change (m.objects.get? desired.key) options <;> rfl

/-- A change of a resource leaves all other resources as they are. -/
theorem get?_after (m : Memory) {change : Change} {kind : Kind} {ns name : String}
    (mine : change.Concerns kind ns name) (heads : ∀ d, change.sent? = some d → d.KeepsHead)
    (k : ObjectKey) :
    (m.after change).objects.get? k =
      if key kind ns name = k then change.filed (m.objects.get? (key kind ns name))
      else m.objects.get? k := by
  cases change with
  | none =>
    by_cases same : key kind ns name = k
    · rw [if_pos same, same]
      rfl
    · rw [if_neg same]
      rfl
  | create d =>
    obtain ⟨rfl, rfl, rfl⟩ := mine
    rw [after, get?_store, keyOf_manifest (heads d rfl), Change.filed]
  | replace d =>
    obtain ⟨rfl, rfl, rfl⟩ := mine
    rw [after, get?_store, keyOf_manifest (heads d rfl), Change.filed]
  | recreate d =>
    obtain ⟨rfl, rfl, rfl⟩ := mine
    rw [after, get?_store, keyOf_manifest (heads d rfl), Change.filed, get?_remove]
    split <;> rfl
  | delete =>
    obtain ⟨rfl, rfl, rfl⟩ := mine
    exact get?_remove m _ k

theorem get?_settle (m : Memory) {options : Options} (real : options.dryRun = false)
    {desired : Desired} (h : desired.KeepsHead) (k : ObjectKey) :
    (m.settle options desired).objects.get? k =
      if desired.key = k then desired.settled options (m.objects.get? desired.key)
      else m.objects.get? k := by
  rw [settle, real, if_neg Bool.false_ne_true]
  have asked := desired.asked (m.objects.get? desired.key) options
  exact get?_after m asked.concerns (fun _ sent => asked.keepsHead h sent) k

/-! ## Visits -/

/-- The cluster once the namespace of a desired state is ensured. -/
def readied (m : Memory) (options : Options) (ensured : List String) (desired : Desired) : Memory :=
  if desired.opensNamespace ensured && !options.dryRun then m.addNamespace desired.ns else m

/-- Was the namespace of a desired state there, as far as a run looks? -/
def knows (m : Memory) (ensured : List String) (desired : Desired) : Bool :=
  !desired.opensNamespace ensured || m.hasNamespace desired.ns

def visited (m : Memory) (options : Options) (ensured : List String) (desired : Desired) : Memory :=
  (m.readied options ensured desired).settle options desired

def report (m : Memory) (noun : String) (options : Options) (ensured : List String)
    (desired : Desired) (before : Report) : Report :=
  (before.recordNamespace noun desired.ns (m.knows ensured desired)).record desired.kind desired.ns
    desired.name ((m.readied options ensured desired).outcome options desired)

theorem readied_objects (m : Memory) (options : Options) (ensured : List String)
    (desired : Desired) : (m.readied options ensured desired).objects = m.objects := by
  rw [readied]
  split
  · exact addNamespace_objects m desired.ns
  · rfl

theorem visited_objects (m : Memory) {options : Options} (real : options.dryRun = false)
    (ensured : List String) {desired : Desired} (h : desired.KeepsHead) (k : ObjectKey) :
    (m.visited options ensured desired).objects.get? k =
      if desired.key = k then desired.settled options (m.objects.get? desired.key)
      else m.objects.get? k := by
  rw [visited, get?_settle _ real h, readied_objects]

theorem mem_visited_namespaces (m : Memory) {options : Options} (real : options.dryRun = false)
    (ensured : List String) (desired : Desired) (ns : String) :
    ns ∈ (m.visited options ensured desired).namespaces ↔
      ns ∈ m.namespaces ∨ ns ∉ ensured ∧ desired.isPresent = true ∧ desired.ns = ns := by
  rw [visited, settle_namespaces, readied, real]
  cases opens : desired.opensNamespace ensured with
  | true =>
    obtain ⟨present, new⟩ := Desired.opensNamespace_iff.mp opens
    simp only [Bool.not_false, Bool.and_self, if_true, mem_addNamespace, present, true_and]
    refine or_congr Iff.rfl ⟨?_, fun h => h.2.symm⟩
    rintro rfl
    exact ⟨new, rfl⟩
  | false =>
    refine ⟨Or.inl, ?_⟩
    rintro (inside | ⟨new, present, rfl⟩)
    · exact inside
    · rw [Desired.opensNamespace_iff.mpr ⟨present, new⟩] at opens
      cases opens

theorem run_prepare (m : Memory) (options : Options) {ensured : List String} {desired : Desired}
    (good : desired.opensNamespace ensured = true → isName desired.ns = true) :
    (prepare options ensured desired).run.run client m =
      (.ok (m.knows ensured desired), m.readied options ensured desired) := by
  rw [prepare, knows, readied]
  cases opens : desired.opensNamespace ensured with
  | true =>
    rw [if_pos rfl, run_ensureNamespace m (good opens)]
    cases options.dryRun <;> rfl
  | false => rfl

/-- A visit succeeds, unless it is over a namespace that has no name. -/
theorem run_visit (m : Memory) (noun : String) (options : Options) {ensured : List String}
    {desired : Desired} (h : desired.KeepsHead)
    (good : desired.opensNamespace ensured = true → isName desired.ns = true) (before : Report) :
    (visit noun options ensured desired before).run client m =
      ((.ok (), m.report noun options ensured desired before),
        m.visited options ensured desired) := by
  rw [visit, Dialogue.run_bind, run_prepare m options good]
  refine (Dialogue.run_bind client _ _ _).trans ?_
  rw [run_reconcile h]
  rfl

theorem run_visit_misnamed (m : Memory) (noun : String) (options : Options)
    {ensured : List String} {desired : Desired}
    (opens : desired.opensNamespace ensured = true) (bad : isName desired.ns = false)
    (before : Report) :
    (visit noun options ensured desired before).run client m =
      ((.error (.invalid (.badName "Namespace" desired.ns)), before), m) := by
  rw [visit, Dialogue.run_bind, prepare, if_pos opens, run_ensureNamespace_misnamed m bad]
  rfl

/-! ## Runs -/

theorem run_next (m : Memory) (noun : String) (options : Options) {ensured : List String}
    {desired : Desired} (h : desired.KeepsHead)
    (good : desired.opensNamespace ensured = true → isName desired.ns = true)
    (rest : List Desired) (before : Report) :
    (reconcileFrom noun options ensured (desired :: rest) before).run client m =
      (reconcileFrom noun options (desired.ensuredWith ensured) rest
        (m.report noun options ensured desired before)).run client
        (m.visited options ensured desired) := by
  rw [reconcileFrom_cons, Dialogue.run_bind, run_visit m noun options h good]

theorem run_stopped (m : Memory) (noun : String) (options : Options) {ensured : List String}
    {desired : Desired} (opens : desired.opensNamespace ensured = true)
    (bad : isName desired.ns = false) (rest : List Desired) (before : Report) :
    (reconcileFrom noun options ensured (desired :: rest) before).run client m =
      ((.error (.invalid (.badName "Namespace" desired.ns)), before), m) := by
  rw [reconcileFrom_cons, Dialogue.run_bind, run_visit_misnamed m noun options opens bad]
  rfl

end Memory

end Converge
