import Converge.Proofs.Memory
import Mathlib.Data.List.Pairwise
import Mathlib.Tactic.ByContra

/-!
# What a cluster in memory holds

How a cluster in memory takes each call, and what follows for a sequence of calls that
neither replaces nor deletes anything: whatever is held stays held in its form, and nothing
is brought into being twice.
-/

namespace Converge

inductive Entity where
  | space (ns : String)
  | object (key : ObjectKey)

/-- What an exchange brings into being. -/
def brings? : Exchange → Option Entity
  | ⟨.create d, .ok _⟩ => some (.object (Memory.key d.kind d.ns d.name))
  | ⟨.createNamespace ns, .ok _⟩ => some (.space ns)
  | _ => none

def brought (t : List Exchange) : List Entity := t.filterMap brings?

theorem created_of_brings {e : Exchange} {k : ObjectKey} (brings : brings? e = some (.object k)) :
    ∃ d v, e = ⟨.create d, .ok v⟩ ∧ Memory.key d.kind d.ns d.name = k := by
  unfold brings? at brings
  split at brings
  · next d v =>
    cases brings
    exact ⟨d, v, rfl, rfl⟩
  · cases brings
  · cases brings

/-- The call replaces and deletes nothing, and what it creates is filed as what it is. -/
def Call.IsGentle : Call → Prop
  | .create d => d.KeepsHead
  | .replace _ | .delete .. => False
  | .get .. | .namespaceExists _ | .createNamespace _ => True

namespace Memory

def Holds (m : Memory) : Entity → Prop
  | .space ns => ns ∈ m.namespaces
  | .object k => (m.objects.get? k).isSome = true

/-- An exchange with a cluster in memory, and the cluster afterwards. -/
inductive Taking (m : Memory) : Exchange → Memory → Prop
  | looked (kind : Kind) (ns name : String) :
      Taking m ⟨.get kind ns name, .ok (m.objects.get? (key kind ns name))⟩ m
  | created (d : Descriptor) (free : m.objects.get? (keyOf d.manifest) = none) :
      Taking m ⟨.create d, .ok d.manifest⟩ (m.store d.manifest)
  | occupied (d : Descriptor) (v : Json) (there : m.objects.get? (keyOf d.manifest) = some v) :
      Taking m
        ⟨.create d, .error (alreadyExists (.create d) d.kind.name d.name "object already exists")⟩ m
  | replaced (d : Descriptor) : Taking m ⟨.replace d, .ok d.manifest⟩ (m.store d.manifest)
  | deleted (kind : Kind) (ns name : String) (v : Json)
      (there : m.objects.get? (key kind ns name) = some v) :
      Taking m ⟨.delete kind ns name, .ok ()⟩ (m.remove (key kind ns name))
  | undeleted (kind : Kind) (ns name : String)
      (missing : m.objects.get? (key kind ns name) = none) :
      Taking m ⟨.delete kind ns name, .error (.notFound kind.name name
        (Call.delete kind ns name).describe "object not found")⟩ m
  | searched (ns : String) : Taking m ⟨.namespaceExists ns, .ok (m.hasNamespace ns)⟩ m
  | founded (ns : String) (free : m.hasNamespace ns = false) :
      Taking m ⟨.createNamespace ns, .ok ()⟩ (m.addNamespace ns)
  | raced (ns : String) (there : m.hasNamespace ns = true) :
      Taking m ⟨.createNamespace ns, .error
        (alreadyExists (.createNamespace ns) "namespace" ns "namespace already exists")⟩ m

theorem answer_taking (m : Memory) (c : Call) : m.Taking ⟨c, (answer c m).1⟩ (answer c m).2 := by
  cases c with
  | get kind ns name => exact .looked kind ns name
  | create d =>
    cases live : m.objects.get? (keyOf d.manifest) with
    | none =>
      simp only [answer, Table.contains, live, Option.isSome_none]
      exact .created d live
    | some v =>
      simp only [answer, Table.contains, live, Option.isSome_some]
      exact .occupied d v live
  | replace d => exact .replaced d
  | delete kind ns name =>
    cases live : m.objects.get? (kind.name, ns, name) with
    | none =>
      simp only [answer, Table.contains, live, Option.isSome_none]
      exact .undeleted kind ns name live
    | some v =>
      simp only [answer, Table.contains, live, Option.isSome_some]
      exact .deleted kind ns name v live
  | namespaceExists ns => exact .searched ns
  | createNamespace ns =>
    cases there : m.hasNamespace ns with
    | false =>
      simp only [answer, there]
      exact .founded ns there
    | true =>
      simp only [answer, there]
      exact .raced ns there

variable {m m' : Memory} {t : List Exchange}

theorem Taking.of_look {kind : Kind} {ns name : String} {found : Except Failure (Option Json)}
    (h : m.Taking ⟨.get kind ns name, found⟩ m') :
    found = .ok (m.objects.get? (key kind ns name)) ∧ m' = m := by
  cases h with
  | looked => exact ⟨rfl, rfl⟩

theorem Taking.of_search {ns : String} {there : Except Failure Bool}
    (h : m.Taking ⟨.namespaceExists ns, there⟩ m') : there = .ok (m.hasNamespace ns) ∧ m' = m := by
  cases h with
  | searched => exact ⟨rfl, rfl⟩

theorem answers_cons {e : Exchange} (h : client.Answers m (e :: t) m') :
    ∃ between, m.Taking e between ∧ client.Answers between t m' := by
  obtain ⟨c, said⟩ := e
  obtain ⟨rfl, later⟩ := Client.answers_cons_iff.mp h
  exact ⟨_, answer_taking m c, later⟩

theorem answers_split {before later : List Exchange} {e : Exchange}
    (h : client.Answers m (before ++ e :: later) m') :
    ∃ first second, client.Answers m before first ∧ first.Taking e second ∧
      client.Answers second later m' := by
  obtain ⟨first, front, h⟩ := Client.answers_append_iff.mp h
  obtain ⟨second, taking, back⟩ := answers_cons h
  exact ⟨first, second, front, taking, back⟩

theorem holds_store {d : Descriptor} (head : d.KeepsHead) (x : Entity) :
    (m.store d.manifest).Holds x ↔ m.Holds x ∨ x = .object (key d.kind d.ns d.name) := by
  cases x with
  | space ns => simp [Holds, store]
  | object k =>
    rw [Holds, Holds, get?_store, keyOf_manifest head]
    by_cases same : key d.kind d.ns d.name = k
    · simp [same]
    · have other : k ≠ key d.kind d.ns d.name := fun h => same h.symm
      simp [same, other]

theorem holds_addNamespace (m : Memory) (ns : String) (x : Entity) :
    (m.addNamespace ns).Holds x ↔ m.Holds x ∨ x = .space ns := by
  cases x with
  | space other => simp [Holds, mem_addNamespace]
  | object k => simp [Holds, addNamespace_objects]

/-- A gentle call brings something into being that was not held, or leaves the cluster as it is. -/
theorem Taking.grows {e : Exchange} (h : m.Taking e m') (gentle : e.1.IsGentle) :
    (∃ x, brings? e = some x ∧ ¬m.Holds x ∧ ∀ y, m'.Holds y ↔ m.Holds y ∨ y = x) ∨
      brings? e = none ∧ m' = m := by
  cases h with
  | looked kind ns name => exact Or.inr ⟨rfl, rfl⟩
  | created d free =>
    rw [keyOf_manifest gentle] at free
    refine Or.inl ⟨_, rfl, ?_, holds_store gentle⟩
    simp [Holds, free]
  | occupied d v there => exact Or.inr ⟨rfl, rfl⟩
  | replaced d => cases gentle
  | deleted kind ns name v there => cases gentle
  | undeleted kind ns name missing => cases gentle
  | searched ns => exact Or.inr ⟨rfl, rfl⟩
  | founded ns free =>
    refine Or.inl ⟨_, rfl, ?_, holds_addNamespace m ns⟩
    intro there
    rw [hasNamespace_iff.mpr there] at free
    cases free
  | raced ns there => exact Or.inr ⟨rfl, rfl⟩

/-- A gentle call changes no object that is there. -/
theorem Taking.keeps {e : Exchange} (h : m.Taking e m') (gentle : e.1.IsGentle) {k : ObjectKey}
    {v : Json} (live : m.objects.get? k = some v) : m'.objects.get? k = some v := by
  cases h with
  | created d free =>
    have other : keyOf d.manifest ≠ k := by
      rintro rfl
      rw [free] at live
      cases live
    rw [get?_store, if_neg other]
    exact live
  | replaced d => cases gentle
  | deleted kind ns name v there => cases gentle
  | undeleted kind ns name missing => cases gentle
  | founded ns free =>
    rw [addNamespace_objects]
    exact live
  | looked | occupied | searched | raced => exact live

theorem keeps_objects (answered : client.Answers m t m') (gentle : ∀ e ∈ t, e.1.IsGentle)
    {k : ObjectKey} {v : Json} (live : m.objects.get? k = some v) :
    m'.objects.get? k = some v := by
  induction t generalizing m with
  | nil =>
    cases answered
    exact live
  | cons e rest ih =>
    obtain ⟨between, taking, later⟩ := answers_cons answered
    have kept := taking.keeps (gentle e List.mem_cons_self) live
    exact ih later (fun e listed => gentle e (List.mem_cons_of_mem _ listed)) kept

/-- What was created is there as it was created. -/
theorem stored_of_created (answered : client.Answers m t m') (gentle : ∀ e ∈ t, e.1.IsGentle)
    {d : Descriptor} {v : Json} (said : ⟨.create d, .ok v⟩ ∈ t) :
    m'.objects.get? (key d.kind d.ns d.name) = some v := by
  obtain ⟨front, back, rfl⟩ := List.append_of_mem said
  obtain ⟨before, after, _, taking, later⟩ := answers_split answered
  have head : d.KeepsHead := gentle _ said
  refine keeps_objects later (fun e listed => gentle e (by simp [listed])) ?_
  cases taking with
  | created d free => rw [get?_store, keyOf_manifest head, if_pos rfl]

/-- Gentle calls add what they bring into being, all of it new and none of it twice. -/
theorem grows_by_brought (answered : client.Answers m t m') (gentle : ∀ e ∈ t, e.1.IsGentle) :
    (∀ x, m'.Holds x ↔ m.Holds x ∨ x ∈ brought t) ∧ (brought t).Nodup ∧
      ∀ x ∈ brought t, ¬m.Holds x := by
  induction t generalizing m with
  | nil =>
    cases answered
    simp [brought]
  | cons e rest ih =>
    obtain ⟨between, taking, later⟩ := answers_cons answered
    obtain ⟨holds, nodup, new⟩ :=
      ih later fun e listed => gentle e (List.mem_cons_of_mem _ listed)
    rcases taking.grows (gentle e List.mem_cons_self) with ⟨x, brings, absent, adds⟩ | ⟨brings, rfl⟩
    · have first : brought (e :: rest) = x :: brought rest := List.filterMap_cons_some brings
      rw [first]
      refine ⟨?_, ?_, ?_⟩
      · intro y
        rw [holds, adds, List.mem_cons, or_assoc]
      · refine List.nodup_cons.mpr ⟨?_, nodup⟩
        exact fun again => new x again ((adds x).mpr (Or.inr rfl))
      · intro y listed held
        rcases List.mem_cons.mp listed with rfl | listed
        · exact absent held
        · exact new y listed ((adds y).mpr (Or.inl held))
    · have first : brought (e :: rest) = brought rest := List.filterMap_cons_none brings
      rw [first]
      exact ⟨holds, nodup, new⟩

theorem keeps_held (answered : client.Answers m t m') (gentle : ∀ e ∈ t, e.1.IsGentle)
    {x : Entity} (held : m.Holds x) : m'.Holds x :=
  ((grows_by_brought answered gentle).1 x).mpr (Or.inl held)

/-- Each of some gentle calls was taken by the cluster as it was at some moment, and what that
held afterwards is held to the end. -/
theorem taken_of_mem (answered : client.Answers m t m') (gentle : ∀ e ∈ t, e.1.IsGentle)
    {e : Exchange} (said : e ∈ t) :
    ∃ before after : Memory, before.Taking e after ∧ ∀ x, after.Holds x → m'.Holds x := by
  obtain ⟨front, back, rfl⟩ := List.append_of_mem said
  obtain ⟨before, after, _, taking, later⟩ := answers_split answered
  refine ⟨before, after, taking, fun x held => keeps_held later ?_ held⟩
  exact fun e listed => gentle e (by simp [listed])

/-- A resource that was missing, and then could not be created, was created in between. -/
theorem brought_between {front between rest : List Exchange} {d : Descriptor} {failure : Failure}
    (head : d.KeepsHead)
    (answered : client.Answers m (front ++ ⟨.get d.kind d.ns d.name, .ok none⟩ ::
      (between ++ ⟨.create d, .error failure⟩ :: rest)) m')
    (gentle : ∀ e ∈ between, e.1.IsGentle) :
    .object (key d.kind d.ns d.name) ∈ brought between := by
  obtain ⟨first, second, _, looked, answered⟩ := answers_split answered
  obtain ⟨found, rfl⟩ := looked.of_look
  obtain ⟨third, fourth, others, refused, _⟩ := answers_split answered
  have missing : ¬second.Holds (.object (key d.kind d.ns d.name)) := by
    rw [Holds, ← Except.ok.inj found]
    exact Bool.false_ne_true
  have there : third.Holds (.object (key d.kind d.ns d.name)) := by
    cases refused with
    | occupied d v there =>
      rw [keyOf_manifest head] at there
      rw [Holds, there]
      rfl
  rcases ((grows_by_brought others gentle).1 _).mp there with before | brought
  · exact absurd before missing
  · exact brought

/-- What is brought into being but once is brought by one exchange of a list. -/
theorem eq_of_brings {β : Type} {l : List (β × Exchange)} (once : (brought (l.map (·.2))).Nodup)
    {a b : β × Exchange} (ha : a ∈ l) (hb : b ∈ l) {x : Entity} (bringsA : brings? a.2 = some x)
    (bringsB : brings? b.2 = some x) : a = b := by
  have symm : Std.Symm fun a b : β × Exchange =>
      ∀ x, brings? a.2 = some x → ∀ y, brings? b.2 = some y → x ≠ y :=
    ⟨fun a b apart y hy z hz => (apart z hz y hy).symm⟩
  have apart : l.Pairwise fun a b => ∀ x, brings? a.2 = some x → ∀ y, brings? b.2 = some y →
      x ≠ y := by
    rw [brought, List.filterMap_map] at once
    exact List.pairwise_filterMap.mp once
  by_contra different
  exact apart.forall ha hb different x bringsA x bringsB rfl

end Memory

end Converge
