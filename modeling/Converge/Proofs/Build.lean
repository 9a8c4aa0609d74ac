import Converge.Document
import Mathlib.Data.List.Forall2

/-!
# What is built

A resource is built only if its name is one. Its descriptor then has the kind, the name, the
labels and annotations of the resource and the namespace that was asked for, and a body of one or
two fields.
-/

namespace Converge

section Check

variable {α β : Type} {a : α}

theorem bind_ok_iff {ε : Type} {x : Except ε β} {f : β → Except ε α} :
    (x >>= f) = .ok a ↔ ∃ b, x = .ok b ∧ f b = .ok a := by
  cases x with
  | error cause => simp [bind, Except.bind]
  | ok b => simp [bind, Except.bind]

theorem map_ok_iff {ε : Type} {x : Except ε β} {f : β → α} :
    x.map f = .ok a ↔ ∃ b, x = .ok b ∧ f b = a := by
  cases x with
  | error cause => simp [Except.map]
  | ok b => simp [Except.map]

theorem checkName_then_iff {what name : String} {next : Unit → Except Invalid α} :
    (checkName what name >>= next) = .ok a ↔ isName name = true ∧ next () = .ok a := by
  cases good : isName name with
  | true =>
    rw [checkName_of_isName good]
    simp [bind, Except.bind]
  | false =>
    rw [checkName_of_not_isName good]
    simp [bind, Except.bind]

theorem refuse_then_iff {bad : Prop} [Decidable bad] {cause : Invalid}
    {next : Unit → Except Invalid α} :
    (if bad then throw cause >>= next else next ()) = .ok a ↔ ¬bad ∧ next () = .ok a := by
  by_cases h : bad
  · simp [h, throw, throwThe, MonadExceptOf.throw, bind, Except.bind]
  · simp [h]

end Check

theorem mapM_ok_iff {ε α β : Type} {f : α → Except ε β} {l : List α} {k : List β} :
    l.mapM f = .ok k ↔ List.Forall₂ (fun a b => f a = .ok b) l k := by
  induction l generalizing k with
  | nil =>
    rw [List.mapM_nil, List.forall₂_nil_left_iff, eq_comm]
    exact (Except.ok.injEq k []).to_iff
  | cons a rest ih =>
    rw [List.mapM_cons, bind_ok_iff, List.forall₂_cons_left_iff]
    refine exists_congr fun b => ?_
    rw [bind_ok_iff]
    constructor
    · rintro ⟨first, others, later, same⟩
      cases same
      exact ⟨others, first, ih.mp later, rfl⟩
    · rintro ⟨others, first, later, rfl⟩
      exact ⟨first, others, ih.mpr later, rfl⟩

theorem Container.build_iff {c : Container} {v : Json} :
    c.build = .ok v ↔ (c.name ≠ "" ∧ c.image ≠ "") ∧ c.toJson = v := by
  rw [Container.build]
  by_cases incomplete : (c.name.isEmpty || c.image.isEmpty) = true
  · have missing : ¬(c.name ≠ "" ∧ c.image ≠ "") := by
      simpa [String.isEmpty_iff, imp_iff_not_or] using incomplete
    simp [incomplete, missing]
  · have complete : c.name ≠ "" ∧ c.image ≠ "" := by
      simpa [String.isEmpty_iff] using incomplete
    rw [if_neg incomplete, Except.ok.injEq]
    exact (and_iff_right complete).symm

/-- Containers are built if each has a name and an image. -/
theorem Container.mapM_build_iff {containers : List Container} {built : List Json} :
    containers.mapM Container.build = .ok built ↔
      (∀ c ∈ containers, c.name ≠ "" ∧ c.image ≠ "") ∧
        containers.map Container.toJson = built := by
  simp only [mapM_ok_iff, Container.build_iff]
  rw [List.forall₂_and_left, ← List.forall₂_eq_eq_eq, List.forall₂_map_left_iff]

namespace Config

def labels : Config → Table String String
  | .deployment d => d.labels
  | .volumeClaim v => v.labels
  | .route r => r.labels
  | .service s => s.labels
  | .secret s => s.labels

def annotations : Config → Table String String
  | .volumeClaim v => v.annotations
  | _ => .empty

def body : Config → List (String × Json)
  | .deployment d => [("spec", d.spec (d.containers.map Container.toJson))]
  | .volumeClaim v => [("spec", v.spec)]
  | .route r => (r.targetPort?.map fun port => ("spec", r.spec port)).toList
  | .service s => [("spec", s.spec)]
  | .secret s => [("type", .str s.type), ("data", Json.ofTable (s.data.mapValues Secret.encoded))]

variable {c : Config} {ns : String} {d : Descriptor}

/-- Everything that is built comes from the resource and the namespace, and the resource has a
name. -/
theorem build_eq (built : c.build ns = .ok d) : isName c.name = true ∧
    d = ⟨c.kind, c.name, ns, c.labels, c.annotations, Table.ofList c.body⟩ := by
  cases c with
  | deployment c =>
    obtain ⟨named, h⟩ := checkName_then_iff.mp built
    obtain ⟨_, h⟩ := refuse_then_iff.mp h
    obtain ⟨_, h⟩ := refuse_then_iff.mp h
    obtain ⟨containers, parts, h⟩ := bind_ok_iff.mp h
    cases h
    rw [← (Container.mapM_build_iff.mp parts).2]
    exact ⟨named, rfl⟩
  | volumeClaim v =>
    obtain ⟨named, h⟩ := checkName_then_iff.mp built
    obtain ⟨_, h⟩ := refuse_then_iff.mp h
    cases h
    exact ⟨named, rfl⟩
  | route r =>
    obtain ⟨named, h⟩ := checkName_then_iff.mp built
    obtain ⟨_, h⟩ := checkName_then_iff.mp h
    cases target : r.targetPort? with
    | none =>
      rw [target] at h
      cases h
    | some port =>
      rw [target] at h
      cases h
      refine ⟨named, ?_⟩
      simp only [body, target]
      rfl
  | service s =>
    obtain ⟨named, h⟩ := checkName_then_iff.mp built
    obtain ⟨_, h⟩ := refuse_then_iff.mp h
    obtain ⟨_, h⟩ := refuse_then_iff.mp h
    cases h
    exact ⟨named, rfl⟩
  | secret s =>
    obtain ⟨named, h⟩ := checkName_then_iff.mp built
    split at h
    · cases h
    · cases h
      exact ⟨named, rfl⟩

theorem build_ok (built : c.build ns = .ok d) :
    isName c.name = true ∧ d.kind = c.kind ∧ d.ns = ns ∧ d.name = c.name := by
  obtain ⟨named, rfl⟩ := build_eq built
  exact ⟨named, rfl, rfl, rfl⟩

end Config

end Converge
