import Converge.Proofs.ReportKeys

/-!
# What is filed of a resource

A report is written in steps: namespaces are noted, outcomes recorded, the error set. Whatever
the steps are, the state that is filed of a resource at the end is the last one that was recorded
of this very resource. Another resource never writes over it, because it has another key.
-/

namespace Converge

namespace Report

inductive Step where
  | ensured (noun ns : String) (existed : Bool)
  | reconciled (kind : Kind) (ns name : String) (outcome : Outcome)
  | failed (error : Option String)

def write (r : Report) : Step → Report
  | .ensured noun ns existed => r.recordNamespace noun ns existed
  | .reconciled kind ns name outcome => r.record kind ns name outcome
  | .failed error => r.withError error

def writeAll (r : Report) (steps : List Step) : Report := steps.foldl write r

namespace Step

def stateOf (who : Kind × String × String) : Step → Option Json
  | .reconciled kind ns name outcome => if (kind, ns, name) = who then outcome.state else none
  | .ensured .. => none
  | .failed _ => none

/-- If the step is about a resource, this and its namespace have names. -/
def Named : Step → Prop
  | .reconciled _ ns name _ => isName ns = true ∧ isName name = true
  | .ensured .. => True
  | .failed _ => True

instance : DecidablePred Named
  | .reconciled _ ns name _ => inferInstanceAs (Decidable (isName ns = true ∧ isName name = true))
  | .ensured .. => inferInstanceAs (Decidable True)
  | .failed _ => inferInstanceAs (Decidable True)

end Step

def lastState (who : Kind × String × String) (steps : List Step) : Option Json :=
  (steps.filterMap (Step.stateOf who)).getLast?

theorem getLast?_filterMap_cons {α β : Type} (f : α → Option β) (a : α) (l : List α) :
    ((a :: l).filterMap f).getLast? = (l.filterMap f).getLast?.or (f a) := by
  cases said : f a with
  | none => rw [List.filterMap_cons_none said, Option.or_none]
  | some b =>
    rw [List.filterMap_cons_some said, List.getLast?_cons]
    cases (l.filterMap f).getLast? <;> rfl

/-- What every step either says anew or leaves as it is, is at the end as it was said last. -/
theorem writeAll_last {α : Type} (view : Report → Option α) (said : Step → Option α)
    {steps : List Step}
    (each : ∀ step ∈ steps, ∀ r : Report, view (r.write step) = (said step).or (view r))
    (r : Report) : view (r.writeAll steps) = (steps.filterMap said).getLast?.or (view r) := by
  induction steps generalizing r with
  | nil => rfl
  | cons step rest ih =>
    obtain ⟨now, later⟩ := List.forall_mem_cons.mp each
    have written : r.writeAll (step :: rest) = (r.write step).writeAll rest := rfl
    rw [written, ih later (r.write step), now r, getLast?_filterMap_cons, Option.or_assoc]

theorem resourceKey_eq_iff {kind kind' : Kind} {ns ns' name name' : String}
    (space : isName ns = true) (good : isName name = true) (space' : isName ns' = true)
    (good' : isName name' = true) :
    resourceKey kind ns name = resourceKey kind' ns' name' ↔
      kind = kind' ∧ ns = ns' ∧ name = name' := by
  constructor
  · exact resourceKey_injective space space' good good'
  · rintro ⟨rfl, rfl, rfl⟩
    rfl

section Named

variable {kind : Kind} {ns name : String}

/-- A step changes the filed state of a resource only by recording one of this resource. -/
theorem write_get? (space : isName ns = true) (good : isName name = true) (r : Report)
    {step : Step} (named : step.Named) :
    (r.write step).resources.get? (resourceKey kind ns name) =
      (step.stateOf (kind, ns, name)).or (r.resources.get? (resourceKey kind ns name)) := by
  cases step with
  | ensured noun ns' existed =>
    rw [write, recordNamespace_resources, Step.stateOf, Option.none_or]
  | failed error => rw [write, withError, Step.stateOf, Option.none_or]
  | reconciled kind' ns' name' outcome =>
    have own : resourceKey kind' ns' name' = resourceKey kind ns name ↔
        (kind', ns', name') = (kind, ns, name) := by
      rw [resourceKey_eq_iff named.1 named.2 space good, Prod.mk.injEq, Prod.mk.injEq]
    rw [write, record_get?, Step.stateOf]
    by_cases same : (kind', ns', name') = (kind, ns, name)
    · rw [if_pos (own.mpr same), if_pos same]
    · rw [if_neg (mt own.mp same), if_neg same, Option.none_or]

theorem writeAll_get? (space : isName ns = true) (good : isName name = true) (r : Report)
    {steps : List Step} (named : ∀ step ∈ steps, step.Named) :
    (r.writeAll steps).resources.get? (resourceKey kind ns name) =
      (lastState (kind, ns, name) steps).or (r.resources.get? (resourceKey kind ns name)) := by
  apply writeAll_last (fun r => r.resources.get? (resourceKey kind ns name))
  intro step inside r
  exact write_get? space good r (named step inside)

end Named

/-- Resources with names are filed apart: they have the same key only if they are the same, and
the state filed of each after any steps is the last one recorded of it, or the one filed before
if none was. -/
theorem resources_filed_apart {kind : Kind} {ns name : String} (space : isName ns = true)
    (good : isName name = true) :
    (∀ (kind' : Kind) (ns' name' : String), isName ns' = true → isName name' = true →
      (resourceKey kind ns name = resourceKey kind' ns' name' ↔
        kind = kind' ∧ ns = ns' ∧ name = name')) ∧
    ∀ (r : Report) (steps : List Step), (∀ step ∈ steps, step.Named) →
      (r.writeAll steps).resources.get? (resourceKey kind ns name) =
        (lastState (kind, ns, name) steps).or (r.resources.get? (resourceKey kind ns name)) :=
  ⟨fun _ _ _ space' good' => resourceKey_eq_iff space good space' good',
    fun r _ named => writeAll_get? space good r named⟩

/-- The service `web-route` and the route `web` of one namespace: what is recorded of the route,
and of its namesake elsewhere, does not touch the service. -/
theorem resources_filed_apart_alike :
    let service : Outcome := ⟨⟨.create, "Create service web-route"⟩, some (.int 1)⟩
    let route : Outcome := ⟨⟨.create, "Create route web"⟩, some (.int 2)⟩
    let steps : List Step := [.ensured "project" "shop" false,
      .reconciled .service "shop" "web-route" service, .reconciled .route "shop" "web" route,
      .reconciled .service "shop.web" "route" route, .failed (some "timeout")]
    isName "shop" = true ∧ isName "web-route" = true ∧ (∀ step ∈ steps, step.Named) ∧
      resourceKey .service "shop" "web-route" ≠ resourceKey .route "shop" "web" ∧
      (empty.writeAll steps).resources.get? "shop/web_route_service" = some (.int 1) := by
  intro service route steps
  have space : isName "shop" = true := by decide
  have good : isName "web-route" = true := by decide
  have named : ∀ step ∈ steps, step.Named := by decide
  obtain ⟨apart, filed⟩ := @resources_filed_apart .service "shop" "web-route" space good
  have own := filed empty steps named
  have key : resourceKey .service "shop" "web-route" = "shop/web_route_service" := by decide
  rw [key] at own
  refine ⟨space, good, named, fun same => ?_, own.trans rfl⟩
  cases ((apart .route "shop" "web" (by decide) (by decide)).mp same).1

end Report

end Converge
