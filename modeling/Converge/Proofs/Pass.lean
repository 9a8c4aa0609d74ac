import Converge.Proofs.Dialogue
import Converge.Reconcile.Run

/-!
# Passes

The forms that the exchanges about one resource can take: ensuring its namespace,
carrying out a change, and a whole pass. Every trace of such a part has one of its forms.
The action that is decided on is always one that can be carried out.
-/

namespace Converge

inductive Ensuring (ns : String) (dryRun : Bool) : List Exchange → Except Failure Bool → Prop
  | misnamed (bad : isName ns = false) :
      Ensuring ns dryRun [] (.error (.invalid (.badName "Namespace" ns)))
  | unseen (good : isName ns = true) (failure : Failure) :
      Ensuring ns dryRun [⟨.namespaceExists ns, .error failure⟩] (.error failure)
  | there (good : isName ns = true) :
      Ensuring ns dryRun [⟨.namespaceExists ns, .ok true⟩] (.ok true)
  | missing (good : isName ns = true) (dry : dryRun = true) :
      Ensuring ns dryRun [⟨.namespaceExists ns, .ok false⟩] (.ok false)
  | created (good : isName ns = true) (real : dryRun = false) :
      Ensuring ns dryRun [⟨.namespaceExists ns, .ok false⟩, ⟨.createNamespace ns, .ok ()⟩]
        (.ok false)
  | raced (good : isName ns = true) (real : dryRun = false) (failure : Failure)
      (race : failure.isAlreadyExists = true) :
      Ensuring ns dryRun [⟨.namespaceExists ns, .ok false⟩, ⟨.createNamespace ns, .error failure⟩]
        (.ok true)
  | refused (good : isName ns = true) (real : dryRun = false) (failure : Failure)
      (other : failure.isAlreadyExists = false) :
      Ensuring ns dryRun [⟨.namespaceExists ns, .ok false⟩, ⟨.createNamespace ns, .error failure⟩]
        (.error failure)

/-- The change is one of the resource. -/
def Change.Concerns (kind : Kind) (ns name : String) : Change → Prop
  | .none => True
  | .create d | .replace d | .recreate d => d.kind = kind ∧ d.ns = ns ∧ d.name = name
  | .delete kind' ns' name' => kind' = kind ∧ ns' = ns ∧ name' = name

/-- The changes that a desired state asks for. -/
inductive Asked (options : Options) : Desired → Option Json → Change → Prop
  | create (d : Descriptor) : Asked options (.present d) none (.create d)
  | recreate (d : Descriptor) (v : Json) (recreate : options.recreate = true) :
      Asked options (.present d) (some v) (.recreate d)
  | replace (d : Descriptor) (v : Json) (overwrite : options.recreate = false)
      (replace : options.replace = true) :
      Asked options (.present d) (some v) (.replace (d.kind.prepareReplace d v))
  | keep (d : Descriptor) (v : Json) (overwrite : options.recreate = false)
      (keep : options.replace = false) : Asked options (.present d) (some v) .none
  | delete (kind : Kind) (ns name : String) (v : Json) :
      Asked options (.absent kind ns name) (some v) (.delete kind ns name)
  | gone (kind : Kind) (ns name : String) : Asked options (.absent kind ns name) none .none

theorem Desired.asked (desired : Desired) (live : Option Json) (options : Options) :
    Asked options desired live (desired.change live options) := by
  cases desired with
  | present d =>
    cases live with
    | none => exact .create d
    | some v =>
      rw [Desired.change]
      cases recreate : options.recreate with
      | true => exact .recreate d v recreate
      | false =>
        cases replace : options.replace with
        | true => exact .replace d v recreate replace
        | false => exact .keep d v recreate replace
  | absent kind ns name =>
    cases live with
    | none => exact .gone kind ns name
    | some v => exact .delete kind ns name v

section Asked

variable {options : Options} {desired : Desired} {live : Option Json} {change : Change}

theorem Asked.concerns (h : Asked options desired live change) :
    change.Concerns desired.kind desired.ns desired.name := by
  cases h with
  | create d => exact ⟨rfl, rfl, rfl⟩
  | recreate d v => exact ⟨rfl, rfl, rfl⟩
  | replace d v =>
    exact ⟨d.kind.prepareReplace_kind d v, d.kind.prepareReplace_ns d v,
      d.kind.prepareReplace_name d v⟩
  | keep d v => trivial
  | delete kind ns name v => exact ⟨rfl, rfl, rfl⟩
  | gone kind ns name => trivial

theorem Asked.of_absent (h : Asked options desired live change)
    (absent : desired.isPresent = false) :
    change = .none ∨ change = .delete desired.kind desired.ns desired.name := by
  cases h with
  | create d => cases absent
  | recreate d v => cases absent
  | replace d v => cases absent
  | keep d v => cases absent
  | delete kind ns name v => exact Or.inr rfl
  | gone kind ns name => exact Or.inl rfl

end Asked

def Change.perform : Change → Attempt Unit
  | .none => pure ()
  | .create d => do
    let _ ← Attempt.call (.create d)
  | .replace d => do
    let _ ← Attempt.call (.replace d)
  | .recreate d => do
    Attempt.call (.delete d.kind d.ns d.name)
    let _ ← Attempt.call (.create d)
  | .delete kind ns name => Attempt.call (.delete kind ns name)

/-- The action that is decided on fits: it is carried out by the calls of the change that is
asked for, and does not fail by itself. -/
theorem Desired.carryOut_decide (desired : Desired) (live : Option Json) (options : Options) :
    desired.carryOut (decide desired live options).action live =
      (desired.change live options).perform := by
  have asked := desired.asked live options
  have action : (decide desired live options).action = (desired.change live options).action := rfl
  rw [action]
  generalize desired.change live options = change at asked
  cases asked with
  | create d => rfl
  | recreate d v recreate => rfl
  | replace d v overwrite replace => rfl
  | keep d v overwrite keep => rfl
  | delete kind ns name v => rfl
  | gone kind ns name => rfl

theorem reconcile_eq (options : Options) (desired : Desired) :
    reconcile options desired = (do
      let live ← Attempt.call (.get desired.kind desired.ns desired.name)
      let decision := decide desired live options
      if options.dryRun then
        return ⟨decision, if desired.isPresent then live else none⟩
      (desired.change live options).perform
      if desired.isPresent then
        let state ← Attempt.call (.get desired.kind desired.ns desired.name)
        return ⟨decision, state⟩
      else
        return ⟨decision, none⟩) := by
  unfold reconcile
  congr 1
  funext live
  cases options.dryRun with
  | true => rfl
  | false => exact congrArg (· >>= _) (desired.carryOut_decide live options)

inductive Performing : Change → List Exchange → Except Failure Unit → Prop
  | nothing : Performing .none [] (.ok ())
  | created (d : Descriptor) (v : Json) :
      Performing (.create d) [⟨.create d, .ok v⟩] (.ok ())
  | uncreated (d : Descriptor) (failure : Failure) :
      Performing (.create d) [⟨.create d, .error failure⟩] (.error failure)
  | replaced (d : Descriptor) (v : Json) :
      Performing (.replace d) [⟨.replace d, .ok v⟩] (.ok ())
  | unreplaced (d : Descriptor) (failure : Failure) :
      Performing (.replace d) [⟨.replace d, .error failure⟩] (.error failure)
  | recreated (d : Descriptor) (v : Json) :
      Performing (.recreate d) [⟨.delete d.kind d.ns d.name, .ok ()⟩, ⟨.create d, .ok v⟩] (.ok ())
  | kept (d : Descriptor) (failure : Failure) :
      Performing (.recreate d) [⟨.delete d.kind d.ns d.name, .error failure⟩] (.error failure)
  | halved (d : Descriptor) (failure : Failure) :
      Performing (.recreate d)
        [⟨.delete d.kind d.ns d.name, .ok ()⟩, ⟨.create d, .error failure⟩] (.error failure)
  | deleted (kind : Kind) (ns name : String) :
      Performing (.delete kind ns name) [⟨.delete kind ns name, .ok ()⟩] (.ok ())
  | undeleted (kind : Kind) (ns name : String) (failure : Failure) :
      Performing (.delete kind ns name) [⟨.delete kind ns name, .error failure⟩] (.error failure)

def Desired.look (desired : Desired) (answer : Except Failure (Option Json)) : Exchange :=
  ⟨.get desired.kind desired.ns desired.name, answer⟩

/-- One pass over a resource. -/
inductive Passing (options : Options) (desired : Desired) :
    List Exchange → Except Failure Outcome → Prop
  | unseen (failure : Failure) :
      Passing options desired [desired.look (.error failure)] (.error failure)
  | checked (dry : options.dryRun = true) (live : Option Json) :
      Passing options desired [desired.look (.ok live)]
        (.ok ⟨decide desired live options, if desired.isPresent then live else none⟩)
  | broken (real : options.dryRun = false) (live : Option Json) {t : List Exchange}
      {failure : Failure} (change : Performing (desired.change live options) t (.error failure)) :
      Passing options desired (desired.look (.ok live) :: t) (.error failure)
  | lost (real : options.dryRun = false) (present : desired.isPresent = true)
      (live : Option Json) {t : List Exchange}
      (change : Performing (desired.change live options) t (.ok ())) (failure : Failure) :
      Passing options desired (desired.look (.ok live) :: t ++ [desired.look (.error failure)])
        (.error failure)
  | settled (real : options.dryRun = false) (present : desired.isPresent = true)
      (live : Option Json) {t : List Exchange}
      (change : Performing (desired.change live options) t (.ok ())) (state : Option Json) :
      Passing options desired (desired.look (.ok live) :: t ++ [desired.look (.ok state)])
        (.ok ⟨decide desired live options, state⟩)
  | gone (real : options.dryRun = false) (absent : desired.isPresent = false)
      (live : Option Json) {t : List Exchange}
      (change : Performing (desired.change live options) t (.ok ())) :
      Passing options desired (desired.look (.ok live) :: t)
        (.ok ⟨decide desired live options, none⟩)

open Attempt in
/-- Creating a namespace that was missing before. Losing a race for it is no failure. -/
theorem createNamespace_trace {ns : String} {t : List Exchange} {r : Except Failure Bool}
    (h : (do
      let answer : Except Failure Unit ← ExceptT.lift (Dialogue.call (.createNamespace ns))
      match answer with
      | .ok _ => return false
      | .error failure => if failure.isAlreadyExists then return true else throw failure :
        Attempt Bool).run.Trace t r) :
    (t = [⟨.createNamespace ns, .ok ()⟩] ∧ r = .ok false) ∨
      ∃ failure, t = [⟨.createNamespace ns, .error failure⟩] ∧
        r = if failure.isAlreadyExists then .ok true else .error failure := by
  rcases trace_bind_iff.mp h with ⟨failure, rfl, asked⟩ | ⟨answer, _, t, rfl, asked, h₁⟩
  · -- the failure of the call is a value here, so the first part cannot fail
    obtain ⟨_, impossible, _⟩ := trace_lift_iff.mp asked
    cases impossible
  obtain ⟨_, same, asked⟩ := trace_lift_iff.mp asked
  cases same
  cases trace_call_iff.mp asked
  cases answer with
  | ok _ =>
    obtain ⟨rfl, rfl⟩ := trace_pure_iff.mp h₁
    exact Or.inl ⟨rfl, rfl⟩
  | error failure =>
    refine Or.inr ⟨failure, ?_⟩
    cases race : failure.isAlreadyExists with
    | true =>
      simp only [race, if_true] at h₁
      obtain ⟨rfl, rfl⟩ := trace_pure_iff.mp h₁
      exact ⟨rfl, rfl⟩
    | false =>
      simp only [race] at h₁
      obtain ⟨rfl, rfl⟩ := trace_throw_iff.mp h₁
      exact ⟨rfl, rfl⟩

open Attempt in
theorem ensureNamespace_trace {ns : String} {dryRun : Bool} {t : List Exchange}
    {r : Except Failure Bool} (h : (ensureNamespace ns dryRun).run.Trace t r) :
    Ensuring ns dryRun t r := by
  rcases trace_bind_iff.mp h with ⟨failure, rfl, checked⟩ | ⟨_, _, t, rfl, checked, h₁⟩
  · obtain ⟨rfl, invalid⟩ := trace_check_iff.mp checked
    cases good : isName ns with
    | true => rw [checkName_of_isName good] at invalid; cases invalid
    | false => rw [checkName_of_not_isName good] at invalid; cases invalid; exact .misnamed good
  obtain ⟨rfl, valid⟩ := trace_check_iff.mp checked
  cases good : isName ns with
  | false => rw [checkName_of_not_isName good] at valid; cases valid
  | true =>
    rcases trace_bind_iff.mp h₁ with ⟨failure, rfl, asked⟩ | ⟨existed, _, t, rfl, asked, h₂⟩
    · cases trace_call_iff.mp asked
      exact .unseen good failure
    cases trace_call_iff.mp asked
    cases existed with
    | true =>
      obtain ⟨rfl, rfl⟩ := trace_pure_iff.mp h₂
      exact .there good
    | false =>
      cases dryRun with
      | true =>
        obtain ⟨rfl, rfl⟩ := trace_pure_iff.mp h₂
        exact .missing good rfl
      | false =>
        rcases createNamespace_trace h₂ with ⟨rfl, rfl⟩ | ⟨failure, rfl, rfl⟩
        · exact .created good rfl
        · cases race : failure.isAlreadyExists with
          | true => exact .raced good rfl failure race
          | false => exact .refused good rfl failure race

open Attempt in
/-- A call whose reply is dropped. -/
theorem trace_call_dropped {c : Call} {t : List Exchange} {r : Except Failure Unit}
    (h : (do let _ ← call c : Attempt Unit).run.Trace t r) :
    (∃ failure, t = [⟨c, .error failure⟩] ∧ r = .error failure) ∨
      ∃ v, t = [⟨c, .ok v⟩] ∧ r = .ok () := by
  rcases trace_bind_iff.mp h with ⟨failure, rfl, asked⟩ | ⟨v, _, _, rfl, asked, h₁⟩
  · exact Or.inl ⟨failure, trace_call_iff.mp asked, rfl⟩
  · obtain ⟨rfl, rfl⟩ := trace_pure_iff.mp h₁
    cases trace_call_iff.mp asked
    exact Or.inr ⟨v, rfl, rfl⟩

open Attempt in
theorem perform_trace {change : Change} {t : List Exchange} {r : Except Failure Unit}
    (h : change.perform.run.Trace t r) : Performing change t r := by
  cases change with
  | none =>
    obtain ⟨rfl, rfl⟩ := trace_pure_iff.mp h
    exact .nothing
  | create d =>
    rcases trace_call_dropped h with ⟨failure, rfl, rfl⟩ | ⟨v, rfl, rfl⟩
    · exact .uncreated d failure
    · exact .created d v
  | replace d =>
    rcases trace_call_dropped h with ⟨failure, rfl, rfl⟩ | ⟨v, rfl, rfl⟩
    · exact .unreplaced d failure
    · exact .replaced d v
  | recreate d =>
    rcases trace_bind_iff.mp h with ⟨failure, rfl, asked⟩ | ⟨⟨⟩, _, t, rfl, asked, h₁⟩
    · cases trace_call_iff.mp asked
      exact .kept d failure
    cases trace_call_iff.mp asked
    rcases trace_call_dropped h₁ with ⟨failure, rfl, rfl⟩ | ⟨v, rfl, rfl⟩
    · exact .halved d failure
    · exact .recreated d v
  | delete kind ns name =>
    cases trace_call_iff.mp h
    cases r with
    | error failure => exact .undeleted kind ns name failure
    | ok _ => exact .deleted kind ns name

open Attempt in
theorem reconcile_trace {options : Options} {desired : Desired} {t : List Exchange}
    {r : Except Failure Outcome} (h : (reconcile options desired).run.Trace t r) :
    Passing options desired t r := by
  rw [reconcile_eq] at h
  rcases trace_bind_iff.mp h with ⟨failure, rfl, asked⟩ | ⟨live, _, t, rfl, asked, h₁⟩
  · cases trace_call_iff.mp asked
    exact .unseen failure
  cases trace_call_iff.mp asked
  cases real : options.dryRun with
  | true =>
    simp only [real, if_true] at h₁
    obtain ⟨rfl, rfl⟩ := trace_pure_iff.mp h₁
    exact .checked real live
  | false =>
    simp only [real] at h₁
    rcases trace_bind_iff.mp h₁ with ⟨failure, rfl, done⟩ | ⟨⟨⟩, t, u, rfl, done, h₂⟩
    · exact .broken real live (perform_trace done)
    have change := perform_trace done
    cases present : desired.isPresent with
    | false =>
      simp only [present] at h₂
      obtain ⟨rfl, rfl⟩ := trace_pure_iff.mp h₂
      rw [List.append_nil]
      exact .gone real present live change
    | true =>
      simp only [present, if_true] at h₂
      rcases trace_bind_iff.mp h₂ with ⟨failure, rfl, asked⟩ | ⟨state, _, u, rfl, asked, h₃⟩
      · cases trace_call_iff.mp asked
        exact .lost real present live change failure
      cases trace_call_iff.mp asked
      obtain ⟨rfl, rfl⟩ := trace_pure_iff.mp h₃
      exact .settled real present live change state

end Converge
