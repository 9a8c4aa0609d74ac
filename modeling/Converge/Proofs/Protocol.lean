import Converge.Cluster.Disturbance
import Converge.Cluster.Memory
import Converge.Proofs.Changes
import Mathlib.Data.List.Forall2

/-!
# The protocol of a real run

The calls of a real run come in segments, one for each desired state in their order. A
segment may begin with the namespace; then come a look at the resource, the calls that the
wanted and the found state ask for, and a second look at a resource that is to be there. The
run ends within a segment, right after a call that fails, or before the segment of a resource
that is to be in a namespace with an invalid name. The one failure that ends nothing is to
lose the race for a namespace.
-/

namespace Converge

/-- The calls that follow the look at a resource. -/
def Desired.steps (options : Options) (live : Option Json) : Desired → List Call
  | .present d =>
    (match live with
      | none => [.create d]
      | some v =>
        if options.recreate then [.delete d.kind d.ns d.name, .create d]
        else if options.replace then [.replace (d.kind.prepareReplace d v)]
        else []) ++ [.get d.kind d.ns d.name]
  | .absent kind ns name =>
    match live with
    | none => []
    | some _ => [.delete kind ns name]

/-- Calls made one after another, up to the first one that fails. -/
inductive Carried : List Call → List Exchange → Except Failure Unit → Prop
  | all : Carried [] [] (.ok ())
  | next {calls : List Call} {t : List Exchange} {r : Except Failure Unit} (c : Call)
      (v : c.Reply) (later : Carried calls t r) : Carried (c :: calls) (⟨c, .ok v⟩ :: t) r
  | cut (c : Call) (calls : List Call) (failure : Failure) :
      Carried (c :: calls) [⟨c, .error failure⟩] (.error failure)

/-- What a segment may begin with: the namespace is there, or is created, or someone else
creates it in between. -/
inductive NamespacePart (desired : Desired) : List Exchange → Except Failure Unit → Prop
  | none : NamespacePart desired [] (.ok ())
  | there (present : desired.isPresent = true) :
      NamespacePart desired [⟨.namespaceExists desired.ns, .ok true⟩] (.ok ())
  | created (present : desired.isPresent = true) :
      NamespacePart desired
        [⟨.namespaceExists desired.ns, .ok false⟩, ⟨.createNamespace desired.ns, .ok ()⟩] (.ok ())
  | raced (present : desired.isPresent = true) (failure : Failure)
      (race : failure.isAlreadyExists = true) :
      NamespacePart desired
        [⟨.namespaceExists desired.ns, .ok false⟩, ⟨.createNamespace desired.ns, .error failure⟩]
        (.ok ())
  | unseen (present : desired.isPresent = true) (failure : Failure) :
      NamespacePart desired [⟨.namespaceExists desired.ns, .error failure⟩] (.error failure)
  | refused (present : desired.isPresent = true) (failure : Failure)
      (other : failure.isAlreadyExists = false) :
      NamespacePart desired
        [⟨.namespaceExists desired.ns, .ok false⟩, ⟨.createNamespace desired.ns, .error failure⟩]
        (.error failure)

/-- The segment of a desired state, whole or cut off by a failure. -/
inductive Segment (options : Options) (desired : Desired) :
    List Exchange → Except Failure Unit → Prop
  | unready {t : List Exchange} {failure : Failure}
      (opening : NamespacePart desired t (.error failure)) :
      Segment options desired t (.error failure)
  | unseen {t : List Exchange} (opening : NamespacePart desired t (.ok ())) (failure : Failure) :
      Segment options desired (t ++ [desired.look (.error failure)]) (.error failure)
  | seen {t u : List Exchange} {r : Except Failure Unit}
      (opening : NamespacePart desired t (.ok ())) (live : Option Json)
      (steps : Carried (desired.steps options live) u r) :
      Segment options desired (t ++ desired.look (.ok live) :: u) r

/-- What comes behind the whole segments: nothing, a segment that is cut off, or a state
whose namespace has an invalid name. -/
inductive Closing (options : Options) :
    List Desired → List Exchange → Except Failure Unit → Prop
  | finished : Closing options [] [] (.ok ())
  | cut {desired : Desired} (rest : List Desired) {t : List Exchange} {failure : Failure}
      (segment : Segment options desired t (.error failure)) :
      Closing options (desired :: rest) t (.error failure)
  | misplaced {desired : Desired} (rest : List Desired) (present : desired.isPresent = true)
      (bad : isName desired.ns = false) :
      Closing options (desired :: rest) [] (.error (.invalid (.badName "Namespace" desired.ns)))

section Carry

variable {first later : List Call} {t u : List Exchange} {r : Except Failure Unit}

theorem Carried.append (ht : Carried first t (.ok ())) (hu : Carried later u r) :
    Carried (first ++ later) (t ++ u) r := by
  generalize whole : (Except.ok () : Except Failure Unit) = s at ht
  induction ht with
  | all => exact hu
  | next c v _ ih => exact .next c v (ih whole)
  | cut => cases whole

theorem Carried.stopped {failure : Failure} (ht : Carried first t (.error failure))
    (later : List Call) : Carried (first ++ later) t (.error failure) := by
  generalize cut : (Except.error failure : Except Failure Unit) = s at ht
  induction ht with
  | all => cases cut
  | next c v _ ih => exact .next c v (ih cut)
  | cut c calls other =>
    cases cut
    exact .cut c (calls ++ later) failure

theorem Carried.alone (c : Call) (v : c.Reply) : Carried [c] [⟨c, .ok v⟩] (.ok ()) :=
  .next c v .all

end Carry

theorem Performing.carried {change : Change} {t : List Exchange} {r : Except Failure Unit}
    (h : Performing change t r) : Carried change.calls t r := by
  cases h with
  | nothing => exact .all
  | created d v => exact .alone (.create d) v
  | uncreated d failure => exact .cut _ _ failure
  | replaced d v => exact .alone (.replace d) v
  | unreplaced d failure => exact .cut _ _ failure
  | recreated d v => exact .next (.delete d.kind d.ns d.name) () (.alone (.create d) v)
  | kept d failure => exact .cut _ _ failure
  | halved d failure => exact .next (.delete d.kind d.ns d.name) () (.cut _ _ failure)
  | deleted kind ns name => exact .alone (.delete kind ns name) ()
  | undeleted kind ns name failure => exact .cut _ _ failure

/-- The steps are those of the change and, if the resource is to be there, another look. -/
theorem Desired.steps_eq (options : Options) (live : Option Json) (desired : Desired) :
    desired.steps options live = (desired.change live options).calls ++
      if desired.isPresent then [.get desired.kind desired.ns desired.name] else [] := by
  have asked := desired.asked live options
  generalize desired.change live options = change at asked
  cases asked with
  | create d => rfl
  | recreate d v recreate => simp [steps, recreate, Change.calls, isPresent, kind, ns, name]
  | replace d v overwrite replace =>
    simp [steps, overwrite, replace, Change.calls, isPresent, kind, ns, name]
  | keep d v overwrite keep =>
    simp [steps, overwrite, keep, Change.calls, isPresent, kind, ns, name]
  | delete kind ns name v => rfl
  | gone kind ns name => rfl

section Real

variable {noun : String} {options : Options} {ensured : List String} {desired : Desired}
  {report after : Report} {t u : List Exchange} {r : Except Failure Unit}

/-- A real pass is the end of a segment. -/
theorem Passing.segment (real : options.dryRun = false) {outcome : Except Failure Outcome}
    (opening : NamespacePart desired t (.ok ())) (h : Passing options desired u outcome) :
    Segment options desired (t ++ u) (outcome.map fun _ => ()) := by
  cases h with
  | unseen failure => exact .unseen opening failure
  | checked dry live =>
    rw [real] at dry
    cases dry
  | broken _ live change =>
    refine .seen opening live ?_
    rw [Desired.steps_eq]
    exact change.carried.stopped _
  | lost _ present live change failure =>
    refine .seen opening live ?_
    rw [Desired.steps_eq, if_pos present]
    exact change.carried.append (.cut _ _ failure)
  | settled _ present live change state =>
    refine .seen opening live ?_
    rw [Desired.steps_eq, if_pos present]
    exact change.carried.append (.alone (.get desired.kind desired.ns desired.name) state)
  | gone _ absent live change =>
    refine .seen opening live ?_
    rw [Desired.steps_eq, if_neg (by simp [absent]), List.append_nil]
    exact change.carried

theorem Preparing.namespacePart (real : options.dryRun = false) {existed : Bool}
    (h : Preparing options ensured desired t (.ok existed)) :
    NamespacePart desired t (.ok ()) := by
  cases h with
  | known closed => exact .none
  | ensured opens look =>
    have present := (Desired.opensNamespace_iff.mp opens).1
    cases look with
    | there good => exact .there present
    | missing good dry =>
      rw [real] at dry
      cases dry
    | created good _ => exact .created present
    | raced good _ failure race => exact .raced present failure race

theorem Preparing.unprepared {failure : Failure}
    (h : Preparing options ensured desired t (.error failure)) :
    NamespacePart desired t (.error failure) ∨
      desired.isPresent = true ∧ isName desired.ns = false ∧ t = [] ∧
        failure = .invalid (.badName "Namespace" desired.ns) := by
  cases h with
  | ensured opens look =>
    have present := (Desired.opensNamespace_iff.mp opens).1
    cases look with
    | misnamed bad => exact Or.inr ⟨present, bad, rfl, rfl⟩
    | unseen good _ => exact Or.inl (.unseen present failure)
    | refused good _ _ other => exact Or.inl (.refused present failure other)

theorem Visiting.segment (real : options.dryRun = false)
    (h : Visiting noun options ensured desired report t (.ok ()) after) :
    Segment options desired t (.ok ()) := by
  cases h with
  | passed prepared pass => exact pass.segment real (prepared.namespacePart real)

theorem Visiting.ending (real : options.dryRun = false) (rest : List Desired) {failure : Failure}
    (h : Visiting noun options ensured desired report t (.error failure) after) :
    Closing options (desired :: rest) t (.error failure) := by
  cases h with
  | unprepared prepared =>
    rcases prepared.unprepared with opening | ⟨present, bad, rfl, rfl⟩
    · exact .cut rest (.unready opening)
    · exact .misplaced rest present bad
  | failed prepared pass => exact .cut rest (pass.segment real (prepared.namespacePart real))

/-- A real run is made of whole segments, one for each of the first desired states, and of an
ending. -/
theorem Running.segments (real : options.dryRun = false) {desired : List Desired}
    (h : Running noun options ensured desired report t r after) :
    ∃ done rest whole cut, desired = done ++ rest ∧ t = whole.flatten ++ cut ∧
      List.Forall₂ (fun state segment => Segment options state segment (.ok ())) done whole ∧
      Closing options rest cut r := by
  induction h with
  | finished => exact ⟨[], [], [], [], rfl, rfl, .nil, .finished⟩
  | stopped rest visit => exact ⟨[], _, [], _, rfl, rfl, .nil, visit.ending real rest⟩
  | next visit others ih =>
    obtain ⟨done, rest, whole, cut, rfl, rfl, segments, ending⟩ := ih
    refine ⟨_ :: done, rest, _ :: whole, cut, rfl, ?_, .cons (visit.segment real) segments, ending⟩
    rw [List.flatten_cons, List.append_assoc]

end Real

/-- A real run follows the protocol: its exchanges are one whole segment for each of the first
desired states, in their order, and an ending. A resource is deleted only if it is to be gone
or may be created again, and replaced only if that is asked for; it is created only right
after it was found missing, or deleted for that. -/
theorem realRun_follows_protocol {σ : Type} (client : Client σ) (noun : String)
    {options : Options} (real : options.dryRun = false) (desired : List Desired)
    (report : Report) (s : σ) :
    let run := reconcileAll noun options desired report
    let t := run.transcript client s
    (∃ done rest whole cut, desired = done ++ rest ∧ t = whole.flatten ++ cut ∧
      List.Forall₂ (fun state segment => Segment options state segment (.ok ())) done whole ∧
      Closing options rest cut (run.run client s).1.1) ∧
    (∀ kind ns name answer, ⟨.delete kind ns name, answer⟩ ∈ t →
      options.recreate = true ∨ .absent kind ns name ∈ desired) ∧
    (∀ d answer, ⟨.replace d, answer⟩ ∈ t → options.replace = true ∧ options.recreate = false) ∧
    (∀ before d answer later, t = before ++ ⟨.create d, answer⟩ :: later →
      ∃ x, before.getLast? = some x ∧ Clears options d x) := by
  intro run t
  have running := reconcileAll_running client noun options desired report s
  refine ⟨running.segments real, ?_, ?_, ?_⟩
  · intro kind ns name answer said
    rcases running.wanted _ said rfl with ⟨_, impossible⟩ | ⟨state, listed, wanted⟩
    · cases impossible
    · rcases wanted.delete_cases with recreate | rfl
      · exact Or.inl recreate
      · exact Or.inr listed
  · intro d answer said
    rcases running.wanted _ said rfl with ⟨_, impossible⟩ | ⟨state, _, wanted⟩
    · cases impossible
    · exact wanted.replace_flags
  · intro before d answer later split
    obtain ⟨x, last, clears⟩ := running.cleared.before split
    exact ⟨x, by simpa using last, clears⟩

namespace Rebuild

def data : Descriptor := .bare .persistentVolumeClaim "data" "shop" .empty

/-- A volume claim to be created again, and a route that is to be gone. -/
def desired : List Desired := [.present data, .absent .route "shop" "old"]

def options : Options := ⟨true, true, false⟩

def cluster : Memory := .ofContents [] [data.manifest]

end Rebuild

open Rebuild in
/-- The volume claim that is there is deleted and created; the route was gone before. -/
theorem realRun_follows_protocol_rebuild :
    let run := reconcileAll "namespace" options desired .empty
    let t := run.transcript Memory.client cluster
    t.map (fun e => e.1.describe) =
      ["get namespace shop", "get PersistentVolumeClaim/data", "delete PersistentVolumeClaim/data",
        "create PersistentVolumeClaim/data", "get PersistentVolumeClaim/data", "get Route/old"] ∧
    options.dryRun = false ∧
    (∃ done rest whole cut, desired = done ++ rest ∧ t = whole.flatten ++ cut ∧
      List.Forall₂ (fun state segment => Segment options state segment (.ok ())) done whole ∧
      Closing options rest cut (run.run Memory.client cluster).1.1) ∧
    (∀ kind ns name answer, ⟨.delete kind ns name, answer⟩ ∈ t →
      options.recreate = true ∨ .absent kind ns name ∈ desired) ∧
    (∀ d answer, ⟨.replace d, answer⟩ ∈ t → options.replace = true ∧ options.recreate = false) ∧
    (∀ before d answer later, t = before ++ ⟨.create d, answer⟩ :: later →
      ∃ x, before.getLast? = some x ∧ Clears options d x) :=
  ⟨by decide +kernel, rfl,
    realRun_follows_protocol Memory.client "namespace" (show options.dryRun = false from rfl)
      desired .empty cluster⟩

namespace Unsegmented

def options : Options := ⟨false, false, false⟩

def misplaced : Desired := .present (.bare .persistentVolumeClaim "data" "Shop" .empty)

def placed : Desired := .present (.bare .persistentVolumeClaim "data" "shop" .empty)

/-- An empty cluster in which someone else creates every namespace first. -/
def racing : Disturbance.State Memory :=
  ⟨[⟨"create namespace", 0, -1, .alreadyExists⟩], [], .empty⟩

end Unsegmented

open Unsegmented in
/-- Not every real run consists of one segment for each state, cut off only by a failing call:
a misplaced resource ends the run with no call made for it, and a lost race for a namespace
does not end it. -/
theorem misplaced_and_raced_runs_unsegmented :
    (¬ ∃ done rest whole cut, [misplaced] = done ++ rest ∧
      (reconcileAll "namespace" options [misplaced] .empty).transcript Memory.client .empty =
        whole.flatten ++ cut ∧
      List.Forall₂ (fun state segment => Segment options state segment (.ok ())) done whole ∧
      (rest = [] ∧ cut = [] ∨
        ∃ state later failure, rest = state :: later ∧
          Segment options state cut (.error failure))) ∧
    ∃ before c failure later,
      (reconcileAll "namespace" options [placed] .empty).transcript
        (Disturbance.disturb Memory.client) racing = before ++ ⟨c, .error failure⟩ :: later ∧
      later ≠ [] := by
  have silent {state : Desired} {r : Except Failure Unit} : ¬ Segment options state [] r := by
    intro segment
    generalize empty : ([] : List Exchange) = t at segment
    cases segment with
    | unready opening => cases opening <;> cases empty
    | unseen opening failure => exact List.append_ne_nil_of_right_ne_nil _ (by simp) empty.symm
    | seen opening live steps => exact List.append_ne_nil_of_right_ne_nil _ (by simp) empty.symm
  refine ⟨?_, [_], .createNamespace "shop", _, _, rfl, List.cons_ne_nil _ _⟩
  rintro ⟨done, rest, whole, cut, split, said, segments, ending⟩
  have nothing : [] = whole.flatten ++ cut := said
  obtain ⟨none, rfl⟩ := List.append_eq_nil_iff.mp nothing.symm
  cases segments with
  | nil =>
    rcases ending with ⟨rfl, _⟩ | ⟨state, later, failure, _, segment⟩
    · cases split
    · exact silent segment
  | cons segment others =>
    rw [List.flatten_cons] at none
    rw [(List.append_eq_nil_iff.mp none).1] at segment
    exact silent segment

end Converge
