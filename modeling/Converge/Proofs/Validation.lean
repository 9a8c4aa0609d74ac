import Converge.Cluster.Memory
import Converge.Plan
import Converge.Proofs.Build
import Converge.Proofs.Visit

/-!
# Validation before the first call

The states that documents ask for are made before a cluster is asked for anything, so a
document for which none can be made stops a run that has not begun. Making a state that
should be present does not look at its namespace, though: that is done when the run comes
to the resource, after all the calls for the resources before it.
-/

namespace Converge

namespace Document

def Misnamed (d : Document) (ns : Option String) : Prop :=
  isName d.resource.name = false ∨ ∀ place, ns.or d.ns = some place → isName place = false

/-- No desired state can be made of the document. -/
def Refused (d : Document) (ns : Option String) : Prop := ∃ cause, d.desired ns = .error cause

/-- The resource can be built, and should be present in a namespace that has no name. -/
def Misplaced (d : Document) (ns : Option String) : Prop :=
  d.presence = .present ∧
    ∃ place built, ns.or d.ns = some place ∧ d.resource.build place = .ok built ∧
      isName place = false

def applyAll (noun : String) (options : Options) (documents : List Document) (ns : Option String)
    (report : Report) : Dialogue (Except Failure Unit × Report) :=
  match desiredAll documents ns with
  | .error cause => pure (.error (.invalid cause), report)
  | .ok desired => reconcileAll noun options desired report

/-- The program makes a plan of a file with these documents, and carries it out. -/
theorem applyAll_eq_plan {content : Except String (List UInt8)} {text : String}
    {documents : List Document} (decoded : Plan.decode content = .ok text)
    (parsed : parseAll text = .ok documents) (noun : String) (options : Options)
    (ns : Option String) (report : Report) :
    applyAll noun options documents ns report =
      match Plan.ofFile content ns options with
      | .error failure => pure (.error failure, report)
      | .ok plan => reconcileAll noun plan.options plan.desired report := by
  rw [applyAll, Plan.ofFile, decoded]
  simp only [bind, Except.bind, parsed]
  cases desiredAll documents ns with
  | error cause => rfl
  | ok desired => rfl

/-- How a desired state is made of a document. -/
inductive Making (d : Document) (ns : Option String) : Desired → Prop
  | present {place : String} (given : ns.or d.ns = some place) (presence : d.presence = .present)
      {built : Descriptor} (build : d.resource.build place = .ok built) :
      Making d ns (.present built)
  | absent {place : String} (given : ns.or d.ns = some place) (presence : d.presence = .absent)
      (good : isName place = true) (named : isName d.resource.name = true) :
      Making d ns (.absent d.resource.kind place d.resource.name)

theorem making_of_desired {d : Document} {ns : Option String} {state : Desired}
    (made : d.desired ns = .ok state) : d.Making ns state := by
  rw [desired] at made
  cases given : ns.or d.ns with
  | none =>
    rw [given] at made
    cases made
  | some place =>
    rw [given] at made
    cases presence : d.presence with
    | present =>
      simp only [presence] at made
      cases build : d.resource.build place with
      | error cause =>
        rw [build] at made
        cases made
      | ok built =>
        rw [build] at made
        cases made
        exact .present given presence build
    | absent =>
      simp only [presence, Desired.checkedAbsent] at made
      obtain ⟨good, made⟩ := checkName_then_iff.mp made
      obtain ⟨named, made⟩ := checkName_then_iff.mp made
      cases made
      exact .absent given presence good named

/-- Only the namespace of a resource that should be present can be overlooked. -/
theorem Misnamed.refused {d : Document} {ns : Option String} (misnamed : d.Misnamed ns)
    (placed : ¬d.Misplaced ns) : d.Refused ns := by
  cases made : d.desired ns with
  | error cause => exact ⟨cause, made⟩
  | ok state =>
    cases making_of_desired made with
    | present given presence build =>
      rcases misnamed with bad | bad
      · rw [(Config.build_ok build).1] at bad
        cases bad
      · exact absurd ⟨presence, _, _, given, build, bad _ given⟩ placed
    | absent given presence good named =>
      rcases misnamed with bad | bad
      · rw [named] at bad
        cases bad
      · rw [bad _ given] at good
        cases good

/-- A misplaced document asks for presence in a namespace that has no name. -/
theorem misplaced_iff {d : Document} {ns : Option String} {state : Desired}
    (made : d.desired ns = .ok state) :
    d.Misplaced ns ↔ state.isPresent = true ∧ isName state.ns = false := by
  cases making_of_desired made with
  | present given presence build =>
    have same := (Config.build_ok build).2.2.1
    constructor
    · rintro ⟨_, place, _, given', _, bad⟩
      rw [given] at given'
      cases given'
      exact ⟨rfl, by rw [Desired.ns, same, bad]⟩
    · rintro ⟨_, bad⟩
      rw [Desired.ns, same] at bad
      exact ⟨presence, _, _, given, build, bad⟩
  | absent given presence good named =>
    constructor
    · rintro ⟨present, _⟩
      rw [presence] at present
      cases present
    · rintro ⟨present, _⟩
      cases present

/-- The states are made one by one. -/
theorem desiredAll_cons {d : Document} {rest : List Document} {ns : Option String}
    {desired : List Desired} :
    desiredAll (d :: rest) ns = .ok desired ↔
      ∃ first later, d.desired ns = .ok first ∧ desiredAll rest ns = .ok later ∧
        desired = first :: later := by
  rw [desiredAll, List.mapM_cons, bind_ok_iff]
  constructor
  · rintro ⟨first, made, h⟩
    obtain ⟨later, others, h⟩ := bind_ok_iff.mp h
    cases h
    exact ⟨first, later, made, others, rfl⟩
  · rintro ⟨first, later, made, others, rfl⟩
    exact ⟨first, made, bind_ok_iff.mpr ⟨later, others, rfl⟩⟩

theorem mem_desiredAll {documents : List Document} {ns : Option String} {desired : List Desired}
    (all : desiredAll documents ns = .ok desired) {d : Document} (listed : d ∈ documents) :
    ∃ state ∈ desired, d.desired ns = .ok state := by
  induction documents generalizing desired with
  | nil => cases listed
  | cons head rest ih =>
    obtain ⟨first, later, made, others, rfl⟩ := desiredAll_cons.mp all
    rcases List.mem_cons.mp listed with rfl | listed
    · exact ⟨first, List.mem_cons_self, made⟩
    · obtain ⟨state, inside, made⟩ := ih others listed
      exact ⟨state, List.mem_cons_of_mem _ inside, made⟩

theorem desiredAll_refused_iff {documents : List Document} {ns : Option String} :
    (∃ cause, desiredAll documents ns = .error cause) ↔ ∃ d ∈ documents, d.Refused ns := by
  induction documents with
  | nil => simp [desiredAll, pure, Except.pure]
  | cons d rest ih =>
    simp only [List.mem_cons, exists_eq_or_imp]
    rw [← ih, Refused, desiredAll, List.mapM_cons]
    cases made : d.desired ns with
    | error cause => simp [bind, Except.bind]
    | ok first =>
      cases others : rest.mapM fun d => d.desired ns with
      | error cause => simp [desiredAll, others, bind, Except.bind]
      | ok later => simp [desiredAll, others, bind, Except.bind, pure, Except.pure]

end Document

section Run

variable {noun : String} {options : Options} {ensured : List String} {report after : Report}
  {t : List Exchange} {r : Except Failure Unit}

theorem Passing.asks {desired : Desired} {r : Except Failure Outcome}
    (h : Passing options desired t r) : t ≠ [] := by
  cases h with
  | unseen => simp
  | checked => simp
  | broken => simp
  | lost => simp
  | settled => simp
  | gone => simp

/-- A visit that makes no call ends over the namespace. -/
theorem Visiting.unasked {desired : Desired}
    (h : Visiting noun options ensured desired report t r after) (silent : t = []) :
    desired.opensNamespace ensured = true ∧ isName desired.ns = false := by
  cases h with
  | unprepared prepared =>
    cases prepared with
    | ensured opens look =>
      cases look with
      | misnamed bad => exact ⟨opens, bad⟩
      | unseen => cases silent
      | refused => cases silent
  | failed prepared pass => exact absurd (List.append_eq_nil_iff.mp silent).2 pass.asks
  | passed prepared pass => exact absurd (List.append_eq_nil_iff.mp silent).2 pass.asks

theorem Visiting.misnamed {desired : Desired}
    (h : Visiting noun options ensured desired report t r after)
    (opens : desired.opensNamespace ensured = true) (bad : isName desired.ns = false) :
    t = [] ∧ r = .error (.invalid (.badName "Namespace" desired.ns)) := by
  have stopped {t : List Exchange} {r : Except Failure Bool}
      (h : Preparing options ensured desired t r) :
      t = [] ∧ r = .error (.invalid (.badName "Namespace" desired.ns)) := by
    cases h with
    | known closed =>
      rw [closed] at opens
      cases opens
    | ensured _ look =>
      cases look with
      | misnamed => exact ⟨rfl, rfl⟩
      | unseen good | there good | missing good | created good | raced good | refused good =>
        rw [good] at bad
        cases bad
  cases h with
  | unprepared prepared =>
    obtain ⟨silent, same⟩ := stopped prepared
    cases same
    exact ⟨silent, rfl⟩
  | failed prepared => cases (stopped prepared).2
  | passed prepared => cases (stopped prepared).2

/-- A run that comes to its end has found all namespaces named. -/
theorem Running.placed {desired : List Desired}
    (h : Running noun options ensured desired report t r after) (ended : r = .ok ())
    (good : ∀ ns ∈ ensured, isName ns = true) :
    ∀ d ∈ desired, d.isPresent = true → isName d.ns = true := by
  induction h with
  | finished => simp
  | stopped => cases ended
  | @next ensured first rest _ _ _ _ _ _ visit others ih =>
    have named : first.isPresent = true → isName first.ns = true := by
      intro present
      by_cases known : first.ns ∈ ensured
      · exact good _ known
      · cases bad : isName first.ns with
        | true => rfl
        | false =>
          have opens := Desired.opensNamespace_iff.mpr ⟨present, known⟩
          cases (visit.misnamed opens bad).2
    have later : ∀ ns ∈ first.ensuredWith ensured, isName ns = true := by
      intro ns inside
      rcases Desired.mem_ensuredWith.mp inside with known | ⟨present, rfl⟩
      · exact good ns known
      · exact named present
    intro d listed
    rcases List.mem_cons.mp listed with rfl | listed
    · exact named
    · exact ih ended later d listed

/-- A run begins without a call only if it ends over the first namespace. -/
theorem Running.unasked {first : Desired} {rest : List Desired}
    (h : Running noun options [] (first :: rest) report t r after) (silent : t = []) :
    first.isPresent = true ∧ isName first.ns = false := by
  cases h with
  | stopped _ visit =>
    obtain ⟨opens, bad⟩ := visit.unasked silent
    exact ⟨(Desired.opensNamespace_iff.mp opens).1, bad⟩
  | next visit =>
    obtain ⟨opens, bad⟩ := visit.unasked (List.append_eq_nil_iff.mp silent).1
    exact ⟨(Desired.opensNamespace_iff.mp opens).1, bad⟩

theorem Running.misplaced {first : Desired} {rest : List Desired}
    (h : Running noun options [] (first :: rest) report t r after)
    (present : first.isPresent = true) (bad : isName first.ns = false) :
    t = [] ∧ r = .error (.invalid (.badName "Namespace" first.ns)) := by
  have opens : first.opensNamespace [] = true :=
    Desired.opensNamespace_iff.mpr ⟨present, List.not_mem_nil⟩
  cases h with
  | stopped _ visit => exact visit.misnamed opens bad
  | next visit => cases (visit.misnamed opens bad).2

end Run

def Unasked {σ : Type} (client : Client σ) (run : Dialogue (Except Failure Unit × Report))
    (s : σ) : Prop :=
  run.transcript client s = [] ∧ ∃ cause, (run.run client s).1.1 = .error (.invalid cause)

/-- A run over documents fails if one of them is misnamed. It makes no call exactly if some
document is refused or the first is misplaced; in particular if some misnamed document is not
misplaced. -/
theorem misnamed_rejected {σ : Type} (client : Client σ) (noun : String) (options : Options)
    {documents : List Document} {ns : Option String} (misnamed : ∃ d ∈ documents, d.Misnamed ns)
    (report : Report) (s : σ) :
    let run := Document.applyAll noun options documents ns report
    (run.run client s).1.1 ≠ .ok () ∧
    ((∃ d ∈ documents, d.Misnamed ns ∧ ¬d.Misplaced ns) → Unasked client run s) ∧
    (Unasked client run s ↔
      (∃ d ∈ documents, d.Refused ns) ∨
        ∃ first, documents.head? = some first ∧ first.Misplaced ns) := by
  intro run
  cases all : Document.desiredAll documents ns with
  | error cause =>
    have stopped : run = pure (.error (.invalid cause), report) := by
      simp only [run, Document.applyAll, all]
    have refused := Document.desiredAll_refused_iff.mp ⟨cause, all⟩
    have unasked : Unasked client run s := by
      rw [stopped]
      exact ⟨rfl, cause, rfl⟩
    refine ⟨?_, fun _ => unasked, fun _ => Or.inl refused, fun _ => unasked⟩
    rw [unasked.2.choose_spec]
    simp
  | ok desired =>
    have begun : run = reconcileAll noun options desired report := by
      simp only [run, Document.applyAll, all]
    have running := reconcileAll_running client noun options desired report s
    rw [← begun] at running
    have accepted : ¬∃ d ∈ documents, d.Refused ns := by
      rw [← Document.desiredAll_refused_iff, all]
      simp
    have misplaced {d : Document} (listed : d ∈ documents) (bad : d.Misnamed ns) :
        d.Misplaced ns := by
      by_cases placed : d.Misplaced ns
      · exact placed
      · exact absurd ⟨d, listed, bad.refused placed⟩ accepted
    obtain ⟨d, listed, bad⟩ := misnamed
    refine ⟨?_, ?_, ?_⟩
    · intro ended
      obtain ⟨state, inside, made⟩ := Document.mem_desiredAll all listed
      obtain ⟨present, unnamed⟩ := (Document.misplaced_iff made).mp (misplaced listed bad)
      rw [running.placed ended (by simp) state inside present] at unnamed
      cases unnamed
    · rintro ⟨d, listed, bad, placed⟩
      exact absurd (misplaced listed bad) placed
    · cases documents with
      | nil => cases listed
      | cons first rest =>
        obtain ⟨state, later, made, _, rfl⟩ := Document.desiredAll_cons.mp all
        constructor
        · rintro ⟨silent, _⟩
          have unnamed := running.unasked silent
          exact Or.inr ⟨first, rfl, (Document.misplaced_iff made).mpr unnamed⟩
        · rintro (refused | ⟨_, same, unnamed⟩)
          · exact absurd refused accepted
          · cases same
            obtain ⟨present, unnamed⟩ := (Document.misplaced_iff made).mp unnamed
            obtain ⟨silent, ended⟩ := running.misplaced present unnamed
            exact ⟨silent, _, ended⟩

namespace Late

def volume (name ns : String) : Document :=
  ⟨some ns, .present, .volumeClaim ⟨name, .empty, .empty, [], "1Gi", .empty, [], none⟩⟩

def documents : List Document := [volume "data" "shop", volume "logs" "Shop"]

def run : Dialogue (Except Failure Unit × Report) :=
  Document.applyAll "namespace" ⟨false, false, false⟩ documents none .empty

end Late

open Late in
/-- The first volume claim is created before the second is found to be misplaced. -/
theorem misnamed_rejected_late :
    (∃ d ∈ documents, d.Misnamed none) ∧
    (run.run Memory.client .empty).1.1 ≠ .ok () ∧
    ¬Unasked Memory.client run .empty := by
  have misnamed : ∃ d ∈ documents, d.Misnamed none := by
    refine ⟨volume "logs" "Shop", List.mem_cons_of_mem _ List.mem_cons_self, Or.inr ?_⟩
    intro place given
    cases given
    decide
  obtain ⟨failed, _, unasked⟩ := misnamed_rejected Memory.client "namespace"
    ⟨false, false, false⟩ misnamed .empty .empty
  refine ⟨misnamed, failed, ?_⟩
  intro silent
  rcases unasked.mp silent with refused | ⟨first, same, _, place, _, given, _, bad⟩
  · obtain ⟨cause, stopped⟩ := Document.desiredAll_refused_iff.mpr refused
    cases stopped
  · cases same
    cases given
    revert bad
    decide

end Converge
