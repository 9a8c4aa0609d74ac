import Converge.Proofs.Visit
import Mathlib.Tactic.ByContra

/-!
# Namespaces in a run

A run looks every namespace up at most once and creates it at most once, and only one in
which some resource is to be present. It asks nothing about such a resource before the
namespace is ensured. What carries this is the list of the namespaces that need no look: a
visit adds its own namespace to it exactly if it looked that up.
-/

namespace Converge

namespace Call

def lookedUp? : Call → Option String
  | .namespaceExists ns => some ns
  | _ => none

def founded? : Call → Option String
  | .createNamespace ns => some ns
  | _ => none

def isAboutResource : Call → Bool
  | .namespaceExists _ | .createNamespace _ => false
  | _ => true

end Call

/-- The namespaces that are looked up, one for each look. -/
def lookups (t : List Exchange) : List String := t.filterMap fun e => e.1.lookedUp?

/-- The namespaces whose creation is asked for, one for each time. -/
def foundings (t : List Exchange) : List String := t.filterMap fun e => e.1.founded?

/-- The exchanges ensure a namespace: it was found, or it was missing and then created by the
run or, first, by someone else. A dry run leaves a missing namespace missing. -/
inductive Ensured (dryRun : Bool) (ns : String) (t : List Exchange) : Prop
  | there (found : ⟨.namespaceExists ns, .ok true⟩ ∈ t)
  | missing (dry : dryRun = true) (looked : ⟨.namespaceExists ns, .ok false⟩ ∈ t)
  | created (real : dryRun = false) (looked : ⟨.namespaceExists ns, .ok false⟩ ∈ t)
      (made : ⟨.createNamespace ns, .ok ()⟩ ∈ t)
  | raced (real : dryRun = false) (looked : ⟨.namespaceExists ns, .ok false⟩ ∈ t)
      (failure : Failure) (race : failure.isAlreadyExists = true)
      (lost : ⟨.createNamespace ns, .error failure⟩ ∈ t)

/-- Namespaces are created in real runs only, each right after a look that found it missing. -/
def FoundsMissing (options : Options) (t : List Exchange) : Prop :=
  ∀ before ns answer later, t = before ++ ⟨.createNamespace ns, answer⟩ :: later →
    options.dryRun = false ∧ before.getLast? = some ⟨.namespaceExists ns, .ok false⟩

theorem lookups_append (t u : List Exchange) : lookups (t ++ u) = lookups t ++ lookups u :=
  List.filterMap_append

theorem foundings_append (t u : List Exchange) :
    foundings (t ++ u) = foundings t ++ foundings u :=
  List.filterMap_append

theorem Ensured.mono {dryRun : Bool} {ns : String} {t u : List Exchange}
    (h : Ensured dryRun ns t) (inside : t ⊆ u) : Ensured dryRun ns u := by
  cases h with
  | there found => exact .there (inside found)
  | missing dry looked => exact .missing dry (inside looked)
  | created real looked made => exact .created real (inside looked) (inside made)
  | raced real looked failure race lost =>
    exact .raced real (inside looked) failure race (inside lost)

theorem FoundsMissing.nil (options : Options) : FoundsMissing options [] := by
  intro before ns answer later split
  simp at split

theorem FoundsMissing.append {options : Options} {t u : List Exchange}
    (ht : FoundsMissing options t) (hu : FoundsMissing options u) :
    FoundsMissing options (t ++ u) := by
  intro before ns answer later split
  rcases List.append_eq_append_iff.mp split with ⟨more, rfl, behind⟩ | ⟨more, rfl, front⟩
  · obtain ⟨real, last⟩ := hu more ns answer later behind
    exact ⟨real, by rw [List.getLast?_append, last, Option.some_or]⟩
  · cases more with
    | nil =>
      obtain ⟨real, last⟩ := hu [] ns answer later front.symm
      cases last
    | cons e more =>
      obtain ⟨rfl, rfl⟩ := List.cons.inj front
      exact ht before ns answer more rfl

section Parts

variable {options : Options} {ensured : List String} {desired : Desired} {t : List Exchange}

theorem Performing.aboutResource {change : Change} {r : Except Failure Unit}
    (h : Performing change t r) : ∀ e ∈ t, e.1.isAboutResource = true := by
  cases h <;> simp [Call.isAboutResource]

theorem Passing.aboutResource {r : Except Failure Outcome} (h : Passing options desired t r) :
    ∀ e ∈ t, e.1.isAboutResource = true := by
  have look (answer : Except Failure (Option Json)) :
      ∀ e ∈ [desired.look answer], e.1.isAboutResource = true := by
    simp [Desired.look, Call.isAboutResource]
  cases h with
  | unseen failure => exact look (.error failure)
  | checked dry live => exact look (.ok live)
  | broken real live change | gone real absent live change =>
    exact List.forall_mem_append.mpr ⟨look (.ok live), change.aboutResource⟩
  | lost real present live change failure =>
    have first := List.forall_mem_append.mpr ⟨look (.ok live), change.aboutResource⟩
    exact List.forall_mem_append.mpr ⟨first, look (.error failure)⟩
  | settled real present live change state =>
    have first := List.forall_mem_append.mpr ⟨look (.ok live), change.aboutResource⟩
    exact List.forall_mem_append.mpr ⟨first, look (.ok state)⟩

theorem lookups_aboutResource (h : ∀ e ∈ t, e.1.isAboutResource = true) : lookups t = [] := by
  refine List.filterMap_eq_nil_iff.mpr ?_
  rintro ⟨c, answer⟩ said
  have about := h _ said
  cases c <;> first | rfl | cases about

theorem foundings_aboutResource (h : ∀ e ∈ t, e.1.isAboutResource = true) :
    foundings t = [] := by
  refine List.filterMap_eq_nil_iff.mpr ?_
  rintro ⟨c, answer⟩ said
  have about := h _ said
  cases c <;> first | rfl | cases about

theorem FoundsMissing.aboutResource (h : ∀ e ∈ t, e.1.isAboutResource = true) :
    FoundsMissing options t := by
  rintro before ns answer later rfl
  cases h ⟨.createNamespace ns, answer⟩ (by simp)

theorem Ensuring.aboutNamespace {ns : String} {dryRun : Bool} {r : Except Failure Bool}
    (h : Ensuring ns dryRun t r) : ∀ e ∈ t, e.1.isAboutResource = false := by
  cases h <;> simp [Call.isAboutResource]

theorem Preparing.aboutNamespace {r : Except Failure Bool}
    (h : Preparing options ensured desired t r) : ∀ e ∈ t, e.1.isAboutResource = false := by
  cases h with
  | known closed => simp
  | ensured opens look => exact look.aboutNamespace

/-- A namespace is looked up only if it needs a look. -/
theorem Preparing.lookups_cases {r : Except Failure Bool}
    (h : Preparing options ensured desired t r) :
    lookups t = [] ∨ lookups t = [desired.ns] ∧ desired.opensNamespace ensured = true := by
  cases h with
  | known closed => exact Or.inl rfl
  | ensured opens look =>
    cases look with
    | misnamed bad => exact Or.inl rfl
    | _ => exact Or.inr ⟨rfl, opens⟩

theorem Preparing.foundings_sublist {r : Except Failure Bool}
    (h : Preparing options ensured desired t r) :
    (foundings t).Sublist (lookups t) := by
  cases h with
  | known closed => exact List.Sublist.refl _
  | ensured opens look => cases look <;> simp [foundings, lookups, Call.founded?, Call.lookedUp?]

theorem Preparing.foundsMissing {r : Except Failure Bool}
    (h : Preparing options ensured desired t r) : FoundsMissing options t := by
  have second (ns : String) (answer : Except Failure Unit) (real : options.dryRun = false) :
      FoundsMissing options
        [⟨.namespaceExists ns, .ok false⟩, ⟨.createNamespace ns, answer⟩] := by
    intro before other said later split
    match before, split with
    | [_], split =>
      cases split
      exact ⟨real, rfl⟩
    | _ :: _ :: _, split => simp at split
  have alone (ns : String) (answer : Except Failure Bool) :
      FoundsMissing options [⟨.namespaceExists ns, answer⟩] := by
    intro before other said later split
    match before, split with
    | _ :: _, split => simp at split
  cases h with
  | known closed => exact .nil options
  | ensured opens look =>
    cases look with
    | misnamed bad => exact .nil options
    | unseen good failure => exact alone _ _
    | there good => exact alone _ _
    | missing good dry => exact alone _ _
    | created good real => exact second _ _ real
    | raced good real failure race => exact second _ _ real
    | refused good real failure other => exact second _ _ real

theorem Preparing.secures {existed : Bool} (present : desired.isPresent = true)
    (h : Preparing options ensured desired t (.ok existed)) :
    desired.ns ∈ ensured ∨ Ensured options.dryRun desired.ns t := by
  cases h with
  | known closed =>
    refine Or.inl ?_
    by_contra new
    rw [Desired.opensNamespace_iff.mpr ⟨present, new⟩] at closed
    cases closed
  | ensured opens look =>
    refine Or.inr ?_
    cases look with
    | there good => exact .there List.mem_cons_self
    | missing good dry => exact .missing dry List.mem_cons_self
    | created good real => exact .created real List.mem_cons_self (by simp)
    | raced good real failure race =>
      exact .raced real List.mem_cons_self failure race (by simp)

end Parts

section Visits

variable {noun : String} {options : Options} {ensured : List String} {desired : Desired}
  {report after : Report} {t : List Exchange} {r : Except Failure Unit}

theorem Visiting.lookups_cases (h : Visiting noun options ensured desired report t r after) :
    lookups t = [] ∨ lookups t = [desired.ns] ∧ desired.opensNamespace ensured = true := by
  cases h with
  | unprepared prepared => exact prepared.lookups_cases
  | failed prepared pass | passed prepared pass =>
    rw [lookups_append, lookups_aboutResource pass.aboutResource, List.append_nil]
    exact prepared.lookups_cases

theorem Visiting.lookups_nodup (h : Visiting noun options ensured desired report t r after) :
    (lookups t).Nodup ∧
      ∀ ns ∈ lookups t, ns ∉ ensured ∧ desired.isPresent = true ∧ desired.ns = ns := by
  rcases h.lookups_cases with none | ⟨one, opens⟩
  · simp [none]
  · obtain ⟨present, new⟩ := Desired.opensNamespace_iff.mp opens
    simp [one, present, new]

theorem Visiting.foundings_sublist (h : Visiting noun options ensured desired report t r after) :
    (foundings t).Sublist (lookups t) := by
  cases h with
  | unprepared prepared => exact prepared.foundings_sublist
  | failed prepared pass | passed prepared pass =>
    rw [lookups_append, lookups_aboutResource pass.aboutResource, foundings_append,
      foundings_aboutResource pass.aboutResource, List.append_nil, List.append_nil]
    exact prepared.foundings_sublist

theorem Visiting.foundsMissing (h : Visiting noun options ensured desired report t r after) :
    FoundsMissing options t := by
  cases h with
  | unprepared prepared => exact prepared.foundsMissing
  | failed prepared pass | passed prepared pass =>
    exact prepared.foundsMissing.append (.aboutResource pass.aboutResource)

/-- What is asked about a resource that is to be present comes behind the ensuring. -/
theorem Visiting.secured (present : desired.isPresent = true)
    (h : Visiting noun options ensured desired report t r after) {first last : List Exchange}
    {e : Exchange} (split : t = first ++ e :: last) (about : e.1.isAboutResource = true) :
    desired.ns ∈ ensured ∨ Ensured options.dryRun desired.ns first := by
  have opening {u v : List Exchange} {existed : Bool}
      (prepared : Preparing options ensured desired u (.ok existed))
      (split : u ++ v = first ++ e :: last) :
      desired.ns ∈ ensured ∨ Ensured options.dryRun desired.ns first := by
    have silent := prepared.aboutNamespace
    rcases List.append_eq_append_iff.mp split with ⟨more, rfl, _⟩ | ⟨more, rfl, behind⟩
    · exact (prepared.secures present).imp_right fun secured => secured.mono (by simp)
    · cases more with
      | nil =>
        rw [List.append_nil] at prepared
        exact prepared.secures present
      | cons x more =>
        obtain ⟨rfl, _⟩ := List.cons.inj behind
        rw [silent e (by simp)] at about
        cases about
  cases h with
  | unprepared prepared =>
    rw [prepared.aboutNamespace e (by simp [split])] at about
    cases about
  | failed prepared pass => exact opening prepared split
  | passed prepared pass => exact opening prepared split

theorem Visiting.secures (present : desired.isPresent = true)
    (h : Visiting noun options ensured desired report t (.ok ()) after) :
    desired.ns ∈ ensured ∨ Ensured options.dryRun desired.ns t := by
  cases h with
  | passed prepared pass =>
    exact (prepared.secures present).imp_right fun secured => secured.mono (by simp)

end Visits

section Runs

variable {noun : String} {options : Options} {ensured : List String} {desired : List Desired}
  {report after : Report} {t : List Exchange} {r : Except Failure Unit}

/-- Only namespaces of resources that are to be present are looked up, none twice and none
that needs no look. -/
theorem Running.lookups_nodup (h : Running noun options ensured desired report t r after) :
    (lookups t).Nodup ∧ ∀ ns ∈ lookups t, ns ∉ ensured ∧
      ∃ state ∈ desired, state.isPresent = true ∧ state.ns = ns := by
  induction h with
  | finished => simp [lookups]
  | stopped rest visit =>
    obtain ⟨nodup, own⟩ := visit.lookups_nodup
    refine ⟨nodup, fun ns looked => ?_⟩
    obtain ⟨new, present, same⟩ := own ns looked
    exact ⟨new, _, List.mem_cons_self, present, same⟩
  | next visit others ih =>
    obtain ⟨nodup, own⟩ := visit.lookups_nodup
    obtain ⟨nodup', later⟩ := ih
    rw [lookups_append]
    constructor
    · refine List.nodup_append.mpr ⟨nodup, nodup', ?_⟩
      rintro ns looked _ again rfl
      obtain ⟨_, present, same⟩ := own ns looked
      exact (later ns again).1 (Desired.mem_ensuredWith.mpr (Or.inr ⟨present, same⟩))
    · intro ns looked
      rcases List.mem_append.mp looked with looked | looked
      · obtain ⟨new, present, same⟩ := own ns looked
        exact ⟨new, _, List.mem_cons_self, present, same⟩
      · obtain ⟨new, state, listed, present, same⟩ := later ns looked
        refine ⟨?_, state, List.mem_cons_of_mem _ listed, present, same⟩
        exact fun known => new (Desired.mem_ensuredWith.mpr (Or.inl known))

theorem Running.foundings_sublist (h : Running noun options ensured desired report t r after) :
    (foundings t).Sublist (lookups t) := by
  induction h with
  | finished => exact List.Sublist.refl _
  | stopped rest visit => exact visit.foundings_sublist
  | next visit others ih =>
    rw [foundings_append, lookups_append]
    exact visit.foundings_sublist.append ih

theorem Running.foundsMissing (h : Running noun options ensured desired report t r after) :
    FoundsMissing options t := by
  induction h with
  | finished => exact .nil options
  | stopped rest visit => exact visit.foundsMissing
  | next visit others ih => exact visit.foundsMissing.append ih

/-- A run that ends well has ensured the namespaces of all resources that are to be present,
as far as they needed it. -/
theorem Running.secures (h : Running noun options ensured desired report t (.ok ()) after)
    {state : Desired} (listed : state ∈ desired) (present : state.isPresent = true) :
    state.ns ∈ ensured ∨ Ensured options.dryRun state.ns t := by
  generalize well : (Except.ok () : Except Failure Unit) = r at h
  induction h with
  | finished => cases listed
  | stopped rest visit => cases well
  | next visit others ih =>
    rcases List.mem_cons.mp listed with rfl | listed
    · exact (visit.secures present).imp_right fun secured => secured.mono (by simp)
    · rcases ih listed well with known | secured
      · rcases Desired.mem_ensuredWith.mp known with known | ⟨present, same⟩
        · exact Or.inl known
        · rw [← same]
          exact (visit.secures present).imp_right fun secured => secured.mono (by simp)
      · exact Or.inr (secured.mono (by simp))

/-- The run over one state says nothing about its resource before the namespace is ensured. -/
theorem Running.secured {state : Desired} (present : state.isPresent = true)
    (h : Running noun options ensured [state] report t r after) {first last : List Exchange}
    {e : Exchange} (split : t = first ++ e :: last) (about : e.1.isAboutResource = true) :
    state.ns ∈ ensured ∨ Ensured options.dryRun state.ns first := by
  cases h with
  | stopped rest visit => exact visit.secured present split about
  | next visit others =>
    cases others
    rw [List.append_nil] at split
    exact visit.secured present split about

end Runs

section Shares

variable {σ : Type} {client : Client σ} {noun : String} {options : Options}
  {before later : List Desired} {report between : Report} {s s' : σ}

/-- Behind a run that ends well, a longer one says what is to be said for the other states. -/
theorem transcript_append (ended : (reconcileAll noun options before report).run client s =
      ((.ok (), between), s')) (later : List Desired) :
    (reconcileAll noun options (before ++ later) report).transcript client s =
      (reconcileAll noun options before report).transcript client s ++
        (reconcileFrom noun options (ensuredAfter before []) later between).transcript client
          s' := by
  rw [reconcileAll, reconcileFrom_append, Dialogue.transcript_bind, ← reconcileAll, ended]

/-- A run that fails says no more if there are more states behind. -/
theorem transcript_append_of_error {failure : Failure}
    (ended : (reconcileAll noun options before report).run client s =
      ((.error failure, between), s')) (later : List Desired) :
    (reconcileAll noun options (before ++ later) report).transcript client s =
      (reconcileAll noun options before report).transcript client s := by
  rw [reconcileAll, reconcileFrom_append, Dialogue.transcript_bind, ← reconcileAll, ended]
  exact List.append_nil _

theorem transcript_prefix (client : Client σ) (noun : String) (options : Options)
    (before later : List Desired) (report : Report) (s : σ) :
    (reconcileAll noun options before report).transcript client s <+:
      (reconcileAll noun options (before ++ later) report).transcript client s := by
  rcases ended : (reconcileAll noun options before report).run client s with ⟨⟨_ | _, _⟩, _⟩
  · have same := transcript_append_of_error ended later
    exact ⟨[], (List.append_nil _).trans same.symm⟩
  · exact ⟨_, (transcript_append ended later).symm⟩

/-- What the run over the states up to one says more than the run over those before that one.
If the resource is to be present, nothing in it about a resource comes before the namespace is
ensured. -/
theorem secured_share (client : Client σ) (noun : String) (options : Options)
    (before : List Desired) {state : Desired} (present : state.isPresent = true)
    (report : Report) (s : σ) :
    let said (states : List Desired) :=
      (reconcileAll noun options states report).transcript client s
    ∃ mine, said (before ++ [state]) = said before ++ mine ∧
      ∀ first e last, mine = first ++ e :: last → e.1.isAboutResource = true →
        Ensured options.dryRun state.ns (said before ++ first) := by
  intro said
  have running := reconcileAll_running client noun options before report s
  rcases ended : (reconcileAll noun options before report).run client s with
    ⟨⟨failure | _, between⟩, s'⟩
  · refine ⟨[], ?_, ?_⟩
    · simp only [said, transcript_append_of_error ended, List.append_nil]
    · intro first e last split
      simp at split
  · refine ⟨_, transcript_append ended [state], ?_⟩
    intro first e last split about
    rw [ended] at running
    have alone := reconcileFrom_trace (Dialogue.trace_run client
      (reconcileFrom noun options (ensuredAfter before []) [state] between) s')
    rcases alone.secured present split about with known | secured
    · rcases mem_ensuredAfter.mp known with none | ⟨earlier, listed, wanted, same⟩
      · cases none
      · rcases running.secures listed wanted with none | secured
        · cases none
        · rw [← same]
          exact secured.mono (List.subset_append_left _ _)
    · exact secured.mono (List.subset_append_right _ _)

end Shares

/-- In a run, real or dry, no namespace is looked up twice or created twice, and none but those
of resources that are to be present. A namespace is created in a real run only, right after a
look that found it missing. And what a run says for a resource that is to be present asks
nothing about a resource before the namespace is ensured in this run. -/
theorem run_keeps_namespace_discipline {σ : Type} (client : Client σ) (noun : String)
    (options : Options) (desired : List Desired) (report : Report) (s : σ) :
    let said (states : List Desired) :=
      (reconcileAll noun options states report).transcript client s
    (lookups (said desired)).Nodup ∧ (foundings (said desired)).Nodup ∧
    (∀ ns, ns ∈ lookups (said desired) ∨ ns ∈ foundings (said desired) →
      ∃ d, .present d ∈ desired ∧ d.ns = ns) ∧
    FoundsMissing options (said desired) ∧
    ∀ before d later, desired = before ++ .present d :: later →
      ∃ mine rest, said (before ++ [.present d]) = said before ++ mine ∧
        said desired = said before ++ mine ++ rest ∧
        ∀ first e last, mine = first ++ e :: last → e.1.isAboutResource = true →
          Ensured options.dryRun d.ns (said before ++ first) := by
  intro said
  have running := reconcileAll_running client noun options desired report s
  obtain ⟨nodup, own⟩ := running.lookups_nodup
  have sublist := running.foundings_sublist
  refine ⟨nodup, nodup.sublist sublist, ?_, running.foundsMissing, ?_⟩
  · intro ns named
    have looked : ns ∈ lookups (said desired) := named.elim id fun made => sublist.subset made
    obtain ⟨_, state, listed, present, same⟩ := own ns looked
    cases state with
    | present d => exact ⟨d, listed, same⟩
    | absent kind ns name => cases present
  · rintro before d later rfl
    have present : (Desired.present d).isPresent = true := rfl
    obtain ⟨mine, longer, secured⟩ :=
      secured_share client noun options before present report s
    obtain ⟨rest, whole⟩ :=
      transcript_prefix client noun options (before ++ [.present d]) later report s
    rw [List.append_assoc, List.singleton_append] at whole
    refine ⟨mine, rest, longer, ?_, secured⟩
    rw [← longer]
    exact whole.symm

end Converge
