import Converge.Proofs.Visit

/-!
# The course of a run

A call that fails ends the run, which then fails in the same way. Only a lost race for a
namespace is borne. A run that no call ends finishes well or comes to a resource that is to
be in a namespace with an invalid name.
-/

namespace Converge

/-- The exchange does not end a run. -/
inductive Borne : Exchange → Prop
  | answered (c : Call) (v : c.Reply) : Borne ⟨c, .ok v⟩
  | raced (ns : String) (failure : Failure) (race : failure.isAlreadyExists = true) :
      Borne ⟨.createNamespace ns, .error failure⟩

def Flowing (t : List Exchange) : Prop := ∀ e ∈ t, Borne e

/-- The last exchange, and no other, ends the run. -/
def Halting (failure : Failure) (t : List Exchange) : Prop :=
  ∃ before c, t = before ++ [⟨c, .error failure⟩] ∧ Flowing before ∧ ¬ Borne ⟨c, .error failure⟩

/-- How a run over desired states goes. -/
inductive Course (desired : List Desired) : List Exchange → Except Failure Unit → Prop
  | finished {t : List Exchange} (flowing : Flowing t) : Course desired t (.ok ())
  | stopped {t : List Exchange} {failure : Failure} (halting : Halting failure t) :
      Course desired t (.error failure)
  | misplaced {t : List Exchange} (flowing : Flowing t) {state : Desired}
      (listed : state ∈ desired) (present : state.isPresent = true)
      (bad : isName state.ns = false) :
      Course desired t (.error (.invalid (.badName "Namespace" state.ns)))

section Parts

variable {t u : List Exchange} {failure : Failure}

theorem not_borne {c : Call} (other : ∀ ns, c ≠ .createNamespace ns) (failure : Failure) :
    ¬ Borne ⟨c, .error failure⟩ := by
  intro borne
  cases borne with
  | raced ns _ race => exact other ns rfl

theorem not_borne_createNamespace {ns : String} (other : failure.isAlreadyExists = false) :
    ¬ Borne ⟨.createNamespace ns, .error failure⟩ := by
  intro borne
  cases borne with
  | raced _ _ race =>
    rw [other] at race
    cases race

theorem Flowing.append (ht : Flowing t) (hu : Flowing u) : Flowing (t ++ u) :=
  List.forall_mem_append.mpr ⟨ht, hu⟩

theorem Flowing.nil : Flowing [] := List.forall_mem_nil _

theorem Flowing.cons {e : Exchange} (first : Borne e) (rest : Flowing t) : Flowing (e :: t) :=
  List.forall_mem_cons.mpr ⟨first, rest⟩

theorem Flowing.alone (c : Call) (v : c.Reply) : Flowing [⟨c, .ok v⟩] :=
  .cons (.answered c v) .nil

theorem Flowing.halting (ht : Flowing t) (hu : Halting failure u) : Halting failure (t ++ u) := by
  obtain ⟨before, c, rfl, flowing, fatal⟩ := hu
  exact ⟨t ++ before, c, (List.append_assoc _ _ _).symm, ht.append flowing, fatal⟩

theorem Halting.at {c : Call} (ht : Flowing t) (fatal : ¬ Borne ⟨c, .error failure⟩) :
    Halting failure (t ++ [⟨c, .error failure⟩]) :=
  ⟨t, c, rfl, ht, fatal⟩

theorem Halting.alone {c : Call} (fatal : ¬ Borne ⟨c, .error failure⟩) :
    Halting failure [⟨c, .error failure⟩] :=
  .at .nil fatal

theorem Performing.flowing {change : Change} (h : Performing change t (.ok ())) : Flowing t := by
  cases h with
  | nothing => exact .nil
  | created d v => exact .alone (.create d) v
  | replaced d v => exact .alone (.replace d) v
  | recreated d v => exact .cons (.answered (.delete _ _ _) ()) (.alone (.create d) v)
  | deleted kind ns name => exact .alone (.delete kind ns name) ()

theorem Performing.halting {change : Change} (h : Performing change t (.error failure)) :
    Halting failure t := by
  cases h with
  | uncreated d failure => exact .alone (not_borne (by simp) failure)
  | unreplaced d failure => exact .alone (not_borne (by simp) failure)
  | kept d failure => exact .alone (not_borne (by simp) failure)
  | halved d failure =>
    exact .at (.alone (.delete d.kind d.ns d.name) ()) (not_borne (by simp) failure)
  | undeleted kind ns name failure => exact .alone (not_borne (by simp) failure)

end Parts

section Looks

variable {options : Options} {ensured : List String} {desired : Desired} {t : List Exchange}
  {failure : Failure}

theorem flowing_look (desired : Desired) (found : Option Json) :
    Flowing [desired.look (.ok found)] :=
  .alone (.get desired.kind desired.ns desired.name) found

theorem halting_look (desired : Desired) (failure : Failure) :
    Halting failure [desired.look (.error failure)] :=
  .alone (not_borne (by simp) failure)

theorem Passing.flowing {outcome : Outcome} (h : Passing options desired t (.ok outcome)) :
    Flowing t := by
  cases h with
  | checked dry live => exact flowing_look desired live
  | settled real present live change state =>
    exact ((flowing_look desired live).append change.flowing).append (flowing_look desired state)
  | gone real absent live change => exact (flowing_look desired live).append change.flowing

theorem Passing.halting (h : Passing options desired t (.error failure)) : Halting failure t := by
  cases h with
  | unseen failure => exact halting_look desired failure
  | broken real live change => exact (flowing_look desired live).halting change.halting
  | lost real present live change failure =>
    exact ((flowing_look desired live).append change.flowing).halting
      (halting_look desired failure)

theorem Preparing.flowing {existed : Bool} (h : Preparing options ensured desired t (.ok existed)) :
    Flowing t := by
  cases h with
  | known closed => exact .nil
  | ensured opens look =>
    cases look with
    | there good => exact .alone (.namespaceExists desired.ns) true
    | missing good dry => exact .alone (.namespaceExists desired.ns) false
    | created good real =>
      exact .cons (.answered (.namespaceExists _) false) (.alone (.createNamespace _) ())
    | raced good real failure race =>
      exact .cons (.answered (.namespaceExists _) false) (.cons (.raced _ failure race) .nil)

/-- Ensuring a namespace is ended by a call, or not begun since the name is invalid. -/
theorem Preparing.halting (h : Preparing options ensured desired t (.error failure)) :
    Halting failure t ∨ t = [] ∧ desired.isPresent = true ∧ isName desired.ns = false ∧
      failure = .invalid (.badName "Namespace" desired.ns) := by
  cases h with
  | ensured opens look =>
    cases look with
    | misnamed bad => exact Or.inr ⟨rfl, (Desired.opensNamespace_iff.mp opens).1, bad, rfl⟩
    | unseen good failure => exact Or.inl (.alone (not_borne (by simp) failure))
    | refused good real failure other =>
      exact Or.inl (.at (.alone (.namespaceExists desired.ns) false)
        (not_borne_createNamespace other))

end Looks

section Run

variable {noun : String} {options : Options} {ensured : List String} {report after : Report}
  {t : List Exchange} {r : Except Failure Unit}

theorem Visiting.flowing {desired : Desired}
    (h : Visiting noun options ensured desired report t (.ok ()) after) : Flowing t := by
  cases h with
  | passed prepared pass => exact prepared.flowing.append pass.flowing

theorem Visiting.course {desired : Desired} (rest : List Desired)
    (h : Visiting noun options ensured desired report t r after) :
    Course (desired :: rest) t r := by
  cases h with
  | unprepared prepared =>
    rcases prepared.halting with halting | ⟨rfl, present, bad, rfl⟩
    · exact .stopped halting
    · exact .misplaced .nil List.mem_cons_self present bad
  | failed prepared pass => exact .stopped (prepared.flowing.halting pass.halting)
  | passed prepared pass => exact .finished (prepared.flowing.append pass.flowing)

theorem Course.cons {first : Desired} {rest : List Desired} {u : List Exchange}
    (before : Flowing t) (h : Course rest u r) : Course (first :: rest) (t ++ u) r := by
  cases h with
  | finished flowing => exact .finished (before.append flowing)
  | stopped halting => exact .stopped (before.halting halting)
  | misplaced flowing listed present bad =>
    exact .misplaced (before.append flowing) (List.mem_cons_of_mem _ listed) present bad

/-- Every run takes one of the courses, whoever answers. -/
theorem Running.course {desired : List Desired}
    (h : Running noun options ensured desired report t r after) : Course desired t r := by
  induction h with
  | finished => exact .finished .nil
  | stopped rest visit => exact visit.course rest
  | next visit others ih => exact ih.cons visit.flowing

variable {desired : List Desired} {before later : List Exchange}

/-- A failure that is not borne is the last one, and that of the run. -/
theorem Course.of_fatal (h : Course desired t r) {c : Call} {failure : Failure}
    (split : t = before ++ ⟨c, .error failure⟩ :: later) (fatal : ¬ Borne ⟨c, .error failure⟩) :
    later = [] ∧ r = .error failure := by
  have said : ⟨c, .error failure⟩ ∈ t := by simp [split]
  cases h with
  | finished flowing => exact absurd (flowing _ said) fatal
  | misplaced flowing => exact absurd (flowing _ said) fatal
  | stopped halting =>
    obtain ⟨first, last, same, flowing, _⟩ := halting
    rw [split] at same
    rcases List.append_eq_append_iff.mp same with ⟨more, rfl, tail⟩ | ⟨more, rfl, tail⟩
    · cases more with
      | nil =>
        cases tail
        exact ⟨rfl, rfl⟩
      | cons e more =>
        obtain ⟨rfl, _⟩ := List.cons.inj tail
        exact absurd (flowing _ (by simp)) fatal
    · cases more with
      | nil =>
        cases tail
        exact ⟨rfl, rfl⟩
      | cons e more => simp at tail

/-- Behind an exchange that is borne the run goes on: if no other follows, then the run
finishes well or comes to a misplaced resource. -/
theorem Course.of_borne (h : Course desired t r) {e : Exchange} (split : t = before ++ [e])
    (borne : Borne e) :
    r = .ok () ∨ ∃ state ∈ desired, state.isPresent = true ∧ isName state.ns = false ∧
      r = .error (.invalid (.badName "Namespace" state.ns)) := by
  cases h with
  | finished flowing => exact Or.inl rfl
  | misplaced flowing listed present bad => exact Or.inr ⟨_, listed, present, bad, rfl⟩
  | stopped halting =>
    obtain ⟨first, last, same, _, fatal⟩ := halting
    rw [split] at same
    obtain ⟨_, tail⟩ := List.append_inj' same rfl
    cases tail
    exact absurd borne fatal

end Run

end Converge
