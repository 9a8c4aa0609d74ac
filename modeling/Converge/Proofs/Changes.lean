import Converge.Proofs.Visit

/-!
# Changes in a run

Every change that a run asks for is wanted for one of its desired states, except that it may
create namespaces. A resource is created only right after a look that found it missing, or
right after it was deleted to be created again.
-/

namespace Converge

def Change.calls : Change → List Call
  | .none => []
  | .create d => [.create d]
  | .replace d => [.replace d]
  | .recreate d => [.delete d.kind d.ns d.name, .create d]
  | .delete kind ns name => [.delete kind ns name]

/-! ## Which changes are asked for -/

/-- The call changes a resource as its desired state and the options ask for. -/
inductive Wanted (options : Options) : Desired → Call → Prop
  | create (d : Descriptor) : Wanted options (.present d) (.create d)
  | replace (d : Descriptor) (v : Json) (overwrite : options.recreate = false)
      (replace : options.replace = true) :
      Wanted options (.present d) (.replace (d.kind.prepareReplace d v))
  | recreate (d : Descriptor) (recreate : options.recreate = true) :
      Wanted options (.present d) (.delete d.kind d.ns d.name)
  | delete (kind : Kind) (ns name : String) :
      Wanted options (.absent kind ns name) (.delete kind ns name)

section Want

variable {noun : String} {options : Options} {ensured : List String} {desired : Desired}
  {report after : Report} {t : List Exchange} {kind : Kind} {ns name : String} {d : Descriptor}

theorem Wanted.delete_cases (h : Wanted options desired (.delete kind ns name)) :
    options.recreate = true ∨ desired = .absent kind ns name := by
  cases h with
  | recreate d recreate => exact Or.inl recreate
  | delete => exact Or.inr rfl

theorem Wanted.replace_flags (h : Wanted options desired (.replace d)) :
    options.replace = true ∧ options.recreate = false := by
  cases h with
  | replace d v overwrite replace => exact ⟨replace, overwrite⟩

theorem Performing.wanted {live : Option Json} {change : Change} {r : Except Failure Unit}
    (asked : Asked options desired live change) (h : Performing change t r) :
    ∀ e ∈ t, Wanted options desired e.1 := by
  cases asked with
  | create d => cases h <;> simp [Wanted.create]
  | recreate d v recreate => cases h <;> simp [Wanted.create, Wanted.recreate, recreate]
  | replace d v overwrite replace => cases h <;> simp [Wanted.replace, overwrite, replace]
  | keep d v overwrite keep => cases h; simp
  | delete kind ns name v => cases h <;> simp [Wanted.delete]
  | gone kind ns name => cases h; simp

/-- A change of a resource in a pass is a wanted one. -/
theorem Passing.wanted {r : Except Failure Outcome} (h : Passing options desired t r) :
    ∀ e ∈ t, e.1.isMutation = true → Wanted options desired e.1 := by
  have looked (answer : Except Failure (Option Json)) {u : List Exchange}
      (rest : ∀ e ∈ u, Wanted options desired e.1) :
      ∀ e ∈ desired.look answer :: u, e.1.isMutation = true → Wanted options desired e.1 := by
    intro e listed mutation
    rcases List.mem_cons.mp listed with rfl | listed
    · cases mutation
    · exact rest e listed
  have alone (answer : Except Failure (Option Json)) :
      ∀ e ∈ [desired.look answer], e.1.isMutation = true → Wanted options desired e.1 :=
    looked answer (List.forall_mem_nil _)
  cases h with
  | unseen failure => exact alone (.error failure)
  | checked dry live => exact alone (.ok live)
  | broken real live change =>
    exact looked (.ok live) (change.wanted (desired.asked live options))
  | lost real present live change failure =>
    have first := looked (.ok live) (change.wanted (desired.asked live options))
    exact List.forall_mem_append.mpr ⟨first, alone (.error failure)⟩
  | settled real present live change state =>
    have first := looked (.ok live) (change.wanted (desired.asked live options))
    exact List.forall_mem_append.mpr ⟨first, alone (.ok state)⟩
  | gone real absent live change =>
    exact looked (.ok live) (change.wanted (desired.asked live options))

theorem Preparing.mutation {r : Except Failure Bool} (h : Preparing options ensured desired t r) :
    ∀ e ∈ t, e.1.isMutation = true → e.1 = .createNamespace desired.ns := by
  cases h with
  | known closed => simp
  | ensured opens look => cases look <;> simp [Call.isMutation]

/-- A change in a visit is the creation of a namespace or a wanted one. -/
theorem Visiting.wanted {r : Except Failure Unit}
    (h : Visiting noun options ensured desired report t r after) :
    ∀ e ∈ t, e.1.isMutation = true →
      (∃ ns, e.1 = .createNamespace ns) ∨ Wanted options desired e.1 := by
  have opening {u : List Exchange} {r : Except Failure Bool}
      (prepared : Preparing options ensured desired u r) :
      ∀ e ∈ u, e.1.isMutation = true →
        (∃ ns, e.1 = .createNamespace ns) ∨ Wanted options desired e.1 :=
    fun e listed mutation => Or.inl ⟨_, prepared.mutation e listed mutation⟩
  cases h with
  | unprepared prepared => exact opening prepared
  | failed prepared pass =>
    exact List.forall_mem_append.mpr
      ⟨opening prepared, fun e listed mutation => Or.inr (pass.wanted e listed mutation)⟩
  | passed prepared pass =>
    exact List.forall_mem_append.mpr
      ⟨opening prepared, fun e listed mutation => Or.inr (pass.wanted e listed mutation)⟩

/-- A change in a run is the creation of a namespace or wanted for one of the resources. -/
theorem Running.wanted {desired : List Desired} {r : Except Failure Unit}
    (h : Running noun options ensured desired report t r after) :
    ∀ e ∈ t, e.1.isMutation = true →
      (∃ ns, e.1 = .createNamespace ns) ∨ ∃ state ∈ desired, Wanted options state e.1 := by
  induction h with
  | finished => simp
  | stopped rest visit =>
    intro e listed mutation
    exact (visit.wanted e listed mutation).imp_right fun wanted =>
      ⟨_, List.mem_cons_self, wanted⟩
  | next visit others ih =>
    refine List.forall_mem_append.mpr ⟨?_, ?_⟩
    · intro e listed mutation
      exact (visit.wanted e listed mutation).imp_right fun wanted =>
        ⟨_, List.mem_cons_self, wanted⟩
    · intro e listed mutation
      exact (ih e listed mutation).imp_right fun ⟨state, later, wanted⟩ =>
        ⟨state, List.mem_cons_of_mem _ later, wanted⟩

end Want

/-! ## What has to come before a call -/

/-- The exchange makes room for a resource: it was found missing, or was deleted because it
is to be created again. -/
inductive Clears (options : Options) (d : Descriptor) : Exchange → Prop
  | missing : Clears options d ⟨.get d.kind d.ns d.name, .ok none⟩
  | deleted (recreate : options.recreate = true) :
      Clears options d ⟨.delete d.kind d.ns d.name, .ok ()⟩

/-- Every creation comes right after an exchange that makes room for it. -/
def Cleared (options : Options) : Option Exchange → List Exchange → Prop
  | _, [] => True
  | last, e :: rest =>
    (∀ d answer, e = ⟨.create d, answer⟩ → ∃ x, last = some x ∧ Clears options d x) ∧
      Cleared options (some e) rest

section Clear

variable {options : Options} {t u : List Exchange}

theorem Cleared.creation {last : Exchange} {d : Descriptor} (room : Clears options d last)
    (answer : Except Failure Json) (clear : Cleared options (some ⟨.create d, answer⟩) t) :
    Cleared options (some last) (⟨.create d, answer⟩ :: t) := by
  refine ⟨?_, clear⟩
  intro d' answer' same
  cases same
  exact ⟨last, rfl, room⟩

theorem Cleared.other {e : Exchange} (other : ∀ d, e.1 ≠ .create d) (last : Option Exchange)
    (clear : Cleared options (some e) t) : Cleared options last (e :: t) := by
  refine ⟨?_, clear⟩
  rintro d answer rfl
  exact absurd rfl (other d)

theorem Cleared.behind (h : Cleared options none t) (last : Option Exchange) :
    Cleared options last t := by
  cases t with
  | nil => trivial
  | cons e rest =>
    refine ⟨?_, h.2⟩
    intro d answer created
    obtain ⟨x, impossible, _⟩ := h.1 d answer created
    cases impossible

theorem Cleared.append {last : Option Exchange} (ht : Cleared options last t)
    (hu : Cleared options none u) : Cleared options last (t ++ u) := by
  induction t generalizing last with
  | nil => exact hu.behind last
  | cons e rest ih => exact ⟨ht.1, ih ht.2⟩

theorem Cleared.before {last : Option Exchange} (h : Cleared options last t)
    {before later : List Exchange} {d : Descriptor} {answer : Except Failure Json}
    (split : t = before ++ ⟨.create d, answer⟩ :: later) :
    ∃ x, (before.getLast?.or last) = some x ∧ Clears options d x := by
  induction before generalizing t last with
  | nil =>
    subst split
    exact h.1 d answer rfl
  | cons e rest ih =>
    subst split
    obtain ⟨x, same, clears⟩ := ih h.2 rfl
    refine ⟨x, ?_, clears⟩
    rw [List.getLast?_cons]
    cases end? : rest.getLast? with
    | none => simpa [end?] using same
    | some f => simpa [end?] using same

theorem Preparing.cleared {ensured : List String} {desired : Desired} {r : Except Failure Bool}
    (h : Preparing options ensured desired t r) : Cleared options none t := by
  cases h with
  | known closed => trivial
  | ensured opens look => cases look <;> simp [Cleared]

theorem Performing.cleared {desired : Desired} {live : Option Json} {change : Change}
    {r : Except Failure Unit} (asked : Asked options desired live change)
    (h : Performing change t r) : Cleared options (some (desired.look (.ok live))) t := by
  cases h with
  | nothing => trivial
  | created d v | uncreated d failure =>
    cases asked
    exact .creation .missing _ trivial
  | replaced d v | unreplaced d failure => exact .other (by simp) _ trivial
  | recreated d v | halved d failure =>
    cases asked with
    | recreate _ _ recreate => exact .other (by simp) _ (.creation (.deleted recreate) _ trivial)
  | kept d failure => exact .other (by simp) _ trivial
  | deleted kind ns name | undeleted kind ns name failure => exact .other (by simp) _ trivial

theorem Passing.cleared {desired : Desired} {r : Except Failure Outcome}
    (h : Passing options desired t r) : Cleared options none t := by
  have looked {answer : Except Failure (Option Json)} {u : List Exchange}
      (clear : Cleared options (some (desired.look answer)) u) :
      Cleared options none (desired.look answer :: u) :=
    .other (by simp [Desired.look]) none clear
  cases h with
  | unseen failure => exact looked trivial
  | checked dry live => exact looked trivial
  | broken real live change => exact looked (change.cleared (desired.asked live options))
  | lost real present live change failure =>
    exact (looked (change.cleared (desired.asked live options))).append (looked trivial)
  | settled real present live change state =>
    exact (looked (change.cleared (desired.asked live options))).append (looked trivial)
  | gone real absent live change => exact looked (change.cleared (desired.asked live options))

theorem Visiting.cleared {noun : String} {ensured : List String} {desired : Desired}
    {report after : Report} {r : Except Failure Unit}
    (h : Visiting noun options ensured desired report t r after) : Cleared options none t := by
  cases h with
  | unprepared prepared => exact prepared.cleared
  | failed prepared pass => exact prepared.cleared.append pass.cleared
  | passed prepared pass => exact prepared.cleared.append pass.cleared

/-- In a run, real or dry, every creation comes right after an exchange that makes room. -/
theorem Running.cleared {noun : String} {ensured : List String} {desired : List Desired}
    {report after : Report} {r : Except Failure Unit}
    (h : Running noun options ensured desired report t r after) : Cleared options none t := by
  induction h with
  | finished => trivial
  | stopped rest visit => exact visit.cleared
  | next visit others ih => exact visit.cleared.append ih

end Clear

end Converge
