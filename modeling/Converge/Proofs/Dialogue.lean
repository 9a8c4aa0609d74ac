import Converge.Cluster.Dialogue

/-!
# Runs and traces of dialogues

A run of a dialogue made of two parts is a run of the first and then one of the second.
A trace is what may be said in a dialogue, with the value it then ends with. The answers
in it are arbitrary, so what holds of every trace holds of a run with any client.
-/

namespace Converge

namespace Dialogue

variable {α β σ : Type}

instance : LawfulMonad Dialogue :=
  LawfulMonad.mk' Dialogue bind_pure pure_bind bind_assoc

theorem run_bind (client : Client σ) (d : Dialogue α) (f : α → Dialogue β) (s : σ) :
    (d >>= f).run client s = (f (d.run client s).1).run client (d.run client s).2 := by
  induction d generalizing s with
  | done a => rfl
  | ask c next ih => exact ih (client.answer c s).1 (client.answer c s).2

theorem transcript_bind (client : Client σ) (d : Dialogue α) (f : α → Dialogue β) (s : σ) :
    (d >>= f).transcript client s =
      d.transcript client s ++ (f (d.run client s).1).transcript client (d.run client s).2 := by
  induction d generalizing s with
  | done a => rfl
  | ask c next ih =>
    exact congrArg (_ :: ·) (ih (client.answer c s).1 (client.answer c s).2)

/-- The exchanges of a dialogue that ends with a value. -/
inductive Trace : Dialogue α → List Exchange → α → Prop
  | done (a : α) : Trace (.done a) [] a
  | ask {c : Call} {next : c.Answer → Dialogue α} {t : List Exchange} {a : α}
      (answer : c.Answer) (later : Trace (next answer) t a) :
      Trace (.ask c next) (⟨c, answer⟩ :: t) a

/-- A run goes through a trace, whoever answers. -/
theorem trace_run (client : Client σ) (d : Dialogue α) (s : σ) :
    d.Trace (d.transcript client s) (d.run client s).1 := by
  induction d generalizing s with
  | done a => exact .done a
  | ask c next ih => exact .ask _ (ih (client.answer c s).1 (client.answer c s).2)

theorem trace_pure_iff {a b : α} {t : List Exchange} :
    (pure a : Dialogue α).Trace t b ↔ t = [] ∧ b = a := by
  constructor
  · intro h
    cases h
    exact ⟨rfl, rfl⟩
  · rintro ⟨rfl, rfl⟩
    exact .done b

theorem trace_ask_iff {c : Call} {next : c.Answer → Dialogue α} {t : List Exchange} {a : α} :
    (Dialogue.ask c next).Trace t a ↔
      ∃ answer later, t = ⟨c, answer⟩ :: later ∧ (next answer).Trace later a := by
  constructor
  · intro h
    cases h with
    | ask answer later => exact ⟨answer, _, rfl, later⟩
  · rintro ⟨answer, later, rfl, h⟩
    exact .ask answer h

theorem Trace.append {d : Dialogue α} {f : α → Dialogue β} {t u : List Exchange} {a : α} {b : β}
    (first : d.Trace t a) (second : (f a).Trace u b) : (d >>= f).Trace (t ++ u) b := by
  induction first with
  | done a => exact second
  | ask answer later ih => exact .ask answer (ih second)

theorem trace_bind_iff {d : Dialogue α} {f : α → Dialogue β} {t : List Exchange} {b : β} :
    (d >>= f).Trace t b ↔ ∃ a u v, t = u ++ v ∧ d.Trace u a ∧ (f a).Trace v b := by
  constructor
  · intro h
    induction d generalizing t with
    | done a => exact ⟨a, [], t, rfl, .done a, h⟩
    | ask c next ih =>
      obtain ⟨answer, later, rfl, said⟩ := trace_ask_iff.mp h
      obtain ⟨a, u, v, rfl, hu, hv⟩ := ih answer said
      exact ⟨a, ⟨c, answer⟩ :: u, v, rfl, .ask answer hu, hv⟩
  · rintro ⟨a, u, v, rfl, hu, hv⟩
    exact hu.append hv

/-- A dialogue comes, through some exchanges, to what is left of it. -/
inductive Leads : Dialogue α → List Exchange → Dialogue α → Prop
  | here (d : Dialogue α) : Leads d [] d
  | ask {c : Call} {next : c.Answer → Dialogue α} {t : List Exchange} {rest : Dialogue α}
      (answer : c.Answer) (later : Leads (next answer) t rest) :
      Leads (.ask c next) (⟨c, answer⟩ :: t) rest

section Lead

variable {d rest : Dialogue α} {t u : List Exchange} {a : α}

theorem Leads.snoc {c : Call} {next : c.Answer → Dialogue α} (h : d.Leads t (.ask c next))
    (answer : c.Answer) : d.Leads (t ++ [⟨c, answer⟩]) (next answer) := by
  generalize left : Dialogue.ask c next = e at h
  induction h with
  | here d =>
    subst left
    exact .ask answer (.here (next answer))
  | ask first later ih => exact .ask first (ih left)

theorem Leads.trace (h : d.Leads t (.done a)) : d.Trace t a := by
  generalize left : Dialogue.done a = e at h
  induction h with
  | here d =>
    subst left
    exact .done a
  | ask answer later ih => exact .ask answer (ih left)

theorem Leads.append (h : d.Leads t rest) (later : rest.Trace u a) : d.Trace (t ++ u) a := by
  induction h with
  | here d => exact later
  | ask answer _ ih => exact .ask answer (ih later)

/-- A dialogue can always be brought to an end. -/
theorem exists_trace (d : Dialogue α) : ∃ t a, d.Trace t a := by
  induction d with
  | done a => exact ⟨[], a, .done a⟩
  | ask c next ih =>
    obtain ⟨t, a, said⟩ := ih (.error (.io ""))
    exact ⟨_, a, .ask _ said⟩

theorem Leads.exists_trace (h : d.Leads t rest) : ∃ u a, rest.Trace u a ∧ d.Trace (t ++ u) a := by
  obtain ⟨u, a, later⟩ := rest.exists_trace
  exact ⟨u, a, later, h.append later⟩

theorem Trace.leads_bind {f : α → Dialogue β} {left : Dialogue β} (first : d.Trace t a)
    (second : (f a).Leads u left) : (d >>= f).Leads (t ++ u) left := by
  induction first with
  | done a => exact second
  | ask answer later ih => exact .ask answer (ih second)

theorem Leads.bind (h : d.Leads t rest) (f : α → Dialogue β) :
    (d >>= f).Leads t (rest >>= f) := by
  induction h with
  | here d => exact .here (d >>= f)
  | ask answer later ih => exact .ask answer ih

end Lead

/-- What was said in a dialogue comprises all of one part of it, which ended with a value. -/
def Comprises (d : Dialogue α) (said : List Exchange) (part : Dialogue β) (t : List Exchange)
    (b : β) : Prop :=
  ∃ before later next, said = before ++ t ++ later ∧ d.Leads before (part >>= next) ∧
    part.Trace t b

section Part

variable {γ : Type} {d : Dialogue α} {part : Dialogue γ} {said t u : List Exchange} {a : α} {c : γ}

theorem Comprises.bind (h : d.Comprises said part t c) (f : α → Dialogue β) (more : List Exchange) :
    (d >>= f).Comprises (said ++ more) part t c := by
  obtain ⟨before, later, next, rfl, way, passed⟩ := h
  refine ⟨before, later ++ more, fun c => next c >>= f, List.append_assoc .., ?_, passed⟩
  rw [← LawfulMonad.bind_assoc]
  exact way.bind f

theorem Trace.comprises_bind {f : α → Dialogue β} (first : d.Trace t a)
    (h : (f a).Comprises said part u c) : (d >>= f).Comprises (t ++ said) part u c := by
  obtain ⟨before, later, next, rfl, way, passed⟩ := h
  refine ⟨t ++ before, later, next, ?_, first.leads_bind way, passed⟩
  simp only [List.append_assoc]

end Part

end Dialogue

/-- A client, from one state to another, answers calls one after another in the recorded way. -/
inductive Client.Answers {σ : Type} (client : Client σ) : σ → List Exchange → σ → Prop
  | nothing (s : σ) : Answers client s [] s
  | next {s s' : σ} {t : List Exchange} (c : Call)
      (later : Answers client (client.answer c s).2 t s') :
      Answers client s (⟨c, (client.answer c s).1⟩ :: t) s'

namespace Client

variable {α σ : Type} {client : Client σ} {s s' : σ} {t u : List Exchange}

theorem Answers.append {s'' : σ} (ht : client.Answers s t s') (hu : client.Answers s' u s'') :
    client.Answers s (t ++ u) s'' := by
  induction ht with
  | nothing s => exact hu
  | next c _ ih => exact .next c (ih hu)

theorem answers_append_iff :
    client.Answers s (t ++ u) s' ↔ ∃ between, client.Answers s t between ∧
      client.Answers between u s' := by
  constructor
  · intro h
    induction t generalizing s with
    | nil => exact ⟨s, .nothing s, h⟩
    | cons e rest ih =>
      cases h with
      | next c later =>
        obtain ⟨between, first, second⟩ := ih later
        exact ⟨between, .next c first, second⟩
  · rintro ⟨between, first, second⟩
    exact first.append second

theorem answers_cons_iff {c : Call} {answer : c.Answer} :
    client.Answers s (⟨c, answer⟩ :: t) s' ↔
      answer = (client.answer c s).1 ∧ client.Answers (client.answer c s).2 t s' := by
  constructor
  · intro h
    cases h with
    | next _ later => exact ⟨rfl, later⟩
  · rintro ⟨rfl, later⟩
    exact .next c later

/-- The transcript of a run is answered by the client, from its first state to its last. -/
theorem answers_transcript (client : Client σ) (d : Dialogue α) (s : σ) :
    client.Answers s (d.transcript client s) (d.run client s).2 := by
  induction d generalizing s with
  | done a => exact .nothing s
  | ask c next ih => exact .next c (ih (client.answer c s).1 (client.answer c s).2)

end Client

namespace Attempt

variable {α β σ : Type}

theorem run_bind_ok {client : Client σ} {x : Attempt α} {a : α} {s s' : σ}
    (h : x.run.run client s = (.ok a, s')) (f : α → Attempt β) :
    (x >>= f).run.run client s = (f a).run.run client s' := by
  rw [ExceptT.run_bind, Dialogue.run_bind, h]

theorem run_lift (client : Client σ) (d : Dialogue α) (s : σ) :
    (ExceptT.lift d : Attempt α).run.run client s =
      (.ok (d.run client s).1, (d.run client s).2) := by
  rw [ExceptT.run_lift, map_eq_pure_bind, Dialogue.run_bind]
  rfl

theorem trace_pure_iff {a : α} {t : List Exchange} {r : Except Failure α} :
    (pure a : Attempt α).run.Trace t r ↔ t = [] ∧ r = .ok a :=
  Dialogue.trace_pure_iff

theorem trace_throw_iff {failure : Failure} {t : List Exchange} {r : Except Failure α} :
    (throw failure : Attempt α).run.Trace t r ↔ t = [] ∧ r = .error failure :=
  Dialogue.trace_pure_iff

/-- One call is one exchange, and its answer is the outcome. -/
theorem trace_call_iff {c : Call} {t : List Exchange} {r : Except Failure c.Reply} :
    (call c).run.Trace t r ↔ t = [⟨c, r⟩] := by
  constructor
  · intro h
    obtain ⟨answer, later, rfl, said⟩ := Dialogue.trace_ask_iff.mp h
    obtain ⟨rfl, rfl⟩ := Dialogue.trace_pure_iff.mp said
    rfl
  · rintro rfl
    exact .ask r (.done r)

/-- A failure of the first part is one of the whole, and the second part is not begun. -/
theorem trace_bind_iff {x : Attempt α} {f : α → Attempt β} {t : List Exchange}
    {r : Except Failure β} :
    (x >>= f).run.Trace t r ↔
      (∃ failure, r = .error failure ∧ x.run.Trace t (.error failure)) ∨
      ∃ a u v, t = u ++ v ∧ x.run.Trace u (.ok a) ∧ (f a).run.Trace v r := by
  constructor
  · intro h
    obtain ⟨result, u, v, rfl, hu, hv⟩ := Dialogue.trace_bind_iff.mp h
    cases result with
    | error failure =>
      obtain ⟨rfl, rfl⟩ := Dialogue.trace_pure_iff.mp hv
      exact Or.inl ⟨failure, rfl, (List.append_nil u).symm ▸ hu⟩
    | ok a => exact Or.inr ⟨a, u, v, rfl, hu, hv⟩
  · rintro (⟨failure, rfl, h⟩ | ⟨a, u, v, rfl, hu, hv⟩)
    · have whole := h.append (f := ExceptT.bindCont f) (.done (Except.error failure))
      rwa [List.append_nil] at whole
    · exact hu.append (f := ExceptT.bindCont f) hv

theorem trace_lift_iff {d : Dialogue α} {t : List Exchange} {r : Except Failure α} :
    (ExceptT.lift d : Attempt α).run.Trace t r ↔ ∃ a, r = .ok a ∧ d.Trace t a := by
  constructor
  · intro h
    obtain ⟨a, u, v, rfl, hu, hv⟩ := Dialogue.trace_bind_iff.mp h
    obtain ⟨rfl, rfl⟩ := Dialogue.trace_pure_iff.mp hv
    exact ⟨a, rfl, (List.append_nil u).symm ▸ hu⟩
  · rintro ⟨a, rfl, h⟩
    have whole := h.append (f := fun a => (pure (.ok a) : Dialogue (Except Failure α))) (.done _)
    rwa [List.append_nil] at whole

theorem trace_check_iff {check : Except Invalid α} {t : List Exchange} {r : Except Failure α} :
    (Attempt.check check).run.Trace t r ↔ t = [] ∧ r = check.mapError .invalid := by
  cases check with
  | ok a => exact trace_pure_iff
  | error cause => exact trace_throw_iff

end Attempt

end Converge
