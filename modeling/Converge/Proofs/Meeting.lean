import Converge.Proofs.Dialogue
import Mathlib.Logic.Function.Basic

/-!
# Meetings

Several parties in dialogue with one client at the same time. Calls are answered one by one,
and a schedule says whose call is next; the other parties wait. Every interleaving of the
calls is the run of some schedule.

What one party says is a way through its own dialogue, and what all of them say is answered
by the client as if it came from one. These two views of a run carry the rest.
-/

namespace Converge

/-- What each party has left to say, what was said so far and by whom, and the client's state. -/
structure Meeting (ι α σ : Type) where
  parties : ι → Dialogue α
  said : List (ι × Exchange)
  state : σ

namespace Meeting

variable {ι α σ : Type} [DecidableEq ι]

def begin (parties : ι → Dialogue α) (state : σ) : Meeting ι α σ := ⟨parties, [], state⟩

/-- The next call of one party is answered. A party that is done has no more calls. -/
def turn (client : Client σ) (m : Meeting ι α σ) (i : ι) : Meeting ι α σ :=
  match m.parties i with
  | .done _ => m
  | .ask c next =>
    let (answer, state) := client.answer c m.state
    ⟨Function.update m.parties i (next answer), m.said ++ [(i, ⟨c, answer⟩)], state⟩

def run (client : Client σ) (m : Meeting ι α σ) (schedule : List ι) : Meeting ι α σ :=
  schedule.foldl (turn client) m

/-- What one party has said. -/
def saidBy (m : Meeting ι α σ) (i : ι) : List Exchange :=
  m.said.filterMap fun e => if e.1 = i then some e.2 else none

def exchanges (m : Meeting ι α σ) : List Exchange := m.said.map (·.2)

section Turns

variable {client : Client σ} {m : Meeting ι α σ} {i j : ι} {c : Call}
  {next : c.Answer → Dialogue α} {a : α} {e : Exchange}

theorem turn_done (done : m.parties i = .done a) : m.turn client i = m := by
  rw [turn, done]

theorem turn_ask (asks : m.parties i = .ask c next) :
    m.turn client i =
      ⟨Function.update m.parties i (next (client.answer c m.state).1),
        m.said ++ [(i, ⟨c, (client.answer c m.state).1⟩)], (client.answer c m.state).2⟩ := by
  rw [turn, asks]

theorem parties_turn (asks : m.parties i = .ask c next) :
    (m.turn client i).parties i = next (client.answer c m.state).1 := by
  rw [turn_ask asks]
  exact Function.update_self i _ m.parties

theorem parties_turn_of_ne (client : Client σ) (m : Meeting ι α σ) (other : i ≠ j) :
    (m.turn client j).parties i = m.parties i := by
  cases now : m.parties j with
  | done a => rw [turn_done now]
  | ask c next =>
    rw [turn_ask now]
    exact Function.update_of_ne other _ m.parties

theorem run_cons (client : Client σ) (m : Meeting ι α σ) (i : ι) (rest : List ι) :
    m.run client (i :: rest) = (m.turn client i).run client rest := rfl

theorem run_append (client : Client σ) (m : Meeting ι α σ) (first later : List ι) :
    m.run client (first ++ later) = (m.run client first).run client later :=
  List.foldl_append

theorem saidBy_turn (asks : m.parties j = .ask c next) (i : ι) :
    (m.turn client j).saidBy i =
      m.saidBy i ++ if j = i then [⟨c, (client.answer c m.state).1⟩] else [] := by
  rw [turn_ask asks, saidBy, List.filterMap_append]
  by_cases same : j = i
  · simp [saidBy, same]
  · simp [saidBy, same]

theorem mem_saidBy : e ∈ m.saidBy i ↔ (i, e) ∈ m.said := by
  simp [saidBy]

omit [DecidableEq ι] in
theorem mem_exchanges : e ∈ m.exchanges ↔ ∃ i, (i, e) ∈ m.said := by
  simp [exchanges]

/-- Between two things that one party said in succession only others spoke. -/
theorem said_of_succession {before : List Exchange} {f : Exchange}
    (succession : m.saidBy i = before ++ [e, f]) :
    ∃ front between rest, m.said = front ++ (i, e) :: (between ++ (i, f) :: rest) ∧
      ∀ x ∈ between ++ rest, x.1 ≠ i := by
  have own (x : ι × Exchange) (y : Exchange)
      (same : (if x.1 = i then some x.2 else none) = some y) : x = (i, y) := by
    rw [Option.ite_none_right_eq_some] at same
    obtain ⟨rfl, same⟩ := same
    cases same
    rfl
  have foreign (x : ι × Exchange) (none : (if x.1 = i then some x.2 else none) = none) :
      x.1 ≠ i := by
    intro same
    rw [if_pos same] at none
    cases none
  obtain ⟨front, tail, said, _, tailSaid⟩ := List.filterMap_eq_append_iff.mp succession
  obtain ⟨gap, x, tail, rfl, _, first, tailSaid⟩ := List.filterMap_eq_cons_iff.mp tailSaid
  obtain ⟨between, y, rest, rfl, others, second, last⟩ := List.filterMap_eq_cons_iff.mp tailSaid
  obtain rfl := own x e first
  obtain rfl := own y f second
  refine ⟨front ++ gap, between, rest, ?_, ?_⟩
  · rw [said, List.append_assoc]
  · intro x listed
    rcases List.mem_append.mp listed with listed | listed
    · exact foreign x (others x listed)
    · exact foreign x (List.filterMap_eq_nil_iff.mp last x listed)

end Turns

section Runs

variable {client : Client σ} {m : Meeting ι α σ} {i : ι} {schedule : List ι}

/-- What a turn keeps, a run keeps. -/
theorem run_keeps {P : Meeting ι α σ → Prop} (kept : ∀ m i, P m → P (m.turn client i))
    (start : P m) (schedule : List ι) : P (m.run client schedule) := by
  induction schedule generalizing m with
  | nil => exact start
  | cons i rest ih => exact ih (kept m i start)

/-- Each party goes its own way through its dialogue, whatever the others say. -/
theorem run_leads (client : Client σ) (parties : ι → Dialogue α) (state : σ)
    (schedule : List ι) (i : ι) :
    (parties i).Leads (((begin parties state).run client schedule).saidBy i)
      (((begin parties state).run client schedule).parties i) := by
  refine run_keeps (P := fun m => (parties i).Leads (m.saidBy i) (m.parties i)) ?_ (.here _)
    schedule
  intro m j on
  cases now : m.parties j with
  | done a =>
    rw [turn_done now]
    exact on
  | ask c next =>
    rw [saidBy_turn now]
    by_cases same : j = i
    · subst same
      rw [now] at on
      rw [if_pos rfl, parties_turn now]
      exact on.snoc (client.answer c m.state).1
    · rw [if_neg same, List.append_nil, parties_turn_of_ne client m fun h => same h.symm]
      exact on

theorem trace_of_done {parties : ι → Dialogue α} {state : σ} {a : α}
    (done : ((begin parties state).run client schedule).parties i = .done a) :
    (parties i).Trace (((begin parties state).run client schedule).saidBy i) a := by
  have way := run_leads client parties state schedule i
  rw [done] at way
  exact way.trace

/-- All that is said after a moment is answered by the client from its state at that moment. -/
theorem run_answers (client : Client σ) (m : Meeting ι α σ) (schedule : List ι) :
    ∃ more, (m.run client schedule).said = m.said ++ more ∧
      client.Answers m.state (more.map (·.2)) (m.run client schedule).state := by
  induction schedule generalizing m with
  | nil => exact ⟨[], (List.append_nil _).symm, .nothing m.state⟩
  | cons i rest ih =>
    obtain ⟨more, said, answered⟩ := ih (m.turn client i)
    rw [run_cons]
    cases now : m.parties i with
    | done a =>
      rw [turn_done now] at said answered ⊢
      exact ⟨more, said, answered⟩
    | ask c next =>
      refine ⟨(i, ⟨c, (client.answer c m.state).1⟩) :: more, ?_, ?_⟩
      · rw [said, turn_ask now, List.append_assoc, List.singleton_append]
      · rw [turn_ask now] at answered ⊢
        exact .next c answered

theorem begin_answers (client : Client σ) (parties : ι → Dialogue α) (state : σ)
    (schedule : List ι) :
    client.Answers state ((begin parties state).run client schedule).exchanges
      ((begin parties state).run client schedule).state := by
  obtain ⟨more, said, answered⟩ := run_answers client (begin parties state) schedule
  rw [exchanges, said]
  exact answered

/-- Whatever one says in company, one might say alone. -/
theorem exists_trace_of_saidBy (client : Client σ) (parties : ι → Dialogue α) (state : σ)
    (schedule : List ι) (i : ι) :
    ∃ more a, (parties i).Trace
      (((begin parties state).run client schedule).saidBy i ++ more) a := by
  obtain ⟨more, a, _, whole⟩ := (run_leads client parties state schedule i).exists_trace
  exact ⟨more, a, whole⟩

theorem run_done {a : α} (done : m.parties i = .done a) (schedule : List ι) :
    (m.run client schedule).parties i = .done a := by
  refine run_keeps (P := fun m => m.parties i = .done a) ?_ done schedule
  intro m j done
  by_cases same : i = j
  · subst same
    rw [turn_done done]
    exact done
  · rw [parties_turn_of_ne client m same]
    exact done

/-- A party that is not done has used all of its turns. -/
theorem length_saidBy {c : Call} {next : c.Answer → Dialogue α}
    (asks : (m.run client schedule).parties i = .ask c next) :
    ((m.run client schedule).saidBy i).length = (m.saidBy i).length + schedule.count i := by
  induction schedule generalizing m with
  | nil => rfl
  | cons j rest ih =>
    rw [run_cons] at asks ⊢
    rw [ih asks]
    cases now : m.parties j with
    | done a =>
      have other : j ≠ i := by
        rintro rfl
        rw [turn_done now, run_done now] at asks
        cases asks
      rw [turn_done now, List.count_cons_of_ne other]
    | ask c next =>
      rw [saidBy_turn now, List.length_append]
      by_cases same : j = i
      · rw [if_pos same, same, List.count_cons_self, List.length_singleton]
        omega
      · rw [if_neg same, List.count_cons_of_ne same, List.length_nil, Nat.add_zero]

end Runs

end Meeting

end Converge
