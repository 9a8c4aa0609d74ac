import Converge.Proofs.Visit

/-!
# Accounts of exchanges

What a sequence of exchanges changed, told line by line as a report tells it, and how
such a sequence may end with a change that its own failure hides. Both can be taken piece
by piece, since a piece never begins with a creation.
-/

namespace Converge

/-- The change that was asked for took place. -/
def Applied (e : Exchange) : Prop := e.1.isMutation = true ∧ e.2.isOk = true

/-- The lines that may tell of a call. A deletion and a creation can be parts of one
recreation. -/
def tellings (noun : String) : Call → List String
  | .create d => [describe .create d.kind d.name false, describe .recreate d.kind d.name true]
  | .replace d => [describe .replace d.kind d.name true]
  | .delete kind _ name => [describe .delete kind name true, describe .recreate kind name true]
  | .createNamespace ns => ["Create " ++ noun ++ " " ++ ns]
  | .get .. | .namespaceExists _ => []

/-- The lines that tell of the changes made in a sequence of exchanges. A deletion and the
creation of the same resource right after it are told as one. -/
def told (noun : String) : List Exchange → List String
  | ⟨.delete kind ns name, .ok _⟩ :: ⟨.create d, .ok _⟩ :: rest =>
    if d.kind = kind ∧ d.ns = ns ∧ d.name = name then
      describe .recreate kind name true :: told noun rest
    else
      describe .delete kind name true :: describe .create d.kind d.name false :: told noun rest
  | ⟨.delete kind _ name, .ok _⟩ :: rest => describe .delete kind name true :: told noun rest
  | ⟨.create d, .ok _⟩ :: rest => describe .create d.kind d.name false :: told noun rest
  | ⟨.replace d, .ok _⟩ :: rest => describe .replace d.kind d.name true :: told noun rest
  | ⟨.createNamespace ns, .ok _⟩ :: rest => ("Create " ++ noun ++ " " ++ ns) :: told noun rest
  | _ :: rest => told noun rest
  | [] => []

/-- Is the second exchange a creation that fails after a deletion, or a look that fails after
a creation or a replacement? -/
def hides : Exchange → Exchange → Bool
  | ⟨.delete _ _ _, .ok _⟩, ⟨.create _, .error _⟩ => true
  | ⟨.create _, .ok _⟩, ⟨.get _ _ _, .error _⟩ => true
  | ⟨.replace _, .ok _⟩, ⟨.get _ _ _, .error _⟩ => true
  | _, _ => false

/-- Do the exchanges end with a failure that hides the change right before it? -/
def cutShort : List Exchange → Bool
  | [] => false
  | [_] => false
  | [e, last] => hides e last
  | _ :: rest => cutShort rest

/-- The exchanges do not begin with a creation. -/
def Opening (t : List Exchange) : Prop := ∀ d answer later, t ≠ ⟨.create d, answer⟩ :: later

/-- An exchange after which nothing remains hidden. -/
inductive Quiet : Exchange → Prop
  | looked (kind : Kind) (ns name : String) (found : Option Json) :
      Quiet ⟨.get kind ns name, .ok found⟩
  | deleted (kind : Kind) (ns name : String) : Quiet ⟨.delete kind ns name, .ok ()⟩
  | namespaceLook (ns : String) (answer : Except Failure Bool) :
      Quiet ⟨.namespaceExists ns, answer⟩
  | namespaceMade (ns : String) (answer : Except Failure Unit) :
      Quiet ⟨.createNamespace ns, answer⟩

def QuietEnd (t : List Exchange) : Prop := ∀ e, t.getLast? = some e → Quiet e

theorem told_append (noun : String) (t : List Exchange) {u : List Exchange} (opening : Opening u) :
    told noun (t ++ u) = told noun t ++ told noun u := by
  fun_induction told noun t with
  | case1 kind ns name _ d v rest same ih => simp [told, same, ih]
  | case2 kind ns name _ d v rest other ih => simp [told, other, ih]
  | case3 kind ns name _ rest alone ih =>
    -- if the rest is empty, it is the second part that must not begin with a creation
    have first : ∀ d v later, rest ++ u = ⟨.create d, .ok v⟩ :: later → False := by
      intro d v later same
      cases rest with
      | nil => exact opening d _ later same
      | cons e rest =>
        obtain ⟨rfl, _⟩ := List.cons.inj same
        exact alone d v rest rfl
    rw [List.cons_append, told, ih, List.cons_append]
    exact first
  | case4 d v rest ih => simp [told, ih]
  | case5 d v rest ih => simp [told, ih]
  | case6 ns v rest ih => simp [told, ih]
  | case7 e rest _ undeleted uncreated unreplaced unmade ih =>
    rw [List.cons_append, told, ih]
    · exact fun kind ns name a _ _ _ same _ => undeleted kind ns name a same
    · exact undeleted
    · exact uncreated
    · exact unreplaced
    · exact unmade
  | case8 => rfl

theorem tellings_cons {noun line : String} {e first : Exchange} {rest : List Exchange}
    {lines : List String} (telling : line ∈ tellings noun first.1)
    (later : e ∈ rest → ∃ l ∈ tellings noun e.1, l ∈ lines) (listed : e ∈ first :: rest) :
    ∃ l ∈ tellings noun e.1, l ∈ line :: lines := by
  rcases List.mem_cons.mp listed with rfl | listed
  · exact ⟨line, telling, List.mem_cons_self⟩
  · obtain ⟨l, telling, inside⟩ := later listed
    exact ⟨l, telling, List.mem_cons_of_mem _ inside⟩

/-- Every change that took place is told of. -/
theorem told_complete (noun : String) {t : List Exchange} {e : Exchange} (listed : e ∈ t)
    (applied : Applied e) : ∃ line ∈ tellings noun e.1, line ∈ told noun t := by
  fun_induction told noun t with
  | case1 kind ns name _ d v rest same ih =>
    obtain ⟨rfl, rfl, rfl⟩ := same
    rcases List.mem_cons.mp listed with rfl | listed
    · exact ⟨_, List.mem_cons_of_mem _ List.mem_cons_self, List.mem_cons_self⟩
    · exact tellings_cons (List.mem_cons_of_mem _ List.mem_cons_self) ih listed
  | case2 kind ns name _ d v rest _ ih =>
    exact tellings_cons List.mem_cons_self (tellings_cons List.mem_cons_self ih) listed
  | case3 kind ns name v rest _ ih => exact tellings_cons List.mem_cons_self ih listed
  | case4 d v rest ih => exact tellings_cons List.mem_cons_self ih listed
  | case5 d v rest ih => exact tellings_cons List.mem_cons_self ih listed
  | case6 ns v rest ih => exact tellings_cons List.mem_cons_self ih listed
  | case7 first rest _ undeleted uncreated unreplaced unmade ih =>
    rcases List.mem_cons.mp listed with rfl | listed
    · obtain ⟨c, answer⟩ := e
      cases answer with
      | error failure => cases applied.2
      | ok v =>
        cases c with
        | get kind ns name => cases applied.1
        | namespaceExists ns => cases applied.1
        | create d => exact (uncreated d v rfl).elim
        | replace d => exact (unreplaced d v rfl).elim
        | delete kind ns name => exact (undeleted kind ns name v rfl).elim
        | createNamespace ns => exact (unmade ns v rfl).elim
    · exact ih listed
  | case8 => cases listed

def Tells (noun line : String) (t : List Exchange) : Prop :=
  ∃ e ∈ t, Applied e ∧ line ∈ tellings noun e.1

theorem Tells.cons {noun line : String} {t : List Exchange} (h : Tells noun line t)
    (first : Exchange) : Tells noun line (first :: t) := by
  obtain ⟨e, listed, h⟩ := h
  exact ⟨e, List.mem_cons_of_mem _ listed, h⟩

theorem Tells.of_mem_cons {noun line told : String} {first : Exchange} {t : List Exchange}
    {lines : List String} (applied : Applied first) (telling : told ∈ tellings noun first.1)
    (later : line ∈ lines → Tells noun line t) (inside : line ∈ told :: lines) :
    Tells noun line (first :: t) := by
  rcases List.mem_cons.mp inside with rfl | inside
  · exact ⟨first, List.mem_cons_self, applied, telling⟩
  · exact (later inside).cons first

/-- Nothing is told of that did not take place. -/
theorem told_sound {noun line : String} {t : List Exchange} (inside : line ∈ told noun t) :
    Tells noun line t := by
  fun_induction told noun t with
  | case1 kind ns name _ d v rest _ ih =>
    exact Tells.of_mem_cons ⟨rfl, rfl⟩ (List.mem_cons_of_mem _ List.mem_cons_self)
      (fun inside => (ih inside).cons _) inside
  | case2 kind ns name _ d v rest _ ih =>
    exact Tells.of_mem_cons ⟨rfl, rfl⟩ List.mem_cons_self
      (Tells.of_mem_cons ⟨rfl, rfl⟩ List.mem_cons_self ih) inside
  | case3 kind ns name v rest _ ih =>
    exact Tells.of_mem_cons ⟨rfl, rfl⟩ List.mem_cons_self ih inside
  | case4 d v rest ih => exact Tells.of_mem_cons ⟨rfl, rfl⟩ List.mem_cons_self ih inside
  | case5 d v rest ih => exact Tells.of_mem_cons ⟨rfl, rfl⟩ List.mem_cons_self ih inside
  | case6 ns v rest ih => exact Tells.of_mem_cons ⟨rfl, rfl⟩ List.mem_cons_self ih inside
  | case7 first rest _ _ _ _ _ ih => exact (ih inside).cons first
  | case8 => cases inside

theorem hides_quiet (e : Exchange) {last : Exchange} (quiet : Quiet last) :
    hides e last = false := by
  unfold hides
  split
  · cases quiet
  · cases quiet
  · cases quiet
  · rfl

theorem quiet_hides {e last : Exchange} (quiet : Quiet e) (opening : Opening [last]) :
    hides e last = false := by
  unfold hides
  split
  · exact absurd rfl (opening _ _ _)
  · cases quiet
  · cases quiet
  · rfl

/-- What ends quietly hides nothing from what comes next. -/
theorem cutShort_append {t u : List Exchange} (quiet : QuietEnd t) (opening : Opening u) :
    cutShort (t ++ u) = cutShort u := by
  induction t with
  | nil => rfl
  | cons e rest ih =>
    cases rest with
    | nil =>
      match u with
      | [] => rfl
      | [last] => exact quiet_hides (quiet e rfl) opening
      | _ :: _ :: _ => rfl
    | cons f rest =>
      have tail : QuietEnd (f :: rest) := fun last same =>
        quiet last (List.getLast?_cons_cons.trans same)
      rw [← ih tail]
      cases following : rest ++ u with
      | nil =>
        obtain ⟨rfl, rfl⟩ := List.append_eq_nil_iff.mp following
        exact hides_quiet e (tail f rfl)
      | cons x later =>
        rw [List.cons_append, List.cons_append, following]
        rfl

/-- What is hidden is a change. -/
theorem exists_mutation_of_cutShort {t : List Exchange} (cut : cutShort t = true) :
    ∃ e ∈ t, e.1.isMutation = true := by
  fun_induction cutShort t with
  | case1 => cases cut
  | case2 => cases cut
  | case3 e last =>
    refine ⟨e, List.mem_cons_self, ?_⟩
    unfold hides at cut
    split at cut
    · rfl
    · rfl
    · rfl
    · cases cut
  | case4 e rest _ _ ih =>
    obtain ⟨e, listed, mutation⟩ := ih cut
    exact ⟨e, List.mem_cons_of_mem _ listed, mutation⟩

end Converge
