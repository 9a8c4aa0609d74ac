import Converge.Proofs.Changes
import Mathlib.Data.List.Forall2

/-!
# Twin dialogues

Two clusters may show the same object differently, and fail in different words. Two
dialogues are twins if, as long as the clusters answer alike, they make the same calls and
end with related values. A run is the twin of itself: of an object it reads only the version
that a replacement carries, and of a failure only whether it is a lost race.
-/

namespace Converge

/-- The failures end a program with the same exit code, and both are lost races or neither. -/
structure Failure.Alike (f g : Failure) : Prop where
  exitCode : f.exitCode = g.exitCode
  race : f.isAlreadyExists = g.isAlreadyExists

/-- Both fail alike, or both give related values. -/
inductive Alike {α β : Type} (R : α → β → Prop) : Except Failure α → Except Failure β → Prop
  | ok {a : α} {b : β} (values : R a b) : Alike R (.ok a) (.ok b)
  | error {f g : Failure} (failures : f.Alike g) : Alike R (.error f) (.error g)

/-- What the replies of two clusters to one call have in common, where `V` relates an object
that the one shows to the same object as the other shows it. -/
def Call.Matching (V : Json → Json → Prop) : (c : Call) → c.Reply → c.Reply → Prop
  | .get .., found, found' => Option.Rel V found found'
  | .create _, v, w => V v w
  | .replace _, v, w => V v w
  | .delete .., _, _ => True
  | .namespaceExists _, existed, existed' => existed = existed'
  | .createNamespace _, _, _ => True

/-- The dialogues make the same calls, all of which `P` holds of, and end with values that
`R` relates, as long as the calls are answered alike. -/
inductive Twins (P : Call → Prop) (V : Json → Json → Prop) {α β : Type} (R : α → β → Prop) :
    Dialogue α → Dialogue β → Prop
  | done {a : α} {b : β} (ends : R a b) : Twins P V R (.done a) (.done b)
  | ask {c : Call} (holds : P c) {next : c.Answer → Dialogue α} {next' : c.Answer → Dialogue β}
      (later : ∀ x y, Alike (c.Matching V) x y → Twins P V R (next x) (next' y)) :
      Twins P V R (.ask c next) (.ask c next')

section Combine

variable {P : Call → Prop} {V : Json → Json → Prop} {α β γ δ : Type} {R : α → β → Prop}
  {S : γ → δ → Prop}

theorem Twins.bind {d : Dialogue α} {e : Dialogue β} {f : α → Dialogue γ} {g : β → Dialogue δ}
    (first : Twins P V R d e) (second : ∀ a b, R a b → Twins P V S (f a) (g b)) :
    Twins P V S (d >>= f) (e >>= g) := by
  induction first with
  | done ends => exact second _ _ ends
  | ask holds later ih => exact .ask holds fun x y alike => ih x y alike

/-- A failure of the first parts is one of the whole. -/
theorem Twins.attempt {x : Attempt α} {y : Attempt β} {f : α → Attempt γ} {g : β → Attempt δ}
    (first : Twins P V (Alike R) x.run y.run)
    (second : ∀ a b, R a b → Twins P V (Alike S) (f a).run (g b).run) :
    Twins P V (Alike S) (x >>= f).run (y >>= g).run := by
  refine Twins.bind (f := ExceptT.bindCont f) (g := ExceptT.bindCont g) first ?_
  intro a b alike
  cases alike with
  | ok values => exact second _ _ values
  | error failures => exact .done (.error failures)

theorem Twins.pure {a : α} {b : β} (values : R a b) :
    Twins P V (Alike R) (pure a : Attempt α).run (pure b : Attempt β).run :=
  .done (.ok values)

theorem Twins.call {c : Call} (holds : P c) :
    Twins P V (Alike (c.Matching V)) (Attempt.call c).run (Attempt.call c).run :=
  .ask holds fun _ _ alike => .done alike

/-- A failure of the call is a value here. -/
theorem Twins.lift {c : Call} (holds : P c) :
    Twins P V (Alike (Alike (c.Matching V))) (ExceptT.lift (Dialogue.call c) : Attempt _).run
      (ExceptT.lift (Dialogue.call c) : Attempt _).run :=
  .ask holds fun _ _ alike => .done (.ok alike)

end Combine

/-- Twins that are run with clients which answer the calls to come alike make the same calls
and end with related values. What the clients answer alike may depend on those calls. -/
theorem Twins.run {P : Call → Prop} {V : Json → Json → Prop} {α β σ τ : Type} {R : α → β → Prop}
    {client : Client σ} {client' : Client τ} (Ready : List Call → σ → τ → Prop)
    (answers : ∀ c calls s t, P c → Ready (c :: calls) s t →
      Alike (c.Matching V) (client.answer c s).1 (client'.answer c t).1 ∧
        Ready calls (client.answer c s).2 (client'.answer c t).2)
    {d : Dialogue α} {e : Dialogue β} (twins : Twins P V R d e) {s : σ} {t : τ}
    (ready : Ready ((d.transcript client s).map fun x => x.1) s t) :
    (d.transcript client s).map (fun x => x.1) = (e.transcript client' t).map (fun x => x.1) ∧
      R (d.run client s).1 (e.run client' t).1 := by
  -- the clients are ready for the calls that the first run is still to make, so every step
  -- hands readiness for the rest on
  induction twins generalizing s t with
  | done ends => exact ⟨rfl, ends⟩
  | @ask c holds next next' later ih =>
    obtain ⟨alike, ready⟩ := answers c _ s t holds ready
    obtain ⟨calls, ends⟩ := ih _ _ alike ready
    exact ⟨congrArg (c :: ·) calls, ends⟩

section Parts

variable {P : Call → Prop} {V : Json → Json → Prop}

theorem ensureNamespace_twins {ns : String}
    (holds : isName ns = true → P (.namespaceExists ns) ∧ P (.createNamespace ns))
    (dryRun : Bool) :
    Twins P V (Alike Eq) (ensureNamespace ns dryRun).run (ensureNamespace ns dryRun).run := by
  rw [ensureNamespace]
  cases good : isName ns with
  | false =>
    rw [checkName_of_not_isName good]
    exact .done (.error ⟨rfl, rfl⟩)
  | true =>
    rw [checkName_of_isName good]
    refine .attempt (.pure (R := Eq) rfl) fun _ _ _ => ?_
    refine .attempt (.call (holds good).1) ?_
    rintro existed _ rfl
    cases existed with
    | true => exact .pure rfl
    | false =>
      cases dryRun with
      | true => exact .pure rfl
      | false =>
        refine .attempt (.lift (holds good).2) fun answer answer' alike => ?_
        cases alike with
        | ok _ => exact .pure rfl
        | @error f g failures =>
          simp only [← failures.race]
          cases f.isAlreadyExists with
          | true => exact .pure rfl
          | false => exact .done (.error failures)

theorem perform_twins {change : Change} (holds : ∀ c ∈ change.calls, P c) :
    Twins P V (Alike Eq) change.perform.run change.perform.run := by
  cases change with
  | none => exact .pure rfl
  | create d | replace d =>
    exact .attempt (.call (holds _ List.mem_cons_self)) fun _ _ _ => .pure rfl
  | recreate d =>
    refine .attempt (.call (holds _ List.mem_cons_self)) fun _ _ _ => ?_
    have listed : Call.create d ∈ (Change.recreate d).calls :=
      List.mem_cons_of_mem _ List.mem_cons_self
    exact .attempt (.call (holds _ listed)) fun _ _ _ => .pure rfl
  | delete kind ns name =>
    refine .ask (holds _ List.mem_cons_self) fun x y alike => ?_
    cases alike with
    | ok _ => exact .done (.ok rfl)
    | error failures => exact .done (.error failures)

structure Outcome.Alike (V : Json → Json → Prop) (o o' : Outcome) : Prop where
  decision : o.decision = o'.decision
  state : Option.Rel V o.state o'.state

theorem Kind.prepareReplace_congr {v w : Json} (same : nextVersion v = nextVersion w) (kind : Kind)
    (d : Descriptor) : kind.prepareReplace d v = kind.prepareReplace d w := by
  cases kind with
  | deploymentConfig => rw [prepareReplace, prepareReplace, same]
  | _ => rfl

variable {options : Options} {desired : Desired} {live live' : Option Json}

/-- The change depends on a live object only by its version. -/
theorem Desired.change_alike (versions : ∀ v w, V v w → nextVersion v = nextVersion w)
    (same : Option.Rel V live live') :
    desired.change live options = desired.change live' options := by
  cases same with
  | none => rfl
  | some related =>
    cases desired with
    | absent kind ns name => rfl
    | present d => simp only [change, Kind.prepareReplace_congr (versions _ _ related)]

theorem decide_alike (versions : ∀ v w, V v w → nextVersion v = nextVersion w)
    (same : Option.Rel V live live') : decide desired live options = decide desired live' options := by
  rw [decide, decide, Desired.change_alike versions same]
  cases same with
  | none => rfl
  | some related => rfl

theorem reconcile_twins (versions : ∀ v w, V v w → nextVersion v = nextVersion w)
    (look : P (.get desired.kind desired.ns desired.name))
    (changes : options.dryRun = false → ∀ live, ∀ c ∈ (desired.change live options).calls, P c) :
    Twins P V (Alike (Outcome.Alike V)) (reconcile options desired).run
      (reconcile options desired).run := by
  rw [reconcile_eq]
  refine .attempt (.call look) fun live live' same => ?_
  have decision : decide desired live options = decide desired live' options :=
    decide_alike versions same
  cases real : options.dryRun with
  | true =>
    refine .pure ⟨decision, ?_⟩
    cases desired.isPresent with
    | true => exact same
    | false => exact .none
  | false =>
    rw [← Desired.change_alike versions same]
    refine .attempt (perform_twins (changes real live)) fun _ _ _ => ?_
    cases desired.isPresent with
    | true => exact .attempt (.call look) fun state state' same => .pure ⟨decision, same⟩
    | false => exact .pure ⟨decision, .none⟩

end Parts

/-- The reports tell of the same actions and failure, and of the same resources, each of
which is as it was or as the two clusters show it. -/
structure Report.Alike (V : Json → Json → Prop) (r r' : Report) : Prop where
  changed : r.changed = r'.changed
  actions : r.actions = r'.actions
  error : r.error = r'.error
  resources : List.Forall₂ (fun e e' => e.1 = e'.1 ∧ (e.2 = e'.2 ∨ V e.2 e'.2))
    r.resources.entries r'.resources.entries

theorem Entries.forall₂_put {κ α β : Type} [DecidableEq κ] {R : α → β → Prop} {l : List (κ × α)}
    {l' : List (κ × β)} (same : List.Forall₂ (fun e e' => e.1 = e'.1 ∧ R e.2 e'.2) l l') (k : κ)
    {v : α} {w : β} (values : R v w) :
    List.Forall₂ (fun e e' => e.1 = e'.1 ∧ R e.2 e'.2) (put k v l) (put k w l') := by
  induction same with
  | nil => exact .cons ⟨rfl, values⟩ .nil
  | @cons e e' rest rest' first others ih =>
    obtain ⟨key, v'⟩ := e
    obtain ⟨key', w'⟩ := e'
    obtain ⟨rfl, related⟩ := first
    by_cases found : key = k
    · simp only [put, if_pos found]
      exact .cons ⟨rfl, values⟩ others
    · simp only [put, if_neg found]
      exact .cons ⟨rfl, related⟩ ih

section Reports

variable {V : Json → Json → Prop} {r r' : Report}

theorem Report.Alike.refl (V : Json → Json → Prop) (r : Report) : r.Alike V r :=
  ⟨rfl, rfl, rfl, List.forall₂_same.mpr fun _ _ => ⟨rfl, Or.inl rfl⟩⟩

theorem Report.Alike.note (h : r.Alike V r') (line : String) :
    (r.note line).Alike V (r'.note line) :=
  ⟨rfl, congrArg (· ++ [line]) h.actions, h.error, h.resources⟩

theorem Report.Alike.recordNamespace (h : r.Alike V r') (noun ns : String) (existed : Bool) :
    (r.recordNamespace noun ns existed).Alike V (r'.recordNamespace noun ns existed) := by
  cases existed with
  | true => exact h
  | false => exact h.note _

theorem Report.Alike.record (h : r.Alike V r') (kind : Kind) (ns name : String) {o o' : Outcome}
    (outcomes : o.Alike V o') :
    (r.record kind ns name o).Alike V (r'.record kind ns name o') := by
  obtain ⟨decision, state⟩ := o
  obtain ⟨decision', state'⟩ := o'
  obtain ⟨rfl, state⟩ := outcomes
  have noted : (if decision.changed then r.note decision.description else r).Alike V
      (if decision.changed then r'.note decision.description else r') := by
    cases decision.changed with
    | true => exact h.note _
    | false => exact h
  cases state with
  | none => exact noted
  | some related =>
    exact ⟨noted.changed, noted.actions, noted.error,
      Entries.forall₂_put (R := fun v w => v = w ∨ V v w) noted.resources _ (Or.inr related)⟩

end Reports

section Run

variable {P : Call → Prop} {V : Json → Json → Prop} {options : Options} {report report' : Report}

def ResultsAlike (V : Json → Json → Prop) (x y : Except Failure Unit × Report) : Prop :=
  Alike Eq x.1 y.1 ∧ x.2.Alike V y.2

/-- `P` holds of the calls that a desired state may need. -/
structure Desired.AllCalls (P : Call → Prop) (options : Options) (desired : Desired) : Prop where
  look : P (.get desired.kind desired.ns desired.name)
  changes : options.dryRun = false → ∀ live, ∀ c ∈ (desired.change live options).calls, P c

theorem visit_twins (versions : ∀ v w, V v w → nextVersion v = nextVersion w)
    (namespaces : ∀ ns, isName ns = true → P (.namespaceExists ns) ∧ P (.createNamespace ns))
    (noun : String) (ensured : List String) {desired : Desired} (holds : desired.AllCalls P options)
    (reports : report.Alike V report') :
    Twins P V (ResultsAlike V) (visit noun options ensured desired report)
      (visit noun options ensured desired report') := by
  have prepared : Twins P V (Alike Eq) (prepare options ensured desired).run
      (prepare options ensured desired).run := by
    rw [prepare]
    cases desired.opensNamespace ensured with
    | true => exact ensureNamespace_twins (namespaces desired.ns) options.dryRun
    | false => exact .pure rfl
  refine prepared.bind fun existed existed' same => ?_
  cases same with
  | error failures => exact .done ⟨.error failures, reports⟩
  | @ok existed _ same =>
    subst same
    have opened := reports.recordNamespace noun desired.ns existed
    refine (reconcile_twins versions holds.look holds.changes).bind fun outcome outcome' same => ?_
    cases same with
    | error failures => exact .done ⟨.error failures, opened⟩
    | ok outcomes => exact .done ⟨.ok rfl, opened.record _ _ _ outcomes⟩

/-- A run is the twin of itself, from reports alike. -/
theorem reconcileFrom_twins (versions : ∀ v w, V v w → nextVersion v = nextVersion w)
    (namespaces : ∀ ns, isName ns = true → P (.namespaceExists ns) ∧ P (.createNamespace ns))
    (noun : String) {desired : List Desired} (holds : ∀ state ∈ desired, state.AllCalls P options)
    (ensured : List String) (reports : report.Alike V report') :
    Twins P V (ResultsAlike V) (reconcileFrom noun options ensured desired report)
      (reconcileFrom noun options ensured desired report') := by
  induction desired generalizing ensured report report' with
  | nil => exact .done ⟨.ok rfl, reports⟩
  | cons first rest ih =>
    obtain ⟨now, later⟩ := List.forall_mem_cons.mp holds
    rw [reconcileFrom_cons, reconcileFrom_cons]
    refine (visit_twins versions namespaces noun ensured now reports).bind ?_
    rintro ⟨result, between⟩ ⟨result', between'⟩ ⟨same, reports⟩
    cases same with
    | error failures => exact .done ⟨.error failures, reports⟩
    | ok _ => exact ih later _ reports

end Run

end Converge
