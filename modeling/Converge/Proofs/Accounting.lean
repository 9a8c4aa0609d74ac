import Converge.Cluster.Disturbance
import Converge.Cluster.Memory
import Converge.Proofs.Account
import Converge.Proofs.Visit

/-!
# What a report accounts for

The report of a real run tells of every change that the run made, in their order. One
change may be missing: if the run fails in the middle of a pass, after a change of the
resource, then the pass has no outcome that could be recorded.
-/

namespace Converge

/-- Exchanges that end well, and the lines that are recorded for them. -/
structure Recorded (noun : String) (t : List Exchange) (lines : List String) : Prop where
  opening : Opening t
  quiet : QuietEnd t
  complete : told noun t = lines

/-- Exchanges that end in a failure, and the lines that are recorded for them. -/
structure Interrupted (noun : String) (t : List Exchange) (lines : List String) : Prop where
  opening : Opening t
  whole : cutShort t = false → told noun t = lines
  cut : cutShort t = true → ∃ line, told noun t = lines ++ [line]

/-- Exchanges with their result, and the lines that are recorded for them. -/
def Accounted {α : Type} (noun : String) (t : List Exchange) (r : Except Failure α)
    (lines : List String) : Prop :=
  match r with
  | .ok _ => Recorded noun t lines
  | .error _ => Interrupted noun t lines

section Join

variable {noun : String} {t u : List Exchange} {first later : List String}

theorem Opening.append (ht : Opening t) (hu : Opening u) : Opening (t ++ u) := by
  cases t with
  | nil => exact hu
  | cons e rest =>
    intro d answer tail same
    obtain ⟨rfl, _⟩ := List.cons.inj same
    exact ht d answer rest rfl

theorem QuietEnd.append (ht : QuietEnd t) (hu : QuietEnd u) : QuietEnd (t ++ u) := by
  intro e last
  rw [List.getLast?_append] at last
  cases end? : u.getLast? with
  | none => exact ht e (by rwa [end?] at last)
  | some f => exact hu e (by rwa [end?] at last ⊢)

theorem Recorded.nil (noun : String) : Recorded noun [] [] := by
  refine ⟨?_, ?_, rfl⟩
  · intro d answer rest same
    cases same
  · intro e last
    cases last

theorem Recorded.append (ht : Recorded noun t first) (hu : Recorded noun u later) :
    Recorded noun (t ++ u) (first ++ later) := by
  refine ⟨ht.opening.append hu.opening, ht.quiet.append hu.quiet, ?_⟩
  rw [told_append noun t hu.opening, ht.complete, hu.complete]

/-- A failure may only hide what was done in the same part. -/
theorem Recorded.interrupted (ht : Recorded noun t first) (hu : Interrupted noun u later) :
    Interrupted noun (t ++ u) (first ++ later) := by
  refine ⟨ht.opening.append hu.opening, ?_, ?_⟩
  · intro whole
    rw [cutShort_append ht.quiet hu.opening] at whole
    rw [told_append noun t hu.opening, ht.complete, hu.whole whole]
  · intro cut
    rw [cutShort_append ht.quiet hu.opening] at cut
    obtain ⟨line, hidden⟩ := hu.cut cut
    refine ⟨line, ?_⟩
    rw [told_append noun t hu.opening, ht.complete, hidden, List.append_assoc]

theorem Recorded.accounted {α : Type} {r : Except Failure α} (ht : Recorded noun t first)
    (hu : Accounted noun u r later) : Accounted noun (t ++ u) r (first ++ later) := by
  cases r with
  | error failure => exact ht.interrupted hu
  | ok a => exact ht.append hu

end Join

/-! ## The parts of a visit -/

theorem opening_cons {e : Exchange} (other : ∀ d, e.1 ≠ .create d) (t : List Exchange) :
    Opening (e :: t) := by
  intro d answer later same
  obtain ⟨rfl, _⟩ := List.cons.inj same
  exact other d rfl

theorem quietEnd_concat (t : List Exchange) {e : Exchange} (quiet : Quiet e) :
    QuietEnd (t ++ [e]) := by
  intro last same
  rw [List.getLast?_append] at same
  cases same
  exact quiet

theorem Interrupted.plain {noun : String} {t : List Exchange} (opening : Opening t)
    (whole : cutShort t = false) (untold : told noun t = []) : Interrupted noun t [] := by
  refine ⟨opening, fun _ => untold, ?_⟩
  intro cut
  rw [whole] at cut
  cases cut

theorem Interrupted.hiding {noun line : String} {t : List Exchange} (opening : Opening t)
    (cut : cutShort t = true) (hidden : told noun t = [line]) : Interrupted noun t [] := by
  refine ⟨opening, ?_, fun _ => ⟨line, hidden⟩⟩
  intro whole
  rw [whole] at cut
  cases cut

section Prepare

variable {options : Options} {ensured : List String} {desired : Desired} {t : List Exchange}

theorem Preparing.recorded (noun : String) (real : options.dryRun = false) {existed : Bool}
    (h : Preparing options ensured desired t (.ok existed)) :
    Recorded noun t (if existed then [] else ["Create " ++ noun ++ " " ++ desired.ns]) := by
  cases h with
  | known closed => exact Recorded.nil noun
  | ensured opens look =>
    cases look with
    | there good =>
      exact ⟨opening_cons (by simp) _, quietEnd_concat [] (.namespaceLook desired.ns _), rfl⟩
    | missing good dry =>
      rw [real] at dry
      cases dry
    | created good _ =>
      exact ⟨opening_cons (by simp) _, quietEnd_concat [_] (.namespaceMade desired.ns _), rfl⟩
    | raced good _ failure race =>
      exact ⟨opening_cons (by simp) _, quietEnd_concat [_] (.namespaceMade desired.ns _), rfl⟩

theorem Preparing.interrupted (noun : String) {failure : Failure}
    (h : Preparing options ensured desired t (.error failure)) : Interrupted noun t [] := by
  cases h with
  | ensured opens look =>
    cases look with
    | misnamed bad => exact .plain (Recorded.nil noun).opening rfl rfl
    | unseen good _ => exact .plain (opening_cons (by simp) _) rfl rfl
    | refused good real _ other => exact .plain (opening_cons (by simp) _) rfl rfl

end Prepare

section Pass

variable {options : Options} {desired : Desired} {t : List Exchange}

theorem opening_look (desired : Desired) (answer : Except Failure (Option Json))
    (t : List Exchange) : Opening (desired.look answer :: t) :=
  opening_cons (by simp [Desired.look]) t

theorem Performing.complete (noun : String) {change : Change} {kind : Kind} {ns name : String}
    (mine : change.Concerns kind ns name) (live : Bool) (h : Performing change t (.ok ())) :
    told noun t = (Decision.mk change.action (describe change.action kind name live)).lines := by
  cases h with
  | nothing => rfl
  | created d v =>
    obtain ⟨rfl, rfl, rfl⟩ := mine
    rfl
  | replaced d v =>
    obtain ⟨rfl, rfl, rfl⟩ := mine
    rfl
  | recreated d v =>
    obtain ⟨rfl, rfl, rfl⟩ := mine
    simp only [told, and_self, if_true]
    rfl
  | deleted =>
    obtain ⟨rfl, rfl, rfl⟩ := mine
    rfl

theorem Passing.recorded (noun : String) (real : options.dryRun = false) {outcome : Outcome}
    (h : Passing options desired t (.ok outcome)) : Recorded noun t outcome.decision.lines := by
  cases h with
  | checked dry live =>
    rw [real] at dry
    cases dry
  | settled _ present live change state =>
    have done := change.complete noun (desired.asked live options).concerns live.isSome
    refine ⟨opening_look _ _ _, quietEnd_concat _ (.looked _ _ _ _), ?_⟩
    rw [told_append noun _ (opening_look _ _ [])]
    exact (List.append_nil _).trans done
  | gone _ absent live change =>
    have done := change.complete noun (desired.asked live options).concerns live.isSome
    refine ⟨opening_look _ _ _, ?_, done⟩
    rcases (desired.asked live options).of_absent absent with asked | asked
    · rw [asked] at change
      cases change
      exact quietEnd_concat [] (.looked _ _ _ _)
    · rw [asked] at change
      cases change
      exact quietEnd_concat [_] (.deleted _ _ _)

theorem Passing.interrupted (noun : String) {failure : Failure}
    (h : Passing options desired t (.error failure)) : Interrupted noun t [] := by
  cases h with
  | unseen => exact .plain (opening_look _ _ _) rfl rfl
  | broken real live change =>
    generalize desired.change live options = asked at change
    cases change with
    | uncreated d => exact .plain (opening_look _ _ _) rfl rfl
    | unreplaced d => exact .plain (opening_look _ _ _) rfl rfl
    | kept d => exact .plain (opening_look _ _ _) rfl rfl
    | halved d => exact .hiding (opening_look _ _ _) rfl rfl
    | undeleted => exact .plain (opening_look _ _ _) rfl rfl
  | lost real present live change =>
    have asked := desired.asked live options
    generalize desired.change live options = wanted at asked change
    cases change with
    | nothing => exact .plain (opening_look _ _ _) rfl rfl
    | created d v => exact .hiding (opening_look _ _ _) rfl rfl
    | replaced d v => exact .hiding (opening_look _ _ _) rfl rfl
    | recreated d v =>
      have hidden : told noun [⟨.delete d.kind d.ns d.name, .ok ()⟩, ⟨.create d, .ok v⟩] =
          [describe .recreate d.kind d.name true] := by
        simp only [told, and_self, if_true]
      exact .hiding (opening_look _ _ _) rfl hidden
    | deleted =>
      cases asked
      cases present

end Pass

/-! ## Runs -/

section Run

variable {noun : String} {options : Options} {ensured : List String} {report after : Report}
  {t : List Exchange} {r : Except Failure Unit}

theorem Visiting.accounted (real : options.dryRun = false) {desired : Desired}
    (h : Visiting noun options ensured desired report t r after) :
    ∃ lines, after.actions = report.actions ++ lines ∧ Accounted noun t r lines := by
  cases h with
  | unprepared prepared =>
    exact ⟨[], (List.append_nil _).symm, prepared.interrupted noun⟩
  | failed prepared pass =>
    have before := prepared.recorded noun real
    refine ⟨_, ?_, before.interrupted (pass.interrupted noun)⟩
    rw [Report.recordNamespace_actions, List.append_nil]
  | passed prepared pass =>
    have before := prepared.recorded noun real
    refine ⟨_, ?_, before.append (pass.recorded noun real)⟩
    rw [Report.record_actions, Report.recordNamespace_actions, List.append_assoc]

/-- A real run adds to the report what it did. -/
theorem Running.accounted (real : options.dryRun = false) {desired : List Desired}
    (h : Running noun options ensured desired report t r after) :
    ∃ lines, after.actions = report.actions ++ lines ∧ Accounted noun t r lines := by
  induction h with
  | finished ensured report => exact ⟨[], (List.append_nil _).symm, Recorded.nil noun⟩
  | stopped rest visit => exact visit.accounted real
  | next visit others ih =>
    obtain ⟨first, between, done⟩ := visit.accounted real
    obtain ⟨later, last, accounted⟩ := ih
    refine ⟨first ++ later, ?_, Recorded.accounted done accounted⟩
    rw [last, between, List.append_assoc]

end Run

/-- A report says that something changed exactly if it tells of an action. -/
def Report.Sound (r : Report) : Prop := r.changed = !r.actions.isEmpty

theorem Report.Sound.recordNamespace {r : Report} (h : r.Sound) (noun ns : String)
    (existed : Bool) : (r.recordNamespace noun ns existed).Sound := by
  have same : r.changed = !r.actions.isEmpty := h
  rw [Report.Sound, recordNamespace_changed, recordNamespace_actions]
  cases existed with
  | true => simp [same]
  | false => simp

theorem Report.Sound.record {r : Report} (h : r.Sound) (kind : Kind) (ns name : String)
    (outcome : Outcome) : (r.record kind ns name outcome).Sound := by
  have same : r.changed = !r.actions.isEmpty := h
  rw [Report.Sound, record_changed, record_actions, Decision.lines]
  cases outcome.decision.changed with
  | true => simp
  | false => simp [same]

theorem Running.sound {noun : String} {options : Options} {ensured : List String}
    {desired : List Desired} {report after : Report} {t : List Exchange}
    {r : Except Failure Unit} (h : Running noun options ensured desired report t r after)
    (before : report.Sound) : after.Sound := by
  induction h with
  | finished => exact before
  | stopped rest visit =>
    cases visit with
    | unprepared => exact before
    | failed => exact before.recordNamespace _ _ _
  | next visit others ih =>
    cases visit with
    | passed => exact ih ((before.recordNamespace _ _ _).record _ _ _ _)

/-- The report of a failed run tells of every change that took place, in their order, except
that the last is missing if the failure came in between the change and the outcome. -/
theorem failed_run_accounts {σ : Type} (client : Client σ) (noun : String) (options : Options)
    (desired : List Desired) (s : σ) {failure : Failure} {report : Report}
    (failed : ((reconcileAll noun options desired .empty).run client s).1 =
      (.error failure, report)) :
    let t := (reconcileAll noun options desired .empty).transcript client s
    (cutShort t = false → ∀ e ∈ t, Applied e →
      report.changed = true ∧ ∃ line ∈ tellings noun e.1, line ∈ report.actions) ∧
    (cutShort t = true → report.changed = !report.actions.isEmpty ∧
      ∃ line, Tells noun line t ∧ told noun t = report.actions ++ [line]) ∧
    (options.dryRun = false → (report.actions = told noun t ↔ cutShort t = false)) := by
  intro t
  have running := reconcileAll_running client noun options desired .empty s
  rw [failed] at running
  have sound : report.Sound := running.sound rfl
  cases real : options.dryRun with
  | true =>
    -- nothing was changed, and so nothing is missing, though the report may tell of a lot
    have asked := running.dry real
    refine ⟨?_, ?_, nofun⟩
    · intro _ e listed applied
      have mutation := applied.1
      rw [asked e listed] at mutation
      cases mutation
    · intro cut
      obtain ⟨e, listed, mutation⟩ := exists_mutation_of_cutShort cut
      rw [asked e listed] at mutation
      cases mutation
  | false =>
    obtain ⟨lines, actions, accounted⟩ := running.accounted real
    have same : report.actions = lines := actions
    subst same
    have account : Interrupted noun t report.actions := accounted
    -- the report began empty, so it holds what the run added to it and no more
    refine ⟨?_, ?_, fun _ => ⟨?_, fun whole => (account.whole whole).symm⟩⟩
    · intro whole e listed applied
      obtain ⟨line, telling, inside⟩ := told_complete noun listed applied
      rw [account.whole whole] at inside
      refine ⟨?_, line, telling, inside⟩
      have nonempty : report.actions ≠ [] := List.ne_nil_of_mem inside
      rw [sound]
      simp [nonempty]
    · intro cut
      obtain ⟨line, hidden⟩ := account.cut cut
      have last : line ∈ told noun t := by
        rw [hidden]
        exact List.mem_append_right _ List.mem_cons_self
      exact ⟨sound, line, told_sound last, hidden⟩
    · intro full
      cases cut : cutShort t with
      | false => rfl
      | true =>
        obtain ⟨line, hidden⟩ := account.cut cut
        rw [hidden] at full
        exact absurd (List.append_right_eq_self.mp full.symm) (List.cons_ne_nil line [])

namespace Unsteady

def data : Descriptor := .bare .persistentVolumeClaim "data" "shop" .empty

/-- A cluster that fails from the second look at a volume claim on. -/
def cluster : Disturbance.State Memory :=
  ⟨[⟨"get PersistentVolumeClaim/data", 1, -1, .transport⟩], [], .ofContents ["shop"] []⟩

def lost : Failure := .transport "get PersistentVolumeClaim/data" "" Disturbance.reason 1

def run : Dialogue (Except Failure Unit × Report) :=
  reconcileAll "namespace" ⟨false, false, false⟩ [.present data] .empty

end Unsteady

open Unsteady in
/-- A volume claim is created, the look at it fails, and the report tells of nothing. -/
theorem failed_run_accounts_unsteady :
    (run.run (Disturbance.disturb Memory.client) cluster).1 = (.error lost, .empty) ∧
    cutShort (run.transcript (Disturbance.disturb Memory.client) cluster) = true ∧
    ∃ line, Tells "namespace" line (run.transcript (Disturbance.disturb Memory.client) cluster) ∧
      told "namespace" (run.transcript (Disturbance.disturb Memory.client) cluster) =
        Report.empty.actions ++ [line] := by
  have failed : (run.run (Disturbance.disturb Memory.client) cluster).1 =
      (.error lost, .empty) := rfl
  have cut : cutShort (run.transcript (Disturbance.disturb Memory.client) cluster) = true := rfl
  obtain ⟨_, line, tells, hidden⟩ := (failed_run_accounts (Disturbance.disturb Memory.client)
    "namespace" ⟨false, false, false⟩ [.present data] cluster failed).2.1 cut
  exact ⟨failed, cut, line, tells, hidden⟩

end Converge
