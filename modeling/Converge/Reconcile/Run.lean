import Converge.Cluster.Dialogue
import Converge.Reconcile.Report

/-!
# Reconciling

One pass over a resource: look it up, decide, change it unless this is a dry run, and
look it up again. A run goes through a list of desired states; before the first
resource that should be present in a namespace, the namespace is ensured. The first
failure ends the run, and the report keeps what was recorded before.
-/

namespace Converge

/-- See to it that a namespace is there, and tell whether it was. A namespace that
someone else created in between was there. In a dry run nothing is created. -/
def ensureNamespace (ns : String) (dryRun : Bool) : Attempt Bool := do
  Attempt.check (checkName "Namespace" ns)
  let existed : Bool ← Attempt.call (.namespaceExists ns)
  if existed then return true
  if dryRun then return false
  let answer : Except Failure Unit ← ExceptT.lift (Dialogue.call (.createNamespace ns))
  match answer with
  | .ok _ => return false
  | .error failure => if failure.isAlreadyExists then return true else throw failure

/-- Carry an action out for a resource, of which `live` was found. An action that does not
fit what is wanted fails, and so does a replacement of nothing. -/
def Desired.carryOut (desired : Desired) (action : Action) (live : Option Json) : Attempt Unit :=
  match desired, action with
  | _, .noOp => pure ()
  | .present d, .create => do
    let _ ← Attempt.call (.create d)
  | .present d, .replace =>
    match live with
    | none =>
      throw (.notFound d.kind.name d.name ("replace " ++ d.kind.name ++ "/" ++ d.name) "")
    | some v => do
      let _ ← Attempt.call (.replace (d.kind.prepareReplace d v))
  | .present d, .recreate => do
    Attempt.call (.delete d.kind d.ns d.name)
    let _ ← Attempt.call (.create d)
  | .absent kind ns name, .delete => Attempt.call (.delete kind ns name)
  | desired, action => throw (.invalid (.inapplicable action.title desired.kind desired.name))

/-- One pass over a resource. -/
def reconcile (options : Options) (desired : Desired) : Attempt Outcome := do
  let live ← Attempt.call (.get desired.kind desired.ns desired.name)
  let decision := decide desired live options
  if options.dryRun then
    return ⟨decision, if desired.isPresent then live else none⟩
  desired.carryOut decision.action live
  if desired.isPresent then
    let state ← Attempt.call (.get desired.kind desired.ns desired.name)
    return ⟨decision, state⟩
  else
    return ⟨decision, none⟩

/-- Reconcile resources one after another; the namespaces in `ensured` need no look. -/
def reconcileFrom (noun : String) (options : Options) (ensured : List String) :
    List Desired → Report → Dialogue (Except Failure Unit × Report)
  | [], report => pure (.ok (), report)
  | desired :: rest, report => do
    let pass (ensured : List String) (report : Report) :
        Dialogue (Except Failure Unit × Report) := do
      match ← (reconcile options desired).run with
      | .error failure => pure (.error failure, report)
      | .ok outcome =>
        reconcileFrom noun options ensured rest
          (report.record desired.kind desired.ns desired.name outcome)
    if desired.isPresent && !ensured.contains desired.ns then
      match ← (ensureNamespace desired.ns options.dryRun).run with
      | .error failure => pure (.error failure, report)
      | .ok existed =>
        pass (desired.ns :: ensured) (report.recordNamespace noun desired.ns existed)
    else pass ensured report

/-- Reconcile resources one after another. -/
def reconcileAll (noun : String) (options : Options) (desired : List Desired) (report : Report) :
    Dialogue (Except Failure Unit × Report) :=
  reconcileFrom noun options [] desired report

end Converge
