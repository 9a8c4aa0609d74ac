import Converge.Reconcile.Desired

/-!
# Decisions

Which change takes the live state of a resource to the desired one. A decision
depends on the desired state, on the live object if there is one, and on what the
options allow to be done to an object that is already there.
-/

namespace Converge

structure Options where
  /-- Overwrite an object that is there. -/
  replace : Bool
  /-- Delete an object that is there and create it again; goes before `replace`. -/
  recreate : Bool
  /-- Decide, but change nothing. -/
  dryRun : Bool
deriving DecidableEq, Repr

inductive Action where
  | noOp
  | create
  | replace
  | recreate
  | delete
deriving DecidableEq, Repr

def Action.name : Action → String
  | .noOp => "no_op"
  | .create => "create"
  | .replace => "replace"
  | .recreate => "recreate"
  | .delete => "delete"

/-- The action as a title. -/
def Action.title : Action → String
  | .noOp => "NoOp"
  | .create => "Create"
  | .replace => "Replace"
  | .recreate => "Recreate"
  | .delete => "Delete"

/-- A change of one resource, with what is needed to carry it out. -/
inductive Change where
  | none
  | create (d : Descriptor)
  | replace (d : Descriptor)
  | recreate (d : Descriptor)
  | delete (kind : Kind) (ns name : String)

def Change.action : Change → Action
  | .none => .noOp
  | .create _ => .create
  | .replace _ => .replace
  | .recreate _ => .recreate
  | .delete .. => .delete

/-- The change that a desired state asks for. -/
def Desired.change (desired : Desired) (live : Option Json) (options : Options) : Change :=
  match desired, live with
  | .present d, .none => .create d
  | .present d, .some v =>
    if options.recreate then .recreate d
    else if options.replace then .replace (d.kind.prepareReplace d v)
    else .none
  | .absent kind ns name, .some _ => .delete kind ns name
  | .absent .., .none => .none

structure Decision where
  action : Action
  description : String
deriving DecidableEq

def Decision.changed (d : Decision) : Bool := d.action != .noOp

/-- What a report tells of a decision. -/
def Decision.lines (d : Decision) : List String := if d.changed then [d.description] else []

/-- An action in words. -/
def describe (action : Action) (kind : Kind) (name : String) (live : Bool) : String :=
  match action with
  | .create => "Create " ++ kind.noun ++ " " ++ name
  | .replace => "Replace " ++ kind.noun ++ " " ++ name
  | .recreate => "Recreate " ++ kind.noun ++ " " ++ name
  | .delete => "Delete " ++ kind.noun ++ " " ++ name
  | .noOp =>
    if live then kind.noun ++ " " ++ name ++ " is up to date"
    else kind.noun ++ " " ++ name ++ " is already absent"

/-- Decide what is done for one resource. -/
def decide (desired : Desired) (live : Option Json) (options : Options) : Decision :=
  let action := (desired.change live options).action
  ⟨action, describe action desired.kind desired.name live.isSome⟩

end Converge
