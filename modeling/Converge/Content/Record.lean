import Converge.Content.Reading

/-!
# Reading records

A record is given as a map from field names to values, or as the sequence of its
values in the order of the fields. A field of a map is named by any of its names or
by its position; what names no field is passed over. Values are checked in the order
in which they stand, so the first bad one is reported, and only then missing fields
are.
-/

namespace Converge.Content

/-- A field of a record with values of one type: the names it goes by, the first
being its own, how its value is read, and the value it has when it is left out. -/
structure Field (α : Type) where
  names : List String
  read : Content → Except Mismatch α
  absent : Option α

/-- A field whose value is only checked. -/
structure Slot where
  names : List String
  required : Bool
  check : Content → Except Mismatch Unit

def Slot.name (s : Slot) : String := s.names.headD ""

def Field.name {α : Type} (f : Field α) : String := f.names.headD ""

def Field.slot {α : Type} (f : Field α) : Slot :=
  ⟨f.names, f.absent.isNone, fun c => (f.read c).map fun _ => ()⟩

/-- Fields that were found, under their own names. -/
abbrev Found.Fields := List (String × Content)

/-- What is said of items behind the last field, given the number of fields and the
number of items behind. -/
inductive Surplus where
  /-- The record was read item by item from a sequence held back for it. -/
  | held
  /-- The record was read directly from an array. -/
  | direct

def Surplus.mismatch (fields extra : Nat) : Surplus → Mismatch
  | .held => .invalidLength (fields + extra) (elements fields ++ " in sequence")
  | .direct => .invalidLength (fields + extra) "fewer elements in array"

/-- The field that a key names, if it names one. -/
def identify (slots : List Slot) : Content → Except Mismatch (Option Slot)
  | .str s => .ok (slots.find? fun slot => slot.names.contains s)
  | .int n =>
    if 0 ≤ n then .ok slots[n.toNat]?
    else .error (.invalidType (.int n) "field identifier")
  | key => .error (.invalidType key.found "field identifier")

/-- Go through the entries of a map. -/
def foundInMap (slots : List Slot) (seen : Found.Fields) :
    List (Content × Content) → Except Mismatch Found.Fields
  | [] => .ok seen
  | (key, c) :: rest => do
    match ← identify slots key with
    | none => foundInMap slots seen rest
    | some slot =>
      if (Entries.get? slot.name seen).isSome then throw (.duplicateField slot.name)
      slot.check c
      foundInMap slots (seen ++ [(slot.name, c)]) rest

/-- Go through the items of a sequence; `position` fields stand before. -/
def foundInSequence (surplus : Surplus) (expected : String) (position : Nat) :
    List Slot → List Content → Except Mismatch Found.Fields
  | [], [] => .ok []
  | [], extra => .error (surplus.mismatch position extra.length)
  | slot :: slots, [] =>
    if slot.required then .error (.invalidLength position expected)
    else foundInSequence surplus expected (position + 1) slots []
  | slot :: slots, c :: rest => do
    slot.check c
    let more ← foundInSequence surplus expected (position + 1) slots rest
    return (slot.name, c) :: more

/-- The fields of a record of the named type. -/
def fields (surplus : Surplus) (type : String) (slots : List Slot) :
    Content → Except Mismatch Found.Fields
  | .map entries => foundInMap slots [] entries
  | .seq items =>
    foundInSequence surplus (type ++ " with " ++ elements slots.length) 0 slots items
  | c => .error (.invalidType c.found type)

/-- The value of a field. -/
def Field.value {α : Type} (f : Field α) (found : Found.Fields) : Except Mismatch α :=
  match Entries.get? f.name found with
  | some c => f.read c
  | none =>
    match f.absent with
    | some a => .ok a
    | none => .error (.missingField f.name)

end Converge.Content
