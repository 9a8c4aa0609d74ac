import Converge.Json.Basic

/-!
# The shape of JSON values

What holds everywhere in a value, and how deep its arrays and objects nest.
-/

namespace Converge.Json

mutual
/-- Does the test hold of a value and of everything in it? -/
def everywhere (test : Json → Bool) : Json → Bool
  | .arr items => test (.arr items) && everywhereItems test items
  | .obj fields => test (.obj fields) && everywhereFields test fields
  | v => test v

def everywhereItems (test : Json → Bool) : List Json → Bool
  | [] => true
  | v :: rest => everywhere test v && everywhereItems test rest

def everywhereFields (test : Json → Bool) : List (String × Json) → Bool
  | [] => true
  | (_, v) :: rest => everywhere test v && everywhereFields test rest
end

mutual
/-- How many arrays and objects stand inside each other. -/
def depth : Json → Nat
  | .arr items => itemsDepth items + 1
  | .obj fields => fieldsDepth fields + 1
  | _ => 0

def itemsDepth : List Json → Nat
  | [] => 0
  | v :: rest => max (depth v) (itemsDepth rest)

def fieldsDepth : List (String × Json) → Nat
  | [] => 0
  | (_, v) :: rest => max (depth v) (fieldsDepth rest)
end

theorem everywhereItems_iff {test : Json → Bool} {items : List Json} :
    everywhereItems test items = true ↔ ∀ v ∈ items, everywhere test v = true := by
  induction items with
  | nil => simp [everywhereItems]
  | cons v rest ih => simp [everywhereItems, ih]

theorem everywhereFields_iff {test : Json → Bool} {fields : List (String × Json)} :
    everywhereFields test fields = true ↔ ∀ e ∈ fields, everywhere test e.2 = true := by
  induction fields with
  | nil => simp [everywhereFields]
  | cons e rest ih => simp [everywhereFields, ih]

theorem itemsDepth_le_iff {items : List Json} {n : Nat} :
    itemsDepth items ≤ n ↔ ∀ v ∈ items, v.depth ≤ n := by
  induction items with
  | nil => simp [itemsDepth]
  | cons v rest ih => rw [itemsDepth, Nat.max_le, ih, List.forall_mem_cons]

theorem fieldsDepth_le_iff {fields : List (String × Json)} {n : Nat} :
    fieldsDepth fields ≤ n ↔ ∀ e ∈ fields, e.2.depth ≤ n := by
  induction fields with
  | nil => simp [fieldsDepth]
  | cons e rest ih => rw [fieldsDepth, Nat.max_le, ih, List.forall_mem_cons]

/-- Is the value an integer of 64 bits, with or without sign, or no number at all? -/
def isIntegral : Json → Bool
  | .int n => fits 64 n
  | .float _ => false
  | _ => true

/-- Are all numbers in the value integers of 64 bits, with or without sign? -/
def integral (v : Json) : Bool := v.everywhere isIntegral

/-- Is the value a finite number? -/
def isNumber : Json → Bool
  | .int _ => true
  | .float x => x.isFinite
  | _ => false

/-- Is the value a finite number, or no floating-point number? -/
def isFinite : Json → Bool
  | .float x => x.isFinite
  | _ => true

/-- Are all numbers in the value finite? -/
def finite (v : Json) : Bool := v.everywhere isFinite

end Converge.Json
