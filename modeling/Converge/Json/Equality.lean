import Converge.Json.Basic

/-!
# Equality of JSON values

Values are compared field by field, in the order in which they stand.
-/

namespace Converge.Json

mutual
/-- Are the values the same? -/
def same : Json → Json → Bool
  | .null, .null => true
  | .bool a, .bool b => a == b
  | .int m, .int n => m == n
  | .float x, .float y => x == y
  | .str s, .str t => s == t
  | .arr items, .arr items' => sameItems items items'
  | .obj fields, .obj fields' => sameFields fields fields'
  | _, _ => false

def sameItems : List Json → List Json → Bool
  | [], [] => true
  | v :: rest, w :: rest' => same v w && sameItems rest rest'
  | _, _ => false

def sameFields : List (String × Json) → List (String × Json) → Bool
  | [], [] => true
  | (name, v) :: rest, (name', w) :: rest' => name == name' && same v w && sameFields rest rest'
  | _, _ => false
end

mutual
theorem same_iff : ∀ v w : Json, same v w = true ↔ v = w
  | .null, w => by cases w <;> simp [same]
  | .bool a, w => by cases w <;> simp [same]
  | .int n, w => by cases w <;> simp [same]
  | .float x, w => by cases w <;> simp [same]
  | .str s, w => by cases w <;> simp [same]
  | .arr items, w => by cases w <;> simp [same, sameItems_iff items]
  | .obj fields, w => by cases w <;> simp [same, sameFields_iff fields]

theorem sameItems_iff : ∀ l l' : List Json, sameItems l l' = true ↔ l = l'
  | [], l' => by cases l' <;> simp [sameItems]
  | v :: rest, l' => by cases l' <;> simp [sameItems, same_iff v, sameItems_iff rest]

theorem sameFields_iff : ∀ l l' : List (String × Json), sameFields l l' = true ↔ l = l'
  | [], l' => by cases l' <;> simp [sameFields]
  | (name, v) :: rest, l' => by
    cases l' with
    | nil => simp [sameFields]
    | cons e rest' => simp [sameFields, same_iff v, sameFields_iff rest, Prod.ext_iff]
end

instance : DecidableEq Json := fun v w => decidable_of_iff _ (same_iff v w)

end Converge.Json
