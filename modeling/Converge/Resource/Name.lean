import Converge.Resource.Invalid

/-!
# Names

The names of resources and namespaces: lower-case letters, digits, hyphens and dots,
with a letter or digit at both ends, at most 253 octets long.
-/

namespace Converge

/-- A lower-case letter or a digit. -/
def isNameEnd (c : Char) : Bool := c.isLower || c.isDigit

def isNameChar (c : Char) : Bool := isNameEnd c || c = '-' || c = '.'

/-- Is the text a name? -/
def isName (s : String) : Bool :=
  s.utf8ByteSize ≤ 253 && s.toList.all isNameChar &&
    (match s.toList with
      | [] => false
      | c :: rest => isNameEnd c && isNameEnd ((c :: rest).getLast (by simp)))

/-- Refuse a text that is not a name for the thing it should name. -/
def checkName (what name : String) : Except Invalid Unit :=
  if isName name then .ok () else .error (.badName what name)

theorem checkName_of_isName {what name : String} (good : isName name = true) :
    checkName what name = .ok () := by
  rw [checkName, if_pos good]

theorem checkName_of_not_isName {what name : String} (bad : isName name = false) :
    checkName what name = .error (.badName what name) := by
  rw [checkName, if_neg (by simp [bad])]

end Converge
