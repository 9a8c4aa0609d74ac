/-!
# Finding text in text

Whether a text occurs in another, and cutting a text at the first separator.
-/

namespace Converge.Text

/-- Does the pattern occur in the characters, at some place? -/
def occursIn (pattern : List Char) : List Char → Bool
  | [] => pattern.isEmpty
  | c :: rest => pattern.isPrefixOf (c :: rest) || occursIn pattern rest

/-- Does the pattern occur in the text? -/
def contains (text pattern : String) : Bool := occursIn pattern.toList text.toList

/-- The parts before and after the first separator, if there is one. -/
def cutAt (separator : Char) : List Char → Option (List Char × List Char)
  | [] => none
  | c :: rest =>
    if c = separator then some ([], rest)
    else (cutAt separator rest).map fun (before, after) => (c :: before, after)

/-- The texts before and after the first separator, if there is one. -/
def splitOnce (separator : Char) (text : String) : Option (String × String) :=
  (cutAt separator text.toList).map fun (before, after) =>
    (String.ofList before, String.ofList after)

/-- Put a separator between texts. -/
def joinWith (separator : String) : List String → String
  | [] => ""
  | [s] => s
  | s :: rest => s ++ separator ++ joinWith separator rest

theorem occursIn_iff {pattern text : List Char} :
    occursIn pattern text = true ↔ pattern <:+: text := by
  induction text with
  | nil => simp [occursIn]
  | cons c rest ih =>
    rw [occursIn, Bool.or_eq_true, ih, List.infix_cons_iff, List.isPrefixOf_iff_prefix]

theorem cutAt_eq_none_iff {separator : Char} {text : List Char} :
    cutAt separator text = none ↔ separator ∉ text := by
  induction text with
  | nil => simp [cutAt]
  | cons c rest ih =>
    by_cases h : c = separator
    · simp [cutAt, h]
    · have h' : ¬ separator = c := fun e => h e.symm
      simp [cutAt, h, h', ih]

end Converge.Text
