import Converge.Proofs.Absence
import Converge.Proofs.ReportKeys
import Converge.Proofs.Verdict

/-!
# Names in the output of a command

What a failed command prints repeats the name it was asked about, in quotation marks, and is
searched for the words that tell the failure's sort. None of the words has a quotation mark, so
none reaches across one, and each has a character that no name has, so none lies inside a name.
The words found are those of the text around the name.
-/

namespace Converge

namespace Text

/-- A pattern without the mark between two texts lies in one of them. -/
theorem occursIn_divided {mark : Char} {pattern : List Char} (unmarked : mark ∉ pattern)
    (first second : List Char) :
    occursIn pattern (first ++ mark :: second) =
      (occursIn pattern first || occursIn pattern second) := by
  rw [Bool.eq_iff_iff, Bool.or_eq_true, occursIn_iff, occursIn_iff, occursIn_iff]
  -- what starts at the mark is nothing, since the pattern has none
  have stops : ∀ {part : List Char}, part ⊆ pattern → part <+: mark :: second → part = [] := by
    intro part inside starts
    cases part with
    | nil => rfl
    | cons c part =>
      obtain ⟨rfl, _⟩ := List.cons_prefix_cons.mp starts
      exact absurd (inside List.mem_cons_self) unmarked
  constructor
  · intro within
    rcases List.infix_append_iff.mp within with left | right | ⟨head, tail, rfl, ends, starts⟩
    · exact Or.inl left
    · rcases List.infix_cons_iff.mp right with starts | right
      · rw [stops (List.Subset.refl _) starts]
        exact Or.inl List.nil_infix
      · exact Or.inr right
    · rw [stops (List.subset_append_right head tail) starts, List.append_nil]
      exact Or.inl ends.isInfix
  · rintro (left | right)
    · exact left.trans (List.prefix_append _ _).isInfix
    · exact right.trans ((List.suffix_cons mark second).trans (List.suffix_append _ _)).isInfix

end Text

/-- The pattern has no quotation mark, and a character that no name has. -/
def Foreign (pattern : String) : Prop :=
  '"' ∉ pattern.toList ∧ pattern.toList.all isNameChar = false

instance (pattern : String) : Decidable (Foreign pattern) :=
  inferInstanceAs (Decidable ('"' ∉ pattern.toList ∧ pattern.toList.all isNameChar = false))

theorem Foreign.not_in_name {pattern name : String} (foreign : Foreign pattern)
    (good : isName name = true) : Text.contains name pattern = false := by
  rw [← Bool.not_eq_true, Text.contains, Text.occursIn_iff]
  intro within
  have fits : pattern.toList.all isNameChar = true :=
    List.all_eq_true.mpr fun c inside => isNameChar_of_mem good (within.subset inside)
  rw [foreign.2] at fits
  cases fits

def quoting (before name behind : String) : String := before ++ "\"" ++ name ++ "\"" ++ behind

theorem Foreign.contains_quoting {pattern name : String} (foreign : Foreign pattern)
    (good : isName name = true) (before behind : String) :
    Text.contains (quoting before name behind) pattern =
      (Text.contains before pattern || Text.contains behind pattern) := by
  have parts : (quoting before name behind).toList =
      before.toList ++ '"' :: (name.toList ++ '"' :: behind.toList) := by
    simp [quoting, String.toList_append]
  have absent : Text.occursIn pattern.toList name.toList = false := foreign.not_in_name good
  rw [Text.contains, parts, Text.occursIn_divided foreign.1, Text.occursIn_divided foreign.1,
    absent, Bool.false_or]
  rfl

/-- Which of the sorts of failure it is, whatever it tells of. -/
def Failure.sort (failure : Failure) : Nat := failure.ctorIdx

theorem Failure.isNotFound_sort (failure : Failure) :
    failure.isNotFound = (failure.sort == 0) := by
  cases failure <;> rfl

namespace Lookup

inductive Alike : Lookup → Lookup → Prop where
  | resources (kind kind' : Kind) (ns ns' name name' : String) :
      Alike (.resource kind ns name) (.resource kind' ns' name')
  | spaces (ns ns' : String) : Alike (.space ns) (.space ns')

/-- What comes of a lookup: whether anything is there, or the sort of its failure. -/
def outcome : (l : Lookup) → l.call.Answer → Except Nat Bool
  | .resource .., answer => (answer.map Option.isSome).mapError Failure.sort
  | .space _, answer => answer.mapError Failure.sort

end Lookup

namespace CommandLine

/-- All words that the output of a failed command is searched for. -/
def searched : List String := forbiddenMark :: marks

theorem searched_foreign : ∀ word ∈ searched, Foreign word := by decide

def SameWords (text text' : String) : Prop :=
  ∀ word ∈ searched, Text.contains text word = Text.contains text' word

theorem sameWords_quoting {name name' : String} (good : isName name = true)
    (good' : isName name' = true) (before behind : String) :
    SameWords (quoting before name behind) (quoting before name' behind) := by
  intro word listed
  have foreign := searched_foreign word listed
  rw [foreign.contains_quoting good, foreign.contains_quoting good']

theorem plain_quoting {name before behind : String} (good : isName name = true)
    (plain : Plain before) (plain' : Plain behind) : Plain (quoting before name behind) := by
  intro mark listed
  have foreign := searched_foreign mark (List.mem_cons_of_mem _ listed)
  rw [foreign.contains_quoting good, plain mark listed, plain' mark listed, Bool.or_false]

section SameWords

variable {finished finished' : Finished} {line line' : String} {subject subject' : String × String}

theorem classify_plain (plain : Plain finished.stderr) :
    classify line subject finished =
      .transport line finished.stdout finished.stderr finished.exitCode := by
  have authorized : unauthorizedMarks.any (Text.contains finished.stderr) = false :=
    unauthorized_iff.mpr fun mark listed => plain mark (List.mem_append_left _ listed)
  rw [classify, authorized, plain notFoundMark (by decide), plain alreadyExistsMark (by decide)]
  rfl

/-- The sort of a failure is a matter of the words found. -/
theorem classify_sort (same : SameWords finished.stderr finished'.stderr) :
    (classify line subject finished).sort = (classify line' subject' finished').sort := by
  have authorized : unauthorizedMarks.any (Text.contains finished.stderr) =
      unauthorizedMarks.any (Text.contains finished'.stderr) :=
    unauthorized_congr fun mark listed =>
      same mark (List.mem_cons_of_mem _ (List.mem_append_left _ listed))
  rw [classify, classify, authorized, same notFoundMark (by decide),
    same alreadyExistsMark (by decide)]
  cases unauthorizedMarks.any (Text.contains finished'.stderr) with
  | true => rfl
  | false =>
    cases Text.contains finished'.stderr notFoundMark with
    | true => rfl
    | false => cases Text.contains finished'.stderr alreadyExistsMark <;> rfl

variable {setup : Setup} {l l' : Lookup}

theorem isGone_same (alike : l.Alike l') (same : SameWords finished.stderr finished'.stderr) :
    isGone setup l (failureOf setup l.call finished) =
      isGone setup l' (failureOf setup l'.call finished') := by
  have missing : (failureOf setup l.call finished).isNotFound =
      (failureOf setup l'.call finished').isNotFound := by
    rw [Failure.isNotFound_sort, Failure.isNotFound_sort, failureOf, failureOf, classify_sort same]
  rw [Bool.eq_iff_iff, isGone_failureOf, isGone_failureOf, missing]
  refine or_congr_right ?_
  cases alike with
  | resources => exact Iff.rfl
  | spaces ns ns' => rw [Lookup.Hidden, Lookup.Hidden, same forbiddenMark (by decide)]

/-- What comes of a lookup whose command failed. -/
theorem outcome_failed (l : Lookup) (failed : finished.exitCode ≠ 0) :
    l.outcome (reply setup l.call (.ok finished)) =
      if isGone setup l (failureOf setup l.call finished) then .ok false
      else .error (failureOf setup l.call finished).sort := by
  simp only [reply_lookup, output_failed _ failed]
  cases isGone setup l (failureOf setup l.call finished) with
  | true => cases l <;> rfl
  | false => cases l <;> rfl

theorem outcome_same (alike : l.Alike l') (same : SameWords finished.stderr finished'.stderr)
    (failed : finished.exitCode ≠ 0) (failed' : finished'.exitCode ≠ 0) :
    l.outcome (reply setup l.call (.ok finished)) =
      l'.outcome (reply setup l'.call (.ok finished')) := by
  rw [outcome_failed l failed, outcome_failed l' failed', isGone_same alike same, failureOf,
    failureOf, classify_sort same]

end SameWords

/-- The name that a failed command quotes changes neither the sort of its failure nor what comes
of a lookup. If neither text around the name holds one of the words, the failure is none of
those that they tell of, whatever the name. -/
theorem quoted_name_tells_nothing {code : Int} {stdout before behind name name' : String}
    (failed : code ≠ 0) (good : isName name = true) (good' : isName name' = true) :
    let printed : String → Finished := fun name => ⟨code, stdout, quoting before name behind⟩
    (∀ line line' subject subject', (classify line subject (printed name)).sort =
      (classify line' subject' (printed name')).sort) ∧
    (∀ (setup : Setup) (l l' : Lookup), l.Alike l' →
      l.outcome (reply setup l.call (.ok (printed name))) =
        l'.outcome (reply setup l'.call (.ok (printed name')))) ∧
    (Plain before → Plain behind → ∀ line subject, classify line subject (printed name) =
      .transport line stdout (quoting before name behind) code) := by
  intro printed
  have same : SameWords (printed name).stderr (printed name').stderr :=
    sameWords_quoting good good' before behind
  refine ⟨fun line line' subject subject' => classify_sort same, ?_, ?_⟩
  · intro setup l l' alike
    exact outcome_same alike same failed failed
  · intro plain plain' line subject
    exact classify_plain (plain_quoting good plain plain')

/-- A route that is called like one of the words is missing as any other. -/
theorem quoted_name_tells_nothing_forbidden :
    isName "web" = true ∧ isName "forbidden" = true ∧
      (Lookup.resource .route "shop" "forbidden").outcome
        (reply ⟨"oc", none, .project⟩ (.get .route "shop" "forbidden")
          (.ok ⟨1, "", quoting "Error from server (NotFound): routes " "forbidden" " not found"⟩)) =
        .ok false := by
  have good : isName "web" = true := by decide
  have good' : isName "forbidden" = true := by decide
  refine ⟨good, good', ?_⟩
  have missing : (Lookup.resource .route "shop" "web").outcome
      (reply ⟨"oc", none, .project⟩ (.get .route "shop" "web")
        (.ok ⟨1, "", quoting "Error from server (NotFound): routes " "web" " not found"⟩)) =
      .ok false := by decide +kernel
  have alike : (Lookup.resource .route "shop" "forbidden").Alike (.resource .route "shop" "web") :=
    .resources ..
  refine Eq.trans ?_ missing
  exact (quoted_name_tells_nothing (by decide) good' good).2.1 _ _ _ alike

end CommandLine

end Converge
