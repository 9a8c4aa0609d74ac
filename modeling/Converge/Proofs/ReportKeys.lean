import Converge.Proofs.Manifest
import Converge.Reconcile.Report
import Mathlib.Data.List.Basic

/-!
# The keys of a report

A report files the states of resources under keys that are made of namespace, name and kind.
A name has neither slash nor underscore, so the first slash of a key ends the namespace and its
last underscore ends the name, in which every other underscore stands for a hyphen.
-/

namespace Converge

theorem isNameChar_of_mem {s : String} (good : isName s = true) {c : Char} (inside : c ∈ s.toList) :
    isNameChar c = true := by
  rw [isName, Bool.and_eq_true, Bool.and_eq_true] at good
  exact List.all_eq_true.mp good.1.2 c inside

theorem not_mem_of_isName {s : String} (good : isName s = true) {c : Char}
    (unfit : isNameChar c = false) : c ∉ s.toList := by
  intro inside
  rw [isNameChar_of_mem good inside] at unfit
  cases unfit

theorem Kind.reportWord_injective {a b : Kind} (h : a.reportWord = b.reportWord) : a = b := by
  cases a <;> cases b <;> first | rfl | exact absurd h (by decide)

theorem Kind.reportWord_plain (kind : Kind) : '_' ∉ kind.reportWord.toList := by
  cases kind <;> decide

namespace Report

def underscored (name : List Char) : List Char := name.map fun c => if c = '-' then '_' else c

/-- The name is read back from a key, since its own characters have no underscore. -/
theorem hyphenated_underscored {name : List Char} (plain : '_' ∉ name) :
    (underscored name).map (fun c => if c = '_' then '-' else c) = name := by
  induction name with
  | nil => rfl
  | cons c rest ih =>
    obtain ⟨first, rest⟩ := not_or.mp fun inside => plain (List.mem_cons.mpr inside)
    have back : (if (if c = '-' then '_' else c) = '_' then '-' else
        if c = '-' then '_' else c) = c := by
      by_cases hyphen : c = '-'
      · simp [hyphen]
      · rw [if_neg hyphen, if_neg fun same => first same.symm]
    rw [underscored, List.map_cons, List.map_cons, back]
    exact congrArg (c :: ·) (ih rest)

theorem resourceKey_toList (kind : Kind) (ns name : String) :
    (resourceKey kind ns name).toList =
      ns.toList ++ '/' :: (underscored name.toList ++ '_' :: kind.reportWord.toList) := by
  simp [resourceKey, underscored, String.toList_append]

section Mark

variable {α : Type} {mark : α} {a b c d : List α}

/-- Lists that are divided by the first mark in them have the same parts. -/
theorem parts_of_first (unmarked : mark ∉ a) (unmarked' : mark ∉ c)
    (same : a ++ mark :: b = c ++ mark :: d) : a = c ∧ b = d := by
  rcases List.append_eq_append_iff.mp same with ⟨more, rfl, behind⟩ | ⟨more, rfl, behind⟩
  · cases more with
    | nil => exact ⟨(List.append_nil a).symm, (List.cons.inj behind).2⟩
    | cons e more =>
      obtain ⟨rfl, _⟩ := List.cons.inj behind
      exact absurd (by simp) unmarked'
  · cases more with
    | nil => exact ⟨List.append_nil c, (List.cons.inj behind).2.symm⟩
    | cons e more =>
      obtain ⟨rfl, _⟩ := List.cons.inj behind
      exact absurd (by simp) unmarked

/-- Lists that are divided by the last mark in them have the same parts. -/
theorem parts_of_last (unmarked : mark ∉ b) (unmarked' : mark ∉ d)
    (same : a ++ mark :: b = c ++ mark :: d) : a = c ∧ b = d := by
  have turned := congrArg List.reverse same
  simp only [List.reverse_append, List.reverse_cons, List.append_assoc,
    List.singleton_append] at turned
  obtain ⟨last, first⟩ := parts_of_first (by simpa using unmarked) (by simpa using unmarked') turned
  exact ⟨List.reverse_injective first, List.reverse_injective last⟩

end Mark

/-- Resources with names have different keys, unless they are the same. -/
theorem resourceKey_injective {kind kind' : Kind} {ns ns' name name' : String}
    (space : isName ns = true) (space' : isName ns' = true) (good : isName name = true)
    (good' : isName name' = true) (same : resourceKey kind ns name = resourceKey kind' ns' name') :
    kind = kind' ∧ ns = ns' ∧ name = name' := by
  have letters := congrArg String.toList same
  rw [resourceKey_toList, resourceKey_toList] at letters
  have slash : isNameChar '/' = false := by decide
  have underscore : isNameChar '_' = false := by decide
  obtain ⟨spaces, rest⟩ := parts_of_first (not_mem_of_isName space slash)
    (not_mem_of_isName space' slash) letters
  obtain ⟨names, words⟩ := parts_of_last kind.reportWord_plain kind'.reportWord_plain rest
  refine ⟨Kind.reportWord_injective (String.toList_injective words),
    String.toList_injective spaces, String.toList_injective ?_⟩
  rw [← hyphenated_underscored (not_mem_of_isName good underscore), names,
    hyphenated_underscored (not_mem_of_isName good' underscore)]

end Report

namespace Desired

def reportKey (desired : Desired) : String :=
  Report.resourceKey desired.kind desired.ns desired.name

def Named (desired : Desired) : Prop := isName desired.ns = true ∧ isName desired.name = true

theorem identity_eq_of_reportKey_eq {a b : Desired} (ha : a.Named) (hb : b.Named)
    (same : a.reportKey = b.reportKey) : a.identity = b.identity := by
  obtain ⟨kind, ns, name⟩ := Report.resourceKey_injective ha.1 hb.1 ha.2 hb.2 same
  rw [identity, identity, kind, ns, name]

theorem nodup_reportKeys {desired : List Desired} (distinct : (desired.map identity).Nodup)
    (names : ∀ d ∈ desired, d.Named) : (desired.map reportKey).Nodup := by
  refine List.pairwise_map.mpr ((List.pairwise_map.mp distinct).imp_of_mem ?_)
  intro a b ha hb different same
  exact different (identity_eq_of_reportKey_eq (names a ha) (names b hb) same)

end Desired

end Converge
