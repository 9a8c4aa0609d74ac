import Converge.Proofs.RoundTrip
import Mathlib

/-!
# Values with the same text

A value with finite numbers is known by its text: no two are written alike, and of a text that
begins with a written value it is clear where that ends. Nothing needs to be read back for this,
so numbers of all sizes, floating-point ones and any depth are included.
-/

namespace Converge.Json

/-- The character that a value other than a number begins with. -/
def lead : Json → Option Char
  | .null => some 'n'
  | .bool true => some 't'
  | .bool false => some 'f'
  | .str _ => some '"'
  | .arr _ => some '['
  | .obj _ => some '{'
  | _ => none

section Leads

variable {v w : Json}

theorem isFinite_of_finite (finite : v.finite = true) : v.isFinite = true := by
  cases v <;> first | rfl | exact finite

theorem lead_eq_none_iff (finite : v.isFinite = true) : v.lead = none ↔ v.isNumber = true := by
  rcases v with _ | (_ | _) | n | x | s | l | l <;> simp_all [lead, isNumber, isFinite]

theorem eq_of_lead (literal : v = .null ∨ ∃ b, v = .bool b) (same : v.lead = w.lead) : v = w := by
  rcases literal with rfl | ⟨_ | _, rfl⟩ <;> rcases w with _ | (_ | _) | _ | _ | _ | _ | _ <;>
    first | rfl | cases same

theorem exists_str_of_lead {s : String} (same : (Json.str s).lead = w.lead) : ∃ t, w = .str t := by
  rcases w with _ | (_ | _) | _ | _ | t | _ | _ <;> first | exact ⟨t, rfl⟩ | cases same

theorem exists_arr_of_lead {l : List Json} (same : (arr l).lead = w.lead) : ∃ l, w = .arr l := by
  rcases w with _ | (_ | _) | _ | _ | _ | l | _ <;> first | exact ⟨l, rfl⟩ | cases same

theorem exists_obj_of_lead {l : List (String × Json)} (same : (obj l).lead = w.lead) :
    ∃ l, w = .obj l := by
  rcases w with _ | (_ | _) | _ | _ | _ | _ | l <;> first | exact ⟨l, rfl⟩ | cases same

end Leads

section Tokens

variable {first second r r' : List Char}

/-- Where a number ends can be seen. -/
theorem append_inj_of_numeral (numeral : ∀ c ∈ first, isNumberChar c = true)
    (numeral' : ∀ c ∈ second, isNumberChar c = true) (ends : EndsNumber r)
    (ends' : EndsNumber r') (same : first ++ r = second ++ r') : first = second ∧ r = r' := by
  have cut {text rest : List Char} (numeral : ∀ c ∈ text, isNumberChar c = true)
      (ends : EndsNumber rest) : (text ++ rest).takeWhile isNumberChar = text := by
    have nothing : rest.takeWhile isNumberChar = [] := by
      cases rest with
      | nil => rfl
      | cons c rest => rw [List.takeWhile_cons, ends c rfl]; rfl
    rw [List.takeWhile_append_of_pos numeral, nothing, List.append_nil]
  have texts : first = second := by rw [← cut numeral ends, same, cut numeral' ends']
  rw [texts] at same
  exact ⟨texts, List.append_cancel_left same⟩

theorem writeString_cancel {s t : String} (same : writeString s ++ r = writeString t ++ r') :
    s = t ∧ r = r' := by
  have behind : s.toList.flatMap escapeChar ++ '"' :: r =
      t.toList.flatMap escapeChar ++ '"' :: r' := by
    simpa [writeString] using same
  have read := string_flatMap s (le_max_left s.toList.length t.toList.length) r
  rw [behind, string_flatMap t (le_max_right _ _) r'] at read
  cases read
  exact ⟨rfl, rfl⟩

end Tokens

section Alike

variable (form : Form) (level : ℕ) {v w : Json} {r r' : List Char}

/-- An integer and a floating-point number are not written alike. -/
theorem toString_ne_write (n : ℤ) (x : Binary64) :
    (toString n).toList ≠ (Decimal.Layout.document.write x).toList := by
  intro same
  obtain ⟨-, mark, -⟩ := Decimal.write_chars x
  rw [← same] at mark
  rcases mark with point | exponent
  · exact absurd (mem_toString_int point) (by decide)
  · exact absurd (mem_toString_int exponent) (by decide)

theorem isNumber_cases (number : v.isNumber = true) :
    (∃ n, v = .int n) ∨ ∃ x, v = .float x ∧ x.isFinite = true := by
  cases v with
  | int n => exact Or.inl ⟨n, rfl⟩
  | float x => exact Or.inr ⟨x, rfl, number⟩
  | _ => cases number

theorem write_number_injective (number : v.isNumber = true) (number' : w.isNumber = true)
    (same : write form level v = write form level w) : v = w := by
  have float {x : Binary64} (finite : x.isFinite = true) :
      write form level (.float x) = (Decimal.Layout.document.write x).toList := if_pos finite
  rcases isNumber_cases number with ⟨n, rfl⟩ | ⟨x, rfl, finite⟩ <;>
    rcases isNumber_cases number' with ⟨k, rfl⟩ | ⟨y, rfl, finite'⟩
  · exact congrArg Json.int (Int.repr_injective (String.toList_inj.mp same))
  · exact absurd (same.trans (float finite')) (toString_ne_write n y)
  · exact absurd (same.symm.trans (float finite)) (toString_ne_write k x)
  · rw [float finite, float finite'] at same
    exact congrArg Json.float (Decimal.write_injective (String.toList_inj.mp same))

/-- A value begins with its lead, a number with a character of numbers. -/
theorem write_lead (finite : v.isFinite = true) :
    ∃ c more, write form level v = c :: more ∧
      v.lead = if isNumberChar c then none else some c := by
  by_cases number : v.isNumber = true
  · obtain ⟨c, more, written, numeral⟩ := write_number form level number
    refine ⟨c, more, written, ?_⟩
    rw [if_pos (numeral c List.mem_cons_self)]
    rcases isNumber_cases number with ⟨n, rfl⟩ | ⟨x, rfl, -⟩ <;> rfl
  · cases v with
    | null => exact ⟨_, _, rfl, rfl⟩
    | bool b => cases b <;> exact ⟨_, _, rfl, rfl⟩
    | int n => exact absurd rfl number
    | float x => exact absurd finite number
    | str s => exact ⟨_, _, rfl, rfl⟩
    | arr items => cases items <;> exact ⟨_, _, rfl, rfl⟩
    | obj fields => cases fields <;> exact ⟨_, _, rfl, rfl⟩

theorem lead_eq (finite : v.isFinite = true) (finite' : w.isFinite = true)
    (same : write form level v ++ r = write form level w ++ r') : v.lead = w.lead := by
  obtain ⟨c, more, written, begins⟩ := write_lead form level finite
  obtain ⟨c', more', written', begins'⟩ := write_lead form level finite'
  rw [written, written', List.cons_append, List.cons_append] at same
  rw [begins, begins', (List.cons.inj same).1]

/-- Values without parts are known by their text, and where that ends can be seen. -/
theorem write_scalar_cancel (flat : v.depth = 0) (finite : v.isFinite = true)
    (finite' : w.isFinite = true) (ends : EndsNumber r) (ends' : EndsNumber r')
    (same : write form level v ++ r = write form level w ++ r') : v = w ∧ r = r' := by
  have leads := lead_eq form level finite finite' same
  have literal (literal : v = .null ∨ ∃ b, v = .bool b) : v = w ∧ r = r' := by
    cases eq_of_lead literal leads
    exact ⟨rfl, List.append_cancel_left same⟩
  have number (number : v.isNumber = true) : v = w ∧ r = r' := by
    have number' : w.isNumber = true := by
      rwa [← lead_eq_none_iff finite', ← leads, lead_eq_none_iff finite]
    obtain ⟨c, more, written, numeral⟩ := write_number form level number
    obtain ⟨c', more', written', numeral'⟩ := write_number form level number'
    rw [← written] at numeral
    rw [← written'] at numeral'
    obtain ⟨texts, rests⟩ := append_inj_of_numeral numeral numeral' ends ends' same
    exact ⟨write_number_injective form level number number' texts, rests⟩
  cases v with
  | null => exact literal (Or.inl rfl)
  | bool b => exact literal (Or.inr ⟨b, rfl⟩)
  | int n => exact number rfl
  | float x => exact number finite
  | str s =>
    obtain ⟨t, rfl⟩ := exists_str_of_lead leads
    exact (writeString_cancel same).imp (congrArg Json.str) id
  | arr items => cases flat
  | obj fields => cases flat

/-- No item is written like the end of an array. -/
theorem item_ne_close (v : Json) :
    form.lineBreak level ++ (write form level v ++ r) ≠ ']' :: r' := by
  obtain ⟨c, more, written, -, inside⟩ := write_head form level v
  intro same
  cases form with
  | compact =>
    rw [written] at same
    exact inside (List.cons.inj same).1
  | pretty => exact absurd (List.cons.inj same).1 (by decide)

/-- No field is written like the end of an object. -/
theorem field_ne_close (name : String) :
    form.lineBreak level ++ (writeString name ++ r) ≠ '}' :: r' := by
  intro same
  cases form <;> exact absurd (List.cons.inj same).1 (by decide)

/-- The end of an array or an object is not written like a further part. -/
theorem close_ne_comma {close : Char} (other : close ≠ ',') :
    form.lineBreak level ++ close :: r ≠ ',' :: r' := by
  intro same
  cases form with
  | compact => exact other (List.cons.inj same).1
  | pretty => exact absurd (List.cons.inj same).1 (by decide)

/-- Arrays with the same text are both empty, or their items are written alike. -/
theorem write_arr_cases {l k : List Json}
    (same : write form level (.arr l) ++ r = write form level (.arr k) ++ r') :
    (l = [] ∧ k = [] ∧ r = r') ∨ writeItems form level l ++ r = writeItems form level k ++ r' := by
  cases l with
  | nil =>
    cases k with
    | nil => exact Or.inl ⟨rfl, rfl, List.append_cancel_left same⟩
    | cons w k =>
      simp only [write, List.cons_append, List.cons.injEq, true_and, List.append_assoc] at same
      exact absurd same.symm (item_ne_close form (level + 1) w)
  | cons v l =>
    cases k with
    | nil =>
      simp only [write, List.cons_append, List.cons.injEq, true_and, List.append_assoc] at same
      exact absurd same (item_ne_close form (level + 1) v)
    | cons w k => exact Or.inr (congrArg (List.cons ',') (List.cons.inj same).2)

/-- Objects with the same text are both empty, or their fields are written alike. -/
theorem write_obj_cases {l k : List (String × Json)}
    (same : write form level (.obj l) ++ r = write form level (.obj k) ++ r') :
    (l = [] ∧ k = [] ∧ r = r') ∨ writeFields form level l ++ r = writeFields form level k ++ r' := by
  cases l with
  | nil =>
    cases k with
    | nil => exact Or.inl ⟨rfl, rfl, List.append_cancel_left same⟩
    | cons e k =>
      simp only [write, List.cons_append, List.cons.injEq, true_and, List.append_assoc] at same
      exact absurd same.symm (field_ne_close form (level + 1) e.1)
  | cons e l =>
    cases k with
    | nil =>
      simp only [write, List.cons_append, List.cons.injEq, true_and, List.append_assoc] at same
      exact absurd same (field_ne_close form (level + 1) e.1)
    | cons e' k => exact Or.inr (congrArg (List.cons ',') (List.cons.inj same).2)

end Alike

mutual
/-- A value is known by its text, and where that ends can be seen. The induction follows one of
the two values; the other one begins alike. -/
theorem write_cancel (form : Form) : ∀ (v w : Json) (level : ℕ) {r r' : List Char},
    v.finite = true → w.finite = true → EndsNumber r → EndsNumber r' →
    write form level v ++ r = write form level w ++ r' → v = w ∧ r = r'
  | .arr l, w, level, _, _, finite, finite', _, _, same => by
    have begins := lead_eq form level (v := .arr l) rfl (isFinite_of_finite finite') same
    obtain ⟨k, rfl⟩ := exists_arr_of_lead begins
    rcases write_arr_cases form level same with ⟨rfl, rfl, rests⟩ | same
    · exact ⟨rfl, rests⟩
    · obtain ⟨rfl, rests⟩ := writeItems_cancel form l k level finite finite' same
      exact ⟨rfl, rests⟩
  | .obj l, w, level, _, _, finite, finite', _, _, same => by
    have begins := lead_eq form level (v := .obj l) rfl (isFinite_of_finite finite') same
    obtain ⟨k, rfl⟩ := exists_obj_of_lead begins
    rcases write_obj_cases form level same with ⟨rfl, rfl, rests⟩ | same
    · exact ⟨rfl, rests⟩
    · obtain ⟨rfl, rests⟩ := writeFields_cancel form l k level finite finite' same
      exact ⟨rfl, rests⟩
  | .null, _, level, _, _, finite, finite', ends, ends', same =>
    write_scalar_cancel form level rfl finite (isFinite_of_finite finite') ends ends' same
  | .bool _, _, level, _, _, finite, finite', ends, ends', same =>
    write_scalar_cancel form level rfl finite (isFinite_of_finite finite') ends ends' same
  | .int _, _, level, _, _, finite, finite', ends, ends', same =>
    write_scalar_cancel form level rfl finite (isFinite_of_finite finite') ends ends' same
  | .float _, _, level, _, _, finite, finite', ends, ends', same =>
    write_scalar_cancel form level rfl finite (isFinite_of_finite finite') ends ends' same
  | .str _, _, level, _, _, finite, finite', ends, ends', same =>
    write_scalar_cancel form level rfl finite (isFinite_of_finite finite') ends ends' same

/-- Items are known by their text, with the closing bracket. -/
theorem writeItems_cancel (form : Form) : ∀ (l k : List Json) (level : ℕ) {r r' : List Char},
    everywhereItems isFinite l = true → everywhereItems isFinite k = true →
    writeItems form level l ++ r = writeItems form level k ++ r' → l = k ∧ r = r'
  | [], [], _, _, _, _, _, same => ⟨rfl, List.append_cancel_left same⟩
  | [], _ :: _, level, _, _, _, _, same => by
    rw [writeItems, List.append_assoc] at same
    exact absurd same (close_ne_comma form level (by decide))
  | _ :: _, [], level, _, _, _, _, same => by
    have same := same.symm
    rw [writeItems, List.append_assoc] at same
    exact absurd same (close_ne_comma form level (by decide))
  | v :: l, w :: k, level, r, r', finite, finite', same => by
    obtain ⟨first, others⟩ := Bool.and_eq_true_iff.mp finite
    obtain ⟨first', others'⟩ := Bool.and_eq_true_iff.mp finite'
    simp only [writeItems, List.cons_append, List.cons.injEq, true_and, List.append_assoc,
      List.append_cancel_left_eq] at same
    obtain ⟨rfl, behind⟩ := write_cancel form v w (level + 1) first first'
      (writeItems_ends form level l r) (writeItems_ends form level k r') same
    obtain ⟨rfl, rests⟩ := writeItems_cancel form l k level others others' behind
    exact ⟨rfl, rests⟩

/-- Fields are known by their text, with the closing brace. -/
theorem writeFields_cancel (form : Form) : ∀ (l k : List (String × Json)) (level : ℕ)
    {r r' : List Char}, everywhereFields isFinite l = true → everywhereFields isFinite k = true →
    writeFields form level l ++ r = writeFields form level k ++ r' → l = k ∧ r = r'
  | [], [], _, _, _, _, _, same => ⟨rfl, List.append_cancel_left same⟩
  | [], _ :: _, level, _, _, _, _, same => by
    rw [writeFields, List.append_assoc] at same
    exact absurd same (close_ne_comma form level (by decide))
  | _ :: _, [], level, _, _, _, _, same => by
    have same := same.symm
    rw [writeFields, List.append_assoc] at same
    exact absurd same (close_ne_comma form level (by decide))
  | (name, v) :: l, (name', w) :: k, level, r, r', finite, finite', same => by
    obtain ⟨first, others⟩ := Bool.and_eq_true_iff.mp finite
    obtain ⟨first', others'⟩ := Bool.and_eq_true_iff.mp finite'
    simp only [writeFields, List.cons_append, List.cons.injEq, true_and, List.append_assoc,
      List.append_cancel_left_eq] at same
    obtain ⟨rfl, separated⟩ := writeString_cancel same
    obtain ⟨rfl, behind⟩ := write_cancel form v w (level + 1) first first'
      (writeFields_ends form level l r) (writeFields_ends form level k r')
      (List.append_cancel_left separated)
    obtain ⟨rfl, rests⟩ := writeFields_cancel form l k level others others' behind
    exact ⟨rfl, rests⟩
end

/-- Values with finite numbers that are written alike are the same. -/
theorem pretty_injective {v w : Json} (finite : v.finite = true) (finite' : w.finite = true)
    (same : v.pretty = w.pretty) : v = w := by
  have texts : write .pretty 0 v ++ [] = write .pretty 0 w ++ [] := by
    rw [pretty, pretty] at same
    rw [List.append_nil, List.append_nil, String.ofList_inj.mp same]
  exact (write_cancel .pretty v w 0 finite finite' endsNumber_nil endsNumber_nil texts).1

end Converge.Json
