import Converge.Json.Shape
import Converge.Proofs.FloatText

/-!
# Reading written values

A value in which all numbers are integers of 64 bits is read back from its text, in the same
order at every level, as long as it does not nest too deep.
-/

namespace Converge.Json

theorem skipBlanks_cons {c : Char} (visible : isBlankChar c = false) (rest : List Char) :
    skipBlanks (c :: rest) = c :: rest := by
  rw [skipBlanks, List.dropWhile_cons, visible]
  rfl

theorem skipBlanks_blank {c : Char} (blank : isBlankChar c = true) (rest : List Char) :
    skipBlanks (c :: rest) = skipBlanks rest := by
  rw [skipBlanks, List.dropWhile_cons, blank]
  rfl

theorem skipBlanks_lineBreak (form : Form) (level : ℕ) (rest : List Char) :
    skipBlanks (form.lineBreak level ++ rest) = skipBlanks rest := by
  have spaces (n : ℕ) : skipBlanks (List.replicate n ' ' ++ rest) = skipBlanks rest := by
    induction n with
    | zero => rfl
    | succ n ih => rw [List.replicate_succ, List.cons_append, skipBlanks_blank rfl, ih]
  cases form with
  | compact => rfl
  | pretty => rw [Form.lineBreak, List.cons_append, skipBlanks_blank rfl, spaces]

section Heads

variable (form : Form) (level : ℕ)

/-- A number is written with characters of numbers only. -/
theorem write_number {v : Json} (number : v.isNumber = true) :
    ∃ c more, write form level v = c :: more ∧ ∀ d ∈ c :: more, isNumberChar d = true := by
  cases v with
  | int n =>
    have numeral := numeral_toString n
    obtain ⟨c, more, written, -⟩ := exists_numeral n
    rw [written] at numeral
    exact ⟨c, more, written, numeral⟩
  | float x =>
    obtain ⟨numeral, -, some⟩ := Decimal.write_chars x
    obtain ⟨c, more, written⟩ := List.exists_cons_of_ne_nil some
    rw [written] at numeral
    refine ⟨c, more, ?_, numeral⟩
    rw [write, writeFloat, if_pos (by exact number), written]
  | _ => cases number

/-- A written value begins with a character that is no blank and closes no array. -/
theorem write_head (v : Json) :
    ∃ c more, write form level v = c :: more ∧ isBlankChar c = false ∧ c ≠ ']' := by
  by_cases number : v.isNumber = true
  · obtain ⟨c, more, written, numeral⟩ := write_number form level number
    have visible {d : Char} (other : isNumberChar d = false) : c ≠ d :=
      ne_of_isNumberChar (numeral c List.mem_cons_self) other
    refine ⟨c, more, written, ?_, visible rfl⟩
    simp only [isBlankChar, Bool.or_eq_false_iff, decide_eq_false_iff_not]
    exact ⟨⟨⟨visible rfl, visible rfl⟩, visible rfl⟩, visible rfl⟩
  cases v with
  | null => exact ⟨_, _, rfl, rfl, by decide⟩
  | bool b => cases b <;> exact ⟨_, _, rfl, rfl, by decide⟩
  | int n => exact absurd rfl number
  | float x => exact ⟨_, _, if_neg number, rfl, by decide⟩
  | str s => exact ⟨_, _, rfl, rfl, by decide⟩
  | arr items => cases items <;> exact ⟨_, _, rfl, rfl, by decide⟩
  | obj fields => cases fields <;> exact ⟨_, _, rfl, rfl, by decide⟩

theorem endsNumber_lineBreak {c : Char} (other : isNumberChar c = false) (rest : List Char) :
    EndsNumber (form.lineBreak level ++ c :: rest) := by
  cases form with
  | compact => exact endsNumber_cons other rest
  | pretty => exact endsNumber_cons (by decide) _

theorem writeItems_ends (items : List Json) (rest : List Char) :
    EndsNumber (writeItems form level items ++ rest) := by
  cases items with
  | nil =>
    rw [writeItems, List.append_assoc]
    exact endsNumber_lineBreak form level (by decide) rest
  | cons v items => exact endsNumber_cons (by decide) _

theorem writeFields_ends (fields : List (String × Json)) (rest : List Char) :
    EndsNumber (writeFields form level fields ++ rest) := by
  cases fields with
  | nil =>
    rw [writeFields, List.append_assoc]
    exact endsNumber_lineBreak form level (by decide) rest
  | cons e fields => exact endsNumber_cons (by decide) _

end Heads

/-- Between a field's name and its value stand a colon and blanks. -/
theorem separator_eq (form : Form) :
    ∃ blanks, form.separator = ':' :: blanks ∧
      ∀ rest, skipBlanks (blanks ++ rest) = skipBlanks rest := by
  cases form with
  | compact => exact ⟨[], rfl, fun rest => rfl⟩
  | pretty => exact ⟨[' '], rfl, fun rest => skipBlanks_blank rfl rest⟩

section Inside

variable (form : Form) (level : ℕ) (v : Json) (rest : List Char)

theorem skipBlanks_write :
    skipBlanks (write form level v ++ rest) = write form level v ++ rest := by
  obtain ⟨c, more, written, visible, -⟩ := write_head form level v
  rw [written, List.cons_append, skipBlanks_cons visible]

/-- What a reader finds where an item is written. -/
theorem item_begins :
    ∃ c more, skipBlanks (form.lineBreak level ++ (write form level v ++ rest)) = c :: more ∧
      c ≠ ']' ∧ skipBlanks (c :: more) = write form level v ++ rest := by
  obtain ⟨c, more, written, visible, inside⟩ := write_head form level v
  refine ⟨c, more ++ rest, ?_, inside, ?_⟩
  · rw [skipBlanks_lineBreak, skipBlanks_write form level v rest, written, List.cons_append]
  · rw [skipBlanks_cons visible, written, List.cons_append]

/-- What a reader finds where a field is written: its name, and the value behind it. -/
theorem field_begins (name : String) (fuel : ℕ)
    (enough : (writeString name).length ≤ fuel) :
    ∃ more behind, skipBlanks (form.lineBreak level ++ (writeString name ++ (form.separator ++
        (write form level v ++ rest)))) = '"' :: more ∧
      fieldName fuel more = .ok (name, behind) ∧
      skipBlanks behind = write form level v ++ rest := by
  obtain ⟨blanks, separates, skipped⟩ := separator_eq form
  have length := length_writeString name
  let behind := blanks ++ (write form level v ++ rest)
  have read := string_flatMap name (show name.toList.length ≤ fuel by omega) (':' :: behind)
  refine ⟨name.toList.flatMap escapeChar ++ '"' :: ':' :: behind, behind, ?_, ?_, ?_⟩
  · rw [skipBlanks_lineBreak, separates, writeString, List.cons_append, List.append_assoc,
      skipBlanks_cons (by decide)]
    rfl
  · simp only [fieldName, read, bind, Except.bind]
    rw [skipBlanks_cons (by decide)]
    rfl
  · rw [skipped, skipBlanks_write form level v rest]

end Inside

section Steps

variable {fuel depth : ℕ} {cs after behind rest : List Char} {c : Char} {more : List Char}
  {v : Json}

/-- What begins neither an array nor an object is read as a scalar. -/
theorem value_scalar (begins : skipBlanks cs = c :: more) (noArray : c ≠ '[')
    (noObject : c ≠ '{') : value (fuel + 1) depth cs = scalar fuel (c :: more) := by
  rw [value, begins]
  split
  · next same => exact absurd (List.cons.inj same).1 noArray
  · next same => exact absurd (List.cons.inj same).1 noObject
  · rfl

theorem value_arr {items : List Json} (begins : skipBlanks cs = '[' :: after)
    (text : skipBlanks after = c :: more) (open_ : c ≠ ']')
    (first : value fuel depth (c :: more) = .ok (v, behind))
    (others : Json.items fuel depth behind = .ok (items, rest)) :
    value (fuel + 1) (depth + 1) cs = .ok (.arr (v :: items), rest) := by
  rw [value, begins]
  simp only [text]
  split
  · next same => exact absurd (List.cons.inj same).1 open_
  · next same => cases same
  · simp only [first, others, bind, Except.bind, pure, Except.pure]

theorem value_obj {name : String} {fields : List (String × Json)}
    (begins : skipBlanks cs = '{' :: after) (text : skipBlanks after = '"' :: more)
    (named : fieldName fuel more = .ok (name, behind))
    {later : List Char} (first : value fuel depth behind = .ok (v, later))
    (others : Json.fields fuel depth later = .ok (fields, rest)) :
    value (fuel + 1) (depth + 1) cs = .ok (.obj ((name, v) :: fields), rest) := by
  rw [value, begins]
  simp only [text, named, first, others, bind, Except.bind, pure, Except.pure]

theorem items_nil (ends : skipBlanks cs = ']' :: rest) :
    items (fuel + 1) depth cs = .ok ([], rest) := by
  rw [items, ends]
  rfl

theorem items_cons {items : List Json} (begins : skipBlanks cs = ',' :: after)
    (text : skipBlanks after = c :: more) (open_ : c ≠ ']')
    (first : value fuel depth (c :: more) = .ok (v, behind))
    (others : Json.items fuel depth behind = .ok (items, rest)) :
    Json.items (fuel + 1) depth cs = .ok (v :: items, rest) := by
  rw [Json.items, begins]
  simp only [text]
  split
  · next same => exact absurd (List.cons.inj same).1 open_
  · next same => cases same
  · simp only [first, others, bind, Except.bind, pure, Except.pure]

theorem fields_nil (ends : skipBlanks cs = '}' :: rest) :
    fields (fuel + 1) depth cs = .ok ([], rest) := by
  rw [fields, ends]
  rfl

theorem fields_cons {name : String} {fields : List (String × Json)}
    (begins : skipBlanks cs = ',' :: after) (text : skipBlanks after = '"' :: more)
    (named : fieldName fuel more = .ok (name, behind))
    {later : List Char} (first : value fuel depth behind = .ok (v, later))
    (others : Json.fields fuel depth later = .ok (fields, rest)) :
    Json.fields (fuel + 1) depth cs = .ok ((name, v) :: fields, rest) := by
  rw [Json.fields, begins]
  simp only [text, named, first, others, bind, Except.bind, pure, Except.pure]

end Steps

theorem value_writeScalar (form : Form) {v : Json} (flat : v.depth = 0) (level : ℕ)
    {fuel depth : ℕ} {cs rest : List Char} (integral : v.integral = true)
    (enough : (write form level v).length ≤ fuel + 1) (ends : EndsNumber rest)
    (begins : skipBlanks cs = write form level v ++ rest) :
    value (fuel + 1) depth cs = .ok (v, rest) := by
  cases v with
  | null => exact value_scalar begins (by decide) (by decide)
  | bool b => cases b <;> exact value_scalar begins (by decide) (by decide)
  | int n =>
    obtain ⟨c, more, written, number⟩ := exists_numeral n
    have read := scalar_int integral ends fuel
    have begins : skipBlanks cs = (toString n).toList ++ rest := begins
    rw [written, List.cons_append] at read begins
    rw [value_scalar begins (ne_of_isNumberChar number (by decide))
      (ne_of_isNumberChar number (by decide)), read]
  | float x => cases integral
  | str s =>
    have length := length_writeString s
    have enough : (writeString s).length ≤ fuel + 1 := enough
    have read := string_flatMap s (show s.toList.length ≤ fuel by omega) rest
    have begins : skipBlanks cs = '"' :: (s.toList.flatMap escapeChar ++ '"' :: rest) := by
      simpa [write, writeString] using begins
    rw [value_scalar begins (by decide) (by decide)]
    simp only [scalar, read, bind, Except.bind, pure, Except.pure]
  | arr items => cases flat
  | obj fields => cases flat

mutual
/-- A value is read back from its text. The induction follows the value; the blanks before it
and what stands behind it are arbitrary, as they are inside arrays and objects. -/
theorem value_write (form : Form) : ∀ (v : Json) (level : ℕ) {fuel depth : ℕ} {cs rest : List Char},
    v.integral = true → v.depth ≤ depth → (write form level v).length ≤ fuel → EndsNumber rest →
    skipBlanks cs = write form level v ++ rest → value fuel depth cs = .ok (v, rest)
  | v, level, 0, _, _, _, integral, _, enough, _, _ => by
    obtain ⟨c, more, written, -⟩ := write_head form level v
    rw [written] at enough
    cases enough
  | .null, level, _ + 1, _, _, _, integral, _, enough, ends, begins =>
    value_writeScalar form rfl level integral enough ends begins
  | .bool _, level, _ + 1, _, _, _, integral, _, enough, ends, begins =>
    value_writeScalar form rfl level integral enough ends begins
  | .int _, level, _ + 1, _, _, _, integral, _, enough, ends, begins =>
    value_writeScalar form rfl level integral enough ends begins
  | .float _, level, _ + 1, _, _, _, integral, _, enough, ends, begins =>
    value_writeScalar form rfl level integral enough ends begins
  | .str _, level, _ + 1, _, _, _, integral, _, enough, ends, begins =>
    value_writeScalar form rfl level integral enough ends begins
  | .arr _, _, _, 0, _, _, _, shallow, _, _, _ => by cases shallow
  | .obj _, _, _, 0, _, _, _, shallow, _, _, _ => by cases shallow
  | .arr [], _, fuel + 1, depth + 1, cs, rest, _, _, _, _, begins => by
    rw [value, begins]
    rfl
  | .obj [], _, fuel + 1, depth + 1, cs, rest, _, _, _, _, begins => by
    rw [value, begins]
    rfl
  | .arr (v :: items), level, fuel + 1, depth + 1, cs, rest, integral, shallow, enough, _,
    begins => by
    have integral : everywhereItems isIntegral (v :: items) = true := integral
    obtain ⟨first, others⟩ := Bool.and_eq_true_iff.mp integral
    rw [Json.depth, itemsDepth] at shallow
    simp only [write, List.length_cons, List.length_append] at enough
    have begins : skipBlanks cs = '[' :: (form.lineBreak (level + 1) ++
        (write form (level + 1) v ++ (writeItems form level items ++ rest))) := by
      simpa [write] using begins
    obtain ⟨c, more, text, inside, again⟩ :=
      item_begins form (level + 1) v (writeItems form level items ++ rest)
    have read : value fuel depth (c :: more) = .ok (v, writeItems form level items ++ rest) :=
      value_write form v (level + 1) first (by omega) (by omega)
        (writeItems_ends form level items rest) again
    exact value_arr begins text inside read
      (items_write form items level others (by omega) (by omega))
  | .obj ((name, v) :: fields), level, fuel + 1, depth + 1, cs, rest, integral, shallow, enough, _,
    begins => by
    have integral : everywhereFields isIntegral ((name, v) :: fields) = true := integral
    obtain ⟨first, others⟩ := Bool.and_eq_true_iff.mp integral
    rw [Json.depth, fieldsDepth] at shallow
    simp only [write, List.length_cons, List.length_append] at enough
    have begins : skipBlanks cs = '{' :: (form.lineBreak (level + 1) ++ (writeString name ++
        (form.separator ++ (write form (level + 1) v ++
          (writeFields form level fields ++ rest))))) := by
      simpa [write] using begins
    obtain ⟨more, behind, text, named, again⟩ := field_begins form (level + 1) v
      (writeFields form level fields ++ rest) name fuel (by omega)
    have read : value fuel depth behind = .ok (v, writeFields form level fields ++ rest) :=
      value_write form v (level + 1) first (by omega) (by omega)
        (writeFields_ends form level fields rest) again
    exact value_obj begins text named read
      (fields_write form fields level others (by omega) (by omega))

/-- The items behind an item are read back, with the closing bracket. -/
theorem items_write (form : Form) : ∀ (l : List Json) (level : ℕ) {fuel depth : ℕ}
    {rest : List Char}, everywhereItems isIntegral l = true → itemsDepth l ≤ depth →
    (writeItems form level l).length ≤ fuel →
    items fuel depth (writeItems form level l ++ rest) = .ok (l, rest)
  | [], level, 0, _, _, _, _, enough => by simp [writeItems] at enough
  | _ :: _, level, 0, _, _, _, _, enough => by simp [writeItems] at enough
  | [], level, fuel + 1, _, rest, _, _, _ => by
    refine items_nil ?_
    rw [writeItems, List.append_assoc, skipBlanks_lineBreak, List.singleton_append,
      skipBlanks_cons (by decide)]
  | v :: l, level, fuel + 1, depth, rest, integral, shallow, enough => by
    obtain ⟨first, others⟩ := Bool.and_eq_true_iff.mp integral
    rw [itemsDepth] at shallow
    simp only [writeItems, List.length_cons, List.length_append] at enough
    have begins : skipBlanks (writeItems form level (v :: l) ++ rest) =
        ',' :: (form.lineBreak (level + 1) ++ (write form (level + 1) v ++
          (writeItems form level l ++ rest))) := by
      rw [writeItems, List.cons_append, skipBlanks_cons (by decide)]
      simp
    obtain ⟨c, more, text, inside, again⟩ :=
      item_begins form (level + 1) v (writeItems form level l ++ rest)
    have read : value fuel depth (c :: more) = .ok (v, writeItems form level l ++ rest) :=
      value_write form v (level + 1) first (by omega) (by omega)
        (writeItems_ends form level l rest) again
    exact items_cons begins text inside read
      (items_write form l level others (by omega) (by omega))

/-- The fields behind a field are read back, with the closing brace. -/
theorem fields_write (form : Form) : ∀ (l : List (String × Json)) (level : ℕ) {fuel depth : ℕ}
    {rest : List Char}, everywhereFields isIntegral l = true → fieldsDepth l ≤ depth →
    (writeFields form level l).length ≤ fuel →
    fields fuel depth (writeFields form level l ++ rest) = .ok (l, rest)
  | [], level, 0, _, _, _, _, enough => by simp [writeFields] at enough
  | _ :: _, level, 0, _, _, _, _, enough => by simp [writeFields] at enough
  | [], level, fuel + 1, _, rest, _, _, _ => by
    refine fields_nil ?_
    rw [writeFields, List.append_assoc, skipBlanks_lineBreak, List.singleton_append,
      skipBlanks_cons (by decide)]
  | (name, v) :: l, level, fuel + 1, depth, rest, integral, shallow, enough => by
    obtain ⟨first, others⟩ := Bool.and_eq_true_iff.mp integral
    rw [fieldsDepth] at shallow
    simp only [writeFields, List.length_cons, List.length_append] at enough
    have begins : skipBlanks (writeFields form level ((name, v) :: l) ++ rest) =
        ',' :: (form.lineBreak (level + 1) ++ (writeString name ++ (form.separator ++
          (write form (level + 1) v ++ (writeFields form level l ++ rest))))) := by
      rw [writeFields, List.cons_append, skipBlanks_cons (by decide)]
      simp
    obtain ⟨more, behind, text, named, again⟩ := field_begins form (level + 1) v
      (writeFields form level l ++ rest) name fuel (by omega)
    have read : value fuel depth behind = .ok (v, writeFields form level l ++ rest) :=
      value_write form v (level + 1) first (by omega) (by omega)
        (writeFields_ends form level l rest) again
    exact fields_cons begins text named read
      (fields_write form l level others (by omega) (by omega))
end

/-- A text is read as the value it was written from. -/
theorem document_write (form : Form) {v : Json} (integral : v.integral = true)
    (shallow : v.depth ≤ maxDepth) : document (write form 0 v) = .ok v := by
  have begins := skipBlanks_write form 0 v []
  rw [List.append_nil] at begins
  have read : value (2 * (write form 0 v).length + 2) maxDepth (write form 0 v) = .ok (v, []) :=
    value_write form v 0 integral shallow (by omega) endsNumber_nil
      (begins.trans (List.append_nil _).symm)
  simp only [document, read, bind, Except.bind, skipBlanks, List.dropWhile_nil, pure, Except.pure]

theorem read_write (form : Form) {v : Json} (integral : v.integral = true)
    (shallow : v.depth ≤ maxDepth) : read (String.ofList (write form 0 v)) = .ok v := by
  rw [read, String.toList_ofList, document_write form integral shallow]
  rfl

/-- A value in which no field is given twice is what its text says. -/
theorem parse_pretty {v : Json} (integral : v.integral = true) (shallow : v.depth ≤ maxDepth)
    (settled : v.normalize = v) : parse v.pretty = .ok v := by
  rw [parse, pretty, read_write .pretty integral shallow, Except.map, settled]

end Converge.Json
