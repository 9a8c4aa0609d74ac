import Converge.Proofs.ReportKeys
import Converge.Proofs.Targets

/-!
# The language of names

A text is a name if it has at most 253 octets, all its characters are of the alphabet and its
first and last ones are letters or digits. The alphabet is a part of ASCII without capital
letters, so the case of a letter at an end need not be looked at, octets and characters are the
same in number, and two names with a hyphen or a dot between them make a name unless they are too
long together.
-/

namespace Converge

section Alphabet

variable {c : Char}

def IsLetterOrDigit (c : Char) : Prop := ('a' ≤ c ∧ c ≤ 'z') ∨ ('0' ≤ c ∧ c ≤ '9')

theorem isLower_iff : c.isLower = true ↔ 'a' ≤ c ∧ c ≤ 'z' :=
  Bool.and_eq_true_iff.trans (and_congr decide_eq_true_iff decide_eq_true_iff)

theorem isDigit_iff : c.isDigit = true ↔ '0' ≤ c ∧ c ≤ '9' :=
  Bool.and_eq_true_iff.trans (and_congr decide_eq_true_iff decide_eq_true_iff)

theorem isNameEnd_iff : isNameEnd c = true ↔ IsLetterOrDigit c := by
  rw [isNameEnd, Bool.or_eq_true, isLower_iff, isDigit_iff, IsLetterOrDigit]

theorem isNameChar_iff : isNameChar c = true ↔ IsLetterOrDigit c ∨ c = '-' ∨ c = '.' := by
  simp [isNameChar, isNameEnd_iff, or_assoc]

theorem code_of_isNameChar (fits : isNameChar c = true) :
    0x2d ≤ c.val.toNat ∧ c.val.toNat ≤ 0x39 ∨ 0x61 ≤ c.val.toNat ∧ c.val.toNat ≤ 0x7a := by
  apply Http.code_of_isPathChar
  rw [Http.isPathChar, fits, Bool.true_or]

theorem not_isUpper_of_isNameChar (fits : isNameChar c = true) : c.isUpper = false := by
  have code := code_of_isNameChar fits
  rw [← Bool.not_eq_true]
  intro upper
  have bounds : 'A'.val ≤ c.val ∧ c.val ≤ 'Z'.val := of_decide_eq_true upper
  rw [UInt32.le_iff_toNat_le, UInt32.le_iff_toNat_le] at bounds
  have lowest : 'A'.val.toNat = 0x41 := rfl
  have highest : 'Z'.val.toNat = 0x5a := rfl
  omega

theorem not_isNameChar_of_mark (mark : c ∈ ['/', '_', '"', ':', '=', ' ', '\n']) :
    isNameChar c = false := by
  simp only [List.mem_cons, List.not_mem_nil, or_false] at mark
  rcases mark with rfl | rfl | rfl | rfl | rfl | rfl | rfl <;> decide

theorem isAlphanum_eq : c.isAlphanum = (c.isUpper || isNameEnd c) :=
  Bool.or_assoc c.isUpper c.isLower c.isDigit

/-- Of the alphabet, what is a letter of either case or a digit may stand at an end. -/
theorem isNameEnd_of_isAlphanum (fits : isNameChar c = true) (edge : c.isAlphanum = true) :
    isNameEnd c = true := by
  rw [isAlphanum_eq, not_isUpper_of_isNameChar fits, Bool.false_or] at edge
  exact edge

theorem isAlphanum_of_isNameEnd (edge : isNameEnd c = true) : c.isAlphanum = true := by
  rw [isAlphanum_eq, edge, Bool.or_true]

end Alphabet

/-- The language of names, told by the length of a text, its characters and its ends. -/
structure NameShape (s : String) : Prop where
  nonempty : 1 ≤ s.utf8ByteSize
  short : s.utf8ByteSize ≤ 253
  letters : ∀ c ∈ s.toList, IsLetterOrDigit c ∨ c = '-' ∨ c = '.'
  starts : ∃ first, s.toList.head? = some first ∧ IsLetterOrDigit first
  ends : ∃ last, s.toList.getLast? = some last ∧ IsLetterOrDigit last

/-- The same language by checks that let the ends be letters of either case. -/
structure LooseShape (s : String) : Prop where
  short : s.utf8ByteSize ≤ 253
  letters : s.toList.all isNameChar = true
  edges : ∃ first last, s.toList.head? = some first ∧ s.toList.getLast? = some last ∧
    first.isAlphanum = true ∧ last.isAlphanum = true

section Shapes

variable {s : String}

theorem NameShape.loose (shape : NameShape s) : LooseShape s := by
  obtain ⟨first, starts, atFirst⟩ := shape.starts
  obtain ⟨last, ends, atLast⟩ := shape.ends
  refine ⟨shape.short, ?_, first, last, starts, ends, ?_, ?_⟩
  · exact List.all_eq_true.mpr fun c inside => isNameChar_iff.mpr (shape.letters c inside)
  · exact isAlphanum_of_isNameEnd (isNameEnd_iff.mpr atFirst)
  · exact isAlphanum_of_isNameEnd (isNameEnd_iff.mpr atLast)

theorem LooseShape.isName (shape : LooseShape s) : isName s = true := by
  obtain ⟨first, last, starts, ends, atFirst, atLast⟩ := shape.edges
  have fits : ∀ c ∈ s.toList, isNameChar c = true := List.all_eq_true.mp shape.letters
  have goodFirst : isNameEnd first = true :=
    isNameEnd_of_isAlphanum (fits first (List.mem_of_head? starts)) atFirst
  have goodLast : isNameEnd last = true :=
    isNameEnd_of_isAlphanum (fits last (List.mem_of_getLast? ends)) atLast
  rw [Converge.isName, shape.letters]
  cases letters : s.toList with
  | nil => rw [letters] at starts; cases starts
  | cons c rest =>
    rw [letters] at starts ends
    cases starts
    rw [List.getLast?_eq_some_getLast (by simp)] at ends
    simp only [Option.some.inj ends, goodFirst, goodLast, Bool.and_self, Bool.and_true]
    exact decide_eq_true shape.short

theorem NameShape.of_isName (good : isName s = true) : NameShape s := by
  have fits : ∀ c ∈ s.toList, isNameChar c = true := fun c inside => isNameChar_of_mem good inside
  rw [isName, Bool.and_eq_true, Bool.and_eq_true] at good
  obtain ⟨⟨short, -⟩, edges⟩ := good
  have inhabited : s.utf8ByteSize ≠ 0 := by
    intro none
    rw [String.utf8ByteSize_eq_zero_iff.mp none] at edges
    cases edges
  cases letters : s.toList with
  | nil => rw [letters] at edges; cases edges
  | cons c rest =>
    simp only [letters, Bool.and_eq_true] at edges
    refine ⟨by omega, of_decide_eq_true short, fun d inside => isNameChar_iff.mp (fits d inside),
      ⟨c, ?_, isNameEnd_iff.mp edges.1⟩, ⟨_, ?_, isNameEnd_iff.mp edges.2⟩⟩
    · rw [letters, List.head?_cons]
    · rw [letters, List.getLast?_eq_some_getLast]

theorem isName_iff_nameShape : isName s = true ↔ NameShape s :=
  ⟨NameShape.of_isName, fun shape => shape.loose.isName⟩

/-- The alphabet settles the case of the letters at the ends. -/
theorem isName_iff_looseShape : isName s = true ↔ LooseShape s :=
  ⟨fun good => (NameShape.of_isName good).loose, LooseShape.isName⟩

theorem checkName_ok_iff {what : String} : checkName what s = .ok () ↔ NameShape s := by
  rw [← isName_iff_nameShape]
  cases good : isName s with
  | true => simp [checkName_of_isName good]
  | false => simp [checkName_of_not_isName good]

theorem ascii_of_letters (letters : ∀ c ∈ s.toList, IsLetterOrDigit c ∨ c = '-' ∨ c = '.') :
    ∀ c ∈ s.toList, c.val.toNat < 128 := by
  intro c inside
  have code := code_of_isNameChar (isNameChar_iff.mpr (letters c inside))
  omega

/-- A text of ASCII has as many octets as characters. -/
theorem utf8ByteSize_of_ascii (ascii : ∀ c ∈ s.toList, c.val.toNat < 128) :
    s.utf8ByteSize = s.length := by
  have one : ∀ c ∈ s.toList, (String.utf8EncodeChar c).length = 1 := by
    intro c inside
    rw [String.length_utf8EncodeChar, Char.utf8Size_eq_one_iff, UInt32.le_iff_toNat_le]
    exact Nat.le_of_lt_succ (ascii c inside)
  calc s.utf8ByteSize
      = (s.toList.flatMap String.utf8EncodeChar).length := by
        rw [← String.size_toByteArray, ← String.utf8Encode_toList, List.utf8Encode,
          List.size_toByteArray]
    _ = (s.toList.map fun _ => 1).sum := by
        rw [List.length_flatMap, List.map_congr_left one]
    _ = s.length := by
        rw [List.map_const', List.sum_replicate_nat, Nat.mul_one, String.length_toList]

end Shapes

namespace NameShape

variable {s t : String} {mark : Char}

theorem fits (shape : NameShape s) {c : Char} (inside : c ∈ s.toList) : isNameChar c = true :=
  isNameChar_iff.mpr (shape.letters c inside)

theorem utf8ByteSize_eq (shape : NameShape s) : s.utf8ByteSize = s.length :=
  utf8ByteSize_of_ascii (ascii_of_letters shape.letters)

/-- Two names with a hyphen or a dot between them are a name, if they are short enough. -/
theorem join (first : NameShape s) (second : NameShape t) (joins : mark = '-' ∨ mark = '.')
    (short : (s ++ String.singleton mark ++ t).length ≤ 253) :
    NameShape (s ++ String.singleton mark ++ t) := by
  have parts : (s ++ String.singleton mark ++ t).toList = s.toList ++ mark :: t.toList := by
    simp [String.toList_append]
  have letters : ∀ c ∈ (s ++ String.singleton mark ++ t).toList,
      IsLetterOrDigit c ∨ c = '-' ∨ c = '.' := by
    intro c inside
    rw [parts, List.mem_append, List.mem_cons] at inside
    rcases inside with before | rfl | behind
    · exact first.letters c before
    · exact Or.inr joins
    · exact second.letters c behind
  -- the length is told in characters, the bound of the shape in octets
  have size := utf8ByteSize_of_ascii (ascii_of_letters letters)
  obtain ⟨c, starts, atFirst⟩ := first.starts
  obtain ⟨d, ends, atLast⟩ := second.ends
  refine ⟨?_, by omega, letters, ⟨c, ?_, atFirst⟩, ⟨d, ?_, atLast⟩⟩
  · have inhabited := first.nonempty
    rw [String.utf8ByteSize_append, String.utf8ByteSize_append]
    omega
  · rw [parts, List.head?_append, starts, Option.some_or]
  · rw [parts, List.getLast?_append, List.getLast?_cons, ends]
    rfl

theorem join_iff (first : NameShape s) (second : NameShape t) (joins : mark = '-' ∨ mark = '.') :
    NameShape (s ++ String.singleton mark ++ t) ↔
      (s ++ String.singleton mark ++ t).length ≤ 253 := by
  constructor
  · intro shape
    have short := shape.short
    rw [shape.utf8ByteSize_eq] at short
    exact short
  · intro short
    exact first.join second joins short

end NameShape

/-- Whatever the name is for, the check accepts the texts of the language and no others. What it
accepts is ASCII without capital letters and without the marks of paths, keys, quotations and
lines, and has as many octets as characters; two such texts are joined by a hyphen or a dot to
one that is accepted, unless it is longer than 253 characters. -/
theorem checkName_accepts_language (what s : String) :
    (checkName what s = .ok () ↔ NameShape s) ∧
    (checkName what s = .ok () →
      (∀ c ∈ s.toList, c.val.toNat < 128 ∧ c.isUpper = false ∧
        c ∉ ['/', '_', '"', ':', '=', ' ', '\n']) ∧
      s.utf8ByteSize = s.length) ∧
    ∀ (what' whole t : String) (mark : Char), checkName what s = .ok () →
      checkName what' t = .ok () → mark = '-' ∨ mark = '.' →
      (checkName whole (s ++ String.singleton mark ++ t) = .ok () ↔
        (s ++ String.singleton mark ++ t).length ≤ 253) := by
  refine ⟨checkName_ok_iff, ?_, ?_⟩
  · intro accepted
    have shape : NameShape s := checkName_ok_iff.mp accepted
    refine ⟨fun c inside => ⟨ascii_of_letters shape.letters c inside, ?_, ?_⟩,
      shape.utf8ByteSize_eq⟩
    · exact not_isUpper_of_isNameChar (shape.fits inside)
    · intro listed
      exact not_mem_of_isName shape.loose.isName (not_isNameChar_of_mark listed) inside
  · intro what' whole t mark accepted accepted' joins
    rw [checkName_ok_iff] at accepted accepted' ⊢
    exact accepted.join_iff accepted' joins

def drawnOut (n : Nat) : String := String.ofList (List.replicate n 'a')

/-- Two names of 126 characters may be joined, but not one of them and one of 127. -/
theorem drawnOut_accepted :
    checkName "Service" (drawnOut 126) = .ok () ∧ checkName "Route" (drawnOut 127) = .ok () ∧
    NameShape (drawnOut 126) ∧ (drawnOut 126).utf8ByteSize = (drawnOut 126).length ∧
    checkName "Secret" (drawnOut 126 ++ String.singleton '.' ++ drawnOut 126) = .ok () ∧
    checkName "Secret" (drawnOut 126 ++ String.singleton '-' ++ drawnOut 127) ≠ .ok () := by
  have short : checkName "Service" (drawnOut 126) = .ok () := by decide +kernel
  have long : checkName "Route" (drawnOut 127) = .ok () := by decide +kernel
  have length (m n : Nat) (mark : Char) :
      (drawnOut m ++ String.singleton mark ++ drawnOut n).length = m + 1 + n := by
    simp [drawnOut]
  obtain ⟨language, plain, joined⟩ := checkName_accepts_language "Service" (drawnOut 126)
  refine ⟨short, long, language.mp short, (plain short).2, ?_, ?_⟩
  · apply (joined "Service" "Secret" (drawnOut 126) '.' short short (Or.inr rfl)).mpr
    have size := length 126 126 '.'
    omega
  · intro accepted
    have bound := (joined "Route" "Secret" (drawnOut 127) '-' short long (Or.inl rfl)).mp accepted
    rw [length] at bound
    omega

end Converge
