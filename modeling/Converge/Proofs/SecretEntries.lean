import Converge.Proofs.Base64
import Converge.Proofs.Built
import Mathlib.Data.List.Induction

/-!
# The entries of a secret

A secret can be given by literals, each a key, an equals sign and a value, in which further equals
signs may stand. In the data of the secret every key stands once, in the place of its first
literal, and what stands there in base64 are the octets of the value in its last literal.
-/

namespace Converge

/-- A text is cut at the first separator in it. -/
theorem Text.cutAt_of_mem {separator : Char} {text : List Char} (inside : separator ∈ text) :
    cutAt separator text =
      some (text.takeWhile (· ≠ separator), (text.dropWhile (· ≠ separator)).tail) := by
  induction text with
  | nil => cases inside
  | cons c rest ih =>
    by_cases here : c = separator
    · simp [cutAt, here]
    · have later : separator ∈ rest := (List.mem_cons.mp inside).resolve_left (Ne.symm here)
      simp [cutAt, here, ih later]

section Writing

variable {κ α : Type} [DecidableEq κ]

theorem Entries.putAll_append (old first later : List (κ × α)) :
    putAll old (first ++ later) = putAll (putAll old first) later := by
  simp only [putAll, List.foldl_append]

/-- The keys of a table are those of the list it is made of, each in its first place. -/
theorem Table.keys_ofList (l : List (κ × α)) :
    (Table.ofList l).keys = (l.map Prod.fst).eraseDups := by
  induction l using List.reverseRecOn with
  | nil => rfl
  | append_singleton l e ih =>
    have step : (Table.ofList (l ++ [e])).entries =
        Entries.put e.1 e.2 (Table.ofList l).entries := Entries.putAll_append [] l [e]
    have same : e.1 ∈ (Table.ofList l).keys ↔ e.1 ∈ l.map Prod.fst := by
      rw [ih, List.mem_eraseDups]
    rw [keys, step, List.map_append, List.map_singleton, List.eraseDups_append, ← ih]
    by_cases known : e.1 ∈ l.map Prod.fst
    · rw [Entries.put_keys_of_mem (same.mpr known)]
      simp [keys, List.cons_removeAll, known]
    · rw [Entries.put_of_not_mem (mt same.mp known)]
      simp [keys, List.cons_removeAll, known, List.eraseDups_cons]

/-- Under a key stands what was written there last. -/
theorem Table.get?_ofList_of_last {first later : List (κ × α)} {k : κ} {v : α}
    (last : k ∉ later.map Prod.fst) :
    (Table.ofList (first ++ (k, v) :: later)).get? k = some v := by
  have written : (Table.ofList (first ++ (k, v) :: later)).entries =
      Entries.putAll (Entries.put k v (Entries.putAll [] first)) later :=
    Entries.putAll_append [] first ((k, v) :: later)
  rw [get?, written, Entries.get?_putAll_of_not_mem last, Entries.get?_put_self]

theorem Table.get?_mapValues {β : Type} (f : α → β) (t : Table κ α) (k : κ) :
    (t.mapValues f).get? k = (t.get? k).map f :=
  Entries.get?_map f k t.entries

end Writing

namespace Secret

/-- The key of a literal: what stands before its first equals sign. -/
def literalKey (literal : String) : String := String.ofList (literal.toList.takeWhile (· ≠ '='))

def literalValue (literal : String) : String :=
  String.ofList (literal.toList.dropWhile (· ≠ '=')).tail

def literalEntry (literal : String) : String × String := (literalKey literal, literalValue literal)

variable {name ns : String} {literals : List String}

/-- Entries are read from literals if each has an equals sign. -/
theorem entriesOf_ok_iff {entries : List (String × String)} :
    entriesOf literals = .ok entries ↔
      (∀ l ∈ literals, '=' ∈ l.toList) ∧ entries = literals.map literalEntry := by
  induction literals generalizing entries with
  | nil => simp [entriesOf, eq_comm]
  | cons l rest ih =>
    rw [entriesOf, Text.splitOnce]
    by_cases cut : '=' ∈ l.toList
    · rw [Text.cutAt_of_mem cut]
      have read : (do return literalEntry l :: (← entriesOf rest) : Except Invalid _) =
          .ok entries ↔ ∃ more, entriesOf rest = .ok more ∧ entries = literalEntry l :: more := by
        rw [bind_ok_iff]
        simp [pure, Except.pure, eq_comm]
      refine read.trans ?_
      simp only [ih, List.forall_mem_cons, cut, true_and, List.map_cons]
      constructor
      · rintro ⟨_, ⟨each, rfl⟩, rfl⟩
        exact ⟨each, rfl⟩
      · rintro ⟨each, rfl⟩
        exact ⟨_, ⟨each, rfl⟩, rfl⟩
    · rw [Text.cutAt_eq_none_iff.mpr cut]
      simp [cut]

theorem ofLiterals_ok_iff {s : Secret} :
    ofLiterals name literals = .ok s ↔ (∀ l ∈ literals, '=' ∈ l.toList) ∧
      s = ⟨name, .empty, Table.ofList (literals.map literalEntry), opaqueType⟩ := by
  simp only [ofLiterals, bind_ok_iff, entriesOf_ok_iff, pure, Except.pure, Except.ok.injEq]
  constructor
  · rintro ⟨_, ⟨each, rfl⟩, rfl⟩
    exact ⟨each, rfl⟩
  · rintro ⟨each, rfl⟩
    exact ⟨_, ⟨each, rfl⟩, rfl⟩

/-- A secret is built if it has a name and no key is empty. -/
theorem build_ok_iff {s : Secret} :
    (∃ d, s.build ns = .ok d) ↔ isName s.name = true ∧ "" ∉ s.data.keys := by
  simp only [build, checkName_then_iff, exists_and_left]
  refine and_congr_right fun _ => ?_
  cases found : s.data.keys.find? String.isEmpty with
  | some key =>
    have empty : key = "" := by simpa using List.find?_some found
    subst empty
    simp [List.mem_of_find?_eq_some found, throw, throwThe, MonadExceptOf.throw]
  | none =>
    have filled : "" ∉ s.data.keys := fun inside => List.find?_eq_none.mp found "" inside rfl
    simp [filled, pure, Except.pure]

theorem literalKey_eq_empty_iff {literal : String} (cut : '=' ∈ literal.toList) :
    literalKey literal = "" ↔ literal.toList.head? = some '=' := by
  rw [literalKey, String.ofList_eq_empty_iff]
  cases characters : literal.toList with
  | nil => simp [characters] at cut
  | cons c rest => by_cases mark : c = '=' <;> simp [mark]

theorem ofLiterals_then_build_iff {d : Descriptor} :
    (ofLiterals name literals >>= fun s => s.build ns) = .ok d ↔
      (∀ l ∈ literals, '=' ∈ l.toList) ∧
        build ⟨name, .empty, Table.ofList (literals.map literalEntry), opaqueType⟩ ns = .ok d := by
  rw [bind_ok_iff]
  constructor
  · rintro ⟨s, made, built⟩
    obtain ⟨each, rfl⟩ := ofLiterals_ok_iff.mp made
    exact ⟨each, built⟩
  · rintro ⟨each, built⟩
    exact ⟨_, ofLiterals_ok_iff.mpr ⟨each, rfl⟩, built⟩

theorem keys_ofLiterals (literals : List String) :
    (Table.ofList (literals.map literalEntry)).keys = (literals.map literalKey).eraseDups := by
  rw [Table.keys_ofList, List.map_map]
  rfl

theorem not_mem_keys_ofLiterals (each : ∀ l ∈ literals, '=' ∈ l.toList) :
    "" ∉ (Table.ofList (literals.map literalEntry)).keys ↔
      ∀ l ∈ literals, l.toList.head? ≠ some '=' := by
  rw [keys_ofLiterals, List.mem_eraseDups, List.mem_map, not_exists]
  refine forall_congr' fun l => not_and.trans (forall_congr' fun listed => ?_)
  rw [literalKey_eq_empty_iff (each l listed)]

/-- Of the literals with a key, the last one counts. -/
theorem get?_ofLiterals_of_last {first later : List String} {l : String}
    (last : literalKey l ∉ later.map literalKey) :
    (Table.ofList ((first ++ l :: later).map literalEntry)).get? (literalKey l) =
      some (literalValue l) := by
  rw [List.map_append, List.map_cons, literalEntry]
  refine Table.get?_ofList_of_last ?_
  rw [List.map_map]
  exact last

/-- The data of a secret that is built are its entries, with their values in base64. -/
theorem build_data {s : Secret} {d : Descriptor} (built : s.build ns = .ok d) :
    d.manifest.field? "data" = some (Json.ofTable (s.data.mapValues encoded)) := by
  have built : (Config.secret s).build ns = .ok d := built
  rw [Descriptor.manifest_eq (Config.sends_build built).keepsHead, Config.build_body built]
  rfl

/-- A secret is made of literals if each has an equals sign that is not its first character, and
the secret has a name. Its data then have the keys of the literals, each once and in the order of
their first literals, and under each key in base64 the octets of the value in its last literal. -/
theorem literals_survive (name ns : String) (literals : List String) :
    ((∃ d, (ofLiterals name literals >>= fun s => s.build ns) = .ok d) ↔
      (∀ l ∈ literals, '=' ∈ l.toList) ∧ (∀ l ∈ literals, l.toList.head? ≠ some '=') ∧
        isName name = true) ∧
    ∀ d, (ofLiterals name literals >>= fun s => s.build ns) = .ok d →
      ∃ data, d.manifest.field? "data" = some (.obj data) ∧
        data.map Prod.fst = (literals.map literalKey).eraseDups ∧
        ∀ first l later, literals = first ++ l :: later → literalKey l ∉ later.map literalKey →
          ∃ text, Entries.get? (literalKey l) data = some (.str text) ∧
            Text.Base64.decode text.toList = some (Text.Utf8.encode (literalValue l)) := by
  constructor
  · simp only [ofLiterals_then_build_iff, exists_and_left]
    refine and_congr_right fun each => ?_
    rw [build_ok_iff, not_mem_keys_ofLiterals each, and_comm]
  · intro d done
    obtain ⟨_, built⟩ := ofLiterals_then_build_iff.mp done
    refine ⟨_, build_data built, ?_, ?_⟩
    · rw [← keys_ofLiterals]
      simp [Table.keys, Table.mapValues]
    · rintro first l later rfl last
      have found := Table.get?_mapValues encoded
        (Table.ofList ((first ++ l :: later).map literalEntry)) (literalKey l)
      rw [get?_ofLiterals_of_last last] at found
      refine ⟨_, found, ?_⟩
      rw [String.toList_ofList, Text.Base64.decode_encode]

/-- A key is given twice, and both its values have equals signs. -/
theorem literals_survive_repeated :
    ∃ d data text,
      (ofLiterals "creds" ["token=a=b", "user=admin", "token==ключ"] >>=
        fun s => s.build "shop") = .ok d ∧
      d.manifest.field? "data" = some (.obj data) ∧ data.map Prod.fst = ["token", "user"] ∧
      Entries.get? "token" data = some (.str text) ∧
      Text.Base64.decode text.toList = some (Text.Utf8.encode "=ключ") := by
  obtain ⟨made, data⟩ :=
    literals_survive "creds" "shop" ["token=a=b", "user=admin", "token==ключ"]
  obtain ⟨d, built⟩ := made.mpr ⟨by decide, by decide, by decide⟩
  obtain ⟨data, found, keys, survive⟩ := data d built
  obtain ⟨text, here, read⟩ := survive ["token=a=b", "user=admin"] _ [] rfl (by decide)
  have key : literalKey "token==ключ" = "token" := by decide
  have value : literalValue "token==ключ" = "=ключ" := by decide
  rw [key] at here
  rw [value] at read
  exact ⟨d, data, text, built, found, keys.trans (by decide), here, read⟩

end Secret

end Converge
