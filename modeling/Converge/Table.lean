/-!
# Tables

A table is a finite map that remembers the order in which its keys were first
written. Writing a key that is already there changes its value and keeps its
place. Keys are distinct by construction, so a table is determined by the list
of its entries and a look-up never has to choose.
-/

namespace Converge

/-- Entries with pairwise distinct keys, in the order of their first writing. -/
structure Table (κ : Type) (α : Type) where
  entries : List (κ × α)
  distinct : (entries.map Prod.fst).Nodup

namespace Entries

variable {κ α : Type} [DecidableEq κ]

/-- The value of the first entry with a key. -/
def get? (k : κ) : List (κ × α) → Option α
  | [] => none
  | (k', v) :: rest => if k' = k then some v else get? k rest

/-- Write a value: in the place of the key if it is there, else at the end. -/
def put (k : κ) (v : α) : List (κ × α) → List (κ × α)
  | [] => [(k, v)]
  | (k', v') :: rest => if k' = k then (k, v) :: rest else (k', v') :: put k v rest

/-- Drop the first entry with a key. -/
def erase (k : κ) : List (κ × α) → List (κ × α)
  | [] => []
  | (k', v') :: rest => if k' = k then rest else (k', v') :: erase k rest

/-- Write entries one after another, so that a repeated key keeps its first
place and its last value. -/
def putAll (old new : List (κ × α)) : List (κ × α) :=
  new.foldl (fun acc e => put e.1 e.2 acc) old

theorem put_keys_of_mem {k : κ} {v : α} {l : List (κ × α)} (h : k ∈ l.map Prod.fst) :
    (put k v l).map Prod.fst = l.map Prod.fst := by
  induction l with
  | nil => simp at h
  | cons e rest ih =>
    obtain ⟨k', v'⟩ := e
    by_cases hk : k' = k
    · simp [put, hk]
    · have hrest : k ∈ rest.map Prod.fst := by
        simp only [List.map_cons, List.mem_cons] at h
        exact h.resolve_left (fun he => hk he.symm)
      simp only [put, if_neg hk, List.map_cons, ih hrest]

theorem put_of_not_mem {k : κ} {v : α} {l : List (κ × α)} (h : k ∉ l.map Prod.fst) :
    put k v l = l ++ [(k, v)] := by
  induction l with
  | nil => rfl
  | cons e rest ih =>
    obtain ⟨k', v'⟩ := e
    simp only [List.map_cons, List.mem_cons, not_or] at h
    simp only [put, if_neg (fun he : k' = k => h.1 he.symm), ih h.2, List.cons_append]

theorem nodup_put {k : κ} {v : α} {l : List (κ × α)} (h : (l.map Prod.fst).Nodup) :
    ((put k v l).map Prod.fst).Nodup := by
  by_cases hk : k ∈ l.map Prod.fst
  · rw [put_keys_of_mem hk]; exact h
  · rw [put_of_not_mem hk, List.map_append, List.nodup_append]
    refine ⟨h, by simp, ?_⟩
    intro a ha b hb
    simp only [List.map_cons, List.map_nil, List.mem_singleton] at hb
    exact fun hab => hk (hb ▸ hab ▸ ha)

theorem erase_sublist (k : κ) (l : List (κ × α)) : (erase k l).Sublist l := by
  induction l with
  | nil => exact .slnil
  | cons e rest ih =>
    obtain ⟨k', v'⟩ := e
    by_cases hk : k' = k
    · simp [erase, hk]
    · simp only [erase, if_neg hk]; exact ih.cons_cons _

theorem nodup_erase {k : κ} {l : List (κ × α)} (h : (l.map Prod.fst).Nodup) :
    ((erase k l).map Prod.fst).Nodup :=
  ((erase_sublist k l).map Prod.fst).nodup h

theorem nodup_putAll {old new : List (κ × α)} (h : (old.map Prod.fst).Nodup) :
    ((putAll old new).map Prod.fst).Nodup := by
  induction new generalizing old with
  | nil => exact h
  | cons e rest ih => exact ih (nodup_put h)

theorem get?_put_self (k : κ) (v : α) (l : List (κ × α)) : get? k (put k v l) = some v := by
  induction l with
  | nil => simp [put, get?]
  | cons e rest ih =>
    obtain ⟨k', v'⟩ := e
    by_cases hk : k' = k
    · simp [put, get?, hk]
    · simp [put, get?, hk, ih]

theorem get?_put_of_ne {k j : κ} (h : k ≠ j) (v : α) (l : List (κ × α)) :
    get? j (put k v l) = get? j l := by
  induction l with
  | nil => simp [put, get?, h]
  | cons e rest ih =>
    obtain ⟨k', v'⟩ := e
    by_cases hk : k' = k
    · subst hk; simp [put, get?, h]
    · simp only [put, if_neg hk, get?, ih]

theorem mem_keys_put {k j : κ} {v : α} {l : List (κ × α)} :
    j ∈ (put k v l).map Prod.fst ↔ j = k ∨ j ∈ l.map Prod.fst := by
  by_cases hk : k ∈ l.map Prod.fst
  · rw [put_keys_of_mem hk]
    exact ⟨Or.inr, fun h => h.elim (fun he => he ▸ hk) id⟩
  · rw [put_of_not_mem hk, List.map_append, List.mem_append]
    simp [or_comm]

theorem get?_putAll_of_not_mem {k : κ} {old new : List (κ × α)} (h : k ∉ new.map Prod.fst) :
    get? k (putAll old new) = get? k old := by
  induction new generalizing old with
  | nil => rfl
  | cons e rest ih =>
    simp only [List.map_cons, List.mem_cons, not_or] at h
    exact (ih h.2).trans (get?_put_of_ne (fun he => h.1 he.symm) e.2 old)

theorem get?_eq_none_iff {k : κ} {l : List (κ × α)} :
    get? k l = none ↔ k ∉ l.map Prod.fst := by
  induction l with
  | nil => simp [get?]
  | cons e rest ih =>
    obtain ⟨k', v'⟩ := e
    by_cases hk : k' = k
    · simp [get?, hk]
    · have hk' : ¬ k = k' := fun he => hk he.symm
      simp only [get?, if_neg hk, List.map_cons, List.mem_cons, hk', false_or]
      exact ih

theorem get?_erase_of_ne {k j : κ} (h : k ≠ j) (l : List (κ × α)) :
    get? j (erase k l) = get? j l := by
  induction l with
  | nil => rfl
  | cons e rest ih =>
    obtain ⟨k', v'⟩ := e
    by_cases hk : k' = k
    · subst hk; simp [erase, get?, h]
    · simp only [erase, if_neg hk, get?, ih]

theorem get?_erase_self {k : κ} {l : List (κ × α)} (h : (l.map Prod.fst).Nodup) :
    get? k (erase k l) = none := by
  induction l with
  | nil => rfl
  | cons e rest ih =>
    obtain ⟨k', v'⟩ := e
    simp only [List.map_cons, List.nodup_cons] at h
    by_cases hk : k' = k
    · subst hk
      simp only [erase, if_pos]
      exact get?_eq_none_iff.2 h.1
    · simp [erase, get?, hk, ih h.2]

end Entries

namespace Table

variable {κ α β : Type} [DecidableEq κ]

instance [DecidableEq α] : DecidableEq (Table κ α) := fun s t =>
  decidable_of_iff (s.entries = t.entries) <| by cases s; cases t; simp

instance : Inhabited (Table κ α) := ⟨⟨[], by simp⟩⟩

/-- The table without entries. -/
def empty : Table κ α := ⟨[], by simp⟩

def isEmpty (t : Table κ α) : Bool := t.entries.isEmpty

/-- The keys, in the order of their first writing. -/
def keys (t : Table κ α) : List κ := t.entries.map Prod.fst

def get? (t : Table κ α) (k : κ) : Option α := Entries.get? k t.entries

def contains (t : Table κ α) (k : κ) : Bool := (t.get? k).isSome

/-- Write a value under a key. -/
def insert (t : Table κ α) (k : κ) (v : α) : Table κ α :=
  ⟨Entries.put k v t.entries, Entries.nodup_put t.distinct⟩

/-- Remove a key. -/
def erase (t : Table κ α) (k : κ) : Table κ α :=
  ⟨Entries.erase k t.entries, Entries.nodup_erase t.distinct⟩

/-- Write entries one after another. -/
def insertAll (t : Table κ α) (new : List (κ × α)) : Table κ α :=
  ⟨Entries.putAll t.entries new, Entries.nodup_putAll t.distinct⟩

/-- The table of a list of entries, written from first to last. -/
def ofList (l : List (κ × α)) : Table κ α := empty.insertAll l

/-- Change every value and keep the keys. -/
def mapValues (f : α → β) (t : Table κ α) : Table κ β :=
  ⟨t.entries.map (fun e => (e.1, f e.2)), by
    have h := t.distinct
    simpa [List.map_map, Function.comp_def] using h⟩

omit [DecidableEq κ] in
theorem ext {s t : Table κ α} (h : s.entries = t.entries) : s = t := by
  cases s; cases t; simpa using h

theorem get?_insert_self (t : Table κ α) (k : κ) (v : α) : (t.insert k v).get? k = some v :=
  Entries.get?_put_self k v t.entries

theorem get?_insert_of_ne (t : Table κ α) {k j : κ} (h : k ≠ j) (v : α) :
    (t.insert k v).get? j = t.get? j :=
  Entries.get?_put_of_ne h v t.entries

theorem get?_insert (t : Table κ α) (k j : κ) (v : α) :
    (t.insert k v).get? j = if k = j then some v else t.get? j := by
  by_cases h : k = j
  · subst h; simp [get?_insert_self]
  · simp [h, get?_insert_of_ne t h]

theorem mem_keys_insert {t : Table κ α} {k j : κ} {v : α} :
    j ∈ (t.insert k v).keys ↔ j = k ∨ j ∈ t.keys :=
  Entries.mem_keys_put

theorem get?_insertAll_of_not_mem {t : Table κ α} {k : κ} {new : List (κ × α)}
    (h : k ∉ new.map Prod.fst) : (t.insertAll new).get? k = t.get? k :=
  Entries.get?_putAll_of_not_mem h

theorem get?_erase (t : Table κ α) (k j : κ) :
    (t.erase k).get? j = if k = j then none else t.get? j := by
  by_cases h : k = j
  · subst h; simp only [if_pos]; exact Entries.get?_erase_self t.distinct
  · simp only [if_neg h]; exact Entries.get?_erase_of_ne h t.entries

end Table

end Converge
