/-!
Finite maps as lists of pairs, the most recently added key first.

* `get?_empty`, `get?_insert`, `get?_erase`: what each operation does to look-ups.
* `erase_insert_of_get?_eq_none`: taking away a key that was just added gives the map back, so a
  failed addition leaves no trace.
-/

namespace VendorDispatch

/-- A finite map. Operations keep at most one pair for each key. -/
structure Assoc (κ ν : Type) where
  /-- The pairs of the map. -/
  entries : List (κ × ν) := []
  deriving Repr

namespace Assoc

variable {κ ν : Type} [DecidableEq κ]

instance : Inhabited (Assoc κ ν) := ⟨⟨[]⟩⟩

/-- The map without keys. -/
def empty : Assoc κ ν := ⟨[]⟩

/-- The value stored under a key. -/
def get? (m : Assoc κ ν) (k : κ) : Option ν :=
  (m.entries.find? fun e => e.1 = k).map Prod.snd

/-- Whether a key has a value. -/
def contains (m : Assoc κ ν) (k : κ) : Bool :=
  (m.get? k).isSome

/-- Forgets a key. -/
def erase (m : Assoc κ ν) (k : κ) : Assoc κ ν :=
  ⟨m.entries.filter fun e => e.1 ≠ k⟩

/-- Stores a value under a key, in place of an earlier one. -/
def insert (m : Assoc κ ν) (k : κ) (v : ν) : Assoc κ ν :=
  ⟨(k, v) :: (m.erase k).entries⟩

/-- The number of keys. -/
def size (m : Assoc κ ν) : Nat :=
  m.entries.length

/-! ### Look-ups after each operation -/

@[simp] theorem get?_empty (k : κ) : (empty : Assoc κ ν).get? k = none := rfl

/-- What is erased is not found any more. -/
theorem get?_erase (m : Assoc κ ν) (k j : κ) :
    (m.erase k).get? j = if j = k then none else m.get? j := by
  obtain ⟨es⟩ := m
  unfold get? erase
  rw [List.find?_filter]
  split
  · next h =>
    subst h
    rw [List.find?_eq_none.mpr, Option.map_none]
    intro e _
    by_cases he : e.1 = j <;> simp [he]
  · next h =>
    congr 2
    funext e
    by_cases he : e.1 = j <;> simp_all

@[simp] theorem get?_erase_self (m : Assoc κ ν) (k : κ) : (m.erase k).get? k = none := by
  simp [get?_erase]

/-- What is inserted replaces what was found before. -/
theorem get?_insert (m : Assoc κ ν) (k j : κ) (v : ν) :
    (m.insert k v).get? j = if j = k then some v else m.get? j := by
  by_cases h : k = j
  · simp [insert, get?, h]
  · have h' : ¬ j = k := fun e => h e.symm
    have := get?_erase m k j
    simp only [get?, insert, List.find?_cons, h, h', decide_false, if_false] at this ⊢
    exact this

@[simp] theorem get?_insert_self (m : Assoc κ ν) (k : κ) (v : ν) :
    (m.insert k v).get? k = some v := by
  simp [get?_insert]

/-- A key is contained if something is found for it. -/
theorem contains_iff {m : Assoc κ ν} {k : κ} : m.contains k ↔ ∃ v, m.get? k = some v := by
  simp [contains, Option.isSome_iff_exists]

/-- Forgetting an absent key changes nothing. -/
theorem erase_of_get?_eq_none {m : Assoc κ ν} {k : κ} (h : m.get? k = none) : m.erase k = m := by
  obtain ⟨es⟩ := m
  simp only [get?, Option.map_eq_none_iff, List.find?_eq_none, decide_eq_true_eq] at h
  simp only [erase, mk.injEq, List.filter_eq_self]
  intro e he
  simpa using h e he

/-- Forgetting a key that was just added gives the map back. -/
theorem erase_insert_of_get?_eq_none {m : Assoc κ ν} {k : κ} (v : ν) (h : m.get? k = none) :
    (m.insert k v).erase k = m := by
  have he := erase_of_get?_eq_none h
  obtain ⟨es⟩ := m
  simp only [erase, insert, mk.injEq] at he ⊢
  rw [List.filter_cons_of_neg (by simp), he, he]

end Assoc

end VendorDispatch
