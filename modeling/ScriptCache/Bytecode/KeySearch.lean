namespace ScriptCache

inductive KeySearch where
  | found (index : Nat)
  | insertion (index : Nat)
  deriving DecidableEq, Repr

namespace KeySearch

variable {α : Type}

def run (key : α → UInt32) (table : List α) (k : UInt32) : KeySearch :=
  match table.findIdx? fun entry => key entry == k with
  | some i => .found i
  | none => .insertion (table.takeWhile fun entry => key entry < k).length

theorem run_found {key : α → UInt32} {table : List α} {k : UInt32} {i : Nat}
    (h : run key table k = .found i) : ∃ entry, table[i]? = some entry ∧ key entry = k := by
  unfold run at h
  split at h
  · rename_i j hit
    cases h
    obtain ⟨small, same, _⟩ := List.findIdx?_eq_some_iff_getElem.1 hit
    exact ⟨_, List.getElem?_eq_getElem small, beq_iff_eq.1 same⟩
  · cases h

theorem exists_run_found (key : α → UInt32) {table : List α} {entry : α} (h : entry ∈ table) :
    ∃ i, run key table (key entry) = .found i := by
  unfold run
  split
  · exact ⟨_, rfl⟩
  · rename_i miss
    have other := List.findIdx?_eq_none_iff.1 miss entry h
    simp at other

theorem run_insertion {key : α → UInt32} {table : List α} {k : UInt32} {i : Nat}
    (h : run key table k = .insertion i) :
    (∀ entry ∈ table, key entry ≠ k) ∧
      i = (table.takeWhile fun entry => key entry < k).length := by
  unfold run at h
  split at h
  · cases h
  · rename_i miss
    cases h
    refine ⟨?_, rfl⟩
    intro entry hentry
    simpa using List.findIdx?_eq_none_iff.1 miss entry hentry

theorem not_of_getElem?_length_takeWhile {p : α → Bool} {table : List α} {entry : α}
    (h : table[(table.takeWhile p).length]? = some entry) : ¬p entry := by
  induction table with
  | nil => cases h
  | cons first rest ih =>
    by_cases hfirst : p first
    · rw [List.takeWhile_cons_of_pos hfirst] at h
      exact ih h
    · rw [List.takeWhile_cons_of_neg hfirst] at h
      cases h
      exact hfirst

theorem lt_of_run_insertion {key : α → UInt32} {table : List α} {k : UInt32} {i : Nat}
    (h : run key table k = .insertion i) {entry : α} (hentry : table[i]? = some entry) :
    k < key entry := by
  obtain ⟨other, rfl⟩ := run_insertion h
  have not_less : ¬key entry < k := by
    simpa using not_of_getElem?_length_takeWhile hentry
  exact UInt32.lt_of_le_of_ne (UInt32.not_lt.mp not_less)
    (other entry (List.mem_of_getElem? hentry)).symm

end KeySearch

end ScriptCache
