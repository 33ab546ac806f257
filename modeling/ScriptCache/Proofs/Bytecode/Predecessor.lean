import Mathlib.Order.Bounds.Basic
import ScriptCache.Bytecode.KeySearch

namespace ScriptCache.KeySearch

variable {α : Type} {key : α → UInt32} {table : List α} {k : UInt32} {answer : KeySearch} {i : Nat}

inductive Answers (key : α → UInt32) (table : List α) (k : UInt32) : KeySearch → Prop
  | found {i : Nat} {entry : α} (here : table[i]? = some entry) (same : key entry = k) :
      Answers key table k (.found i)
  | insertion {i : Nat} (inside : i ≤ table.length)
      (before : ∀ j < i, ∀ entry, table[j]? = some entry → key entry < k)
      (after : ∀ j ≥ i, ∀ entry, table[j]? = some entry → k < key entry) :
      Answers key table k (.insertion i)

def last? : KeySearch → Option Nat
  | .found i => some i
  | .insertion 0 => none
  | .insertion (i + 1) => some i

abbrev Ascends (key : α → UInt32) (table : List α) : Prop :=
  table.Pairwise fun x y => key x ≤ key y

theorem Ascends.key_le (h : Ascends key table) {j : Nat} {x y : α} (hx : table[i]? = some x)
    (hy : table[j]? = some y) (hij : i ≤ j) : key x ≤ key y := by
  obtain ⟨hi,rfl⟩ := List.getElem?_eq_some_iff.mp hx
  obtain ⟨hj,rfl⟩ := List.getElem?_eq_some_iff.mp hy
  rcases Nat.eq_or_lt_of_le hij with rfl | hlt
  · exact UInt32.le_refl _
  · exact List.pairwise_iff_getElem.mp h i j hi hj hlt

theorem answers_run (h : Ascends key table) (k : UInt32) :
    Answers key table k (run key table k) := by
  cases hrun : run key table k with
  | found i =>
    obtain ⟨entry,hentry,hkey⟩ := run_found hrun
    exact .found hentry hkey
  | insertion i =>
    obtain ⟨hother,rfl⟩ := run_insertion hrun
    refine .insertion (List.takeWhile_prefix _).length_le ?_ ?_
    · intro j hj entry hentry
      have hless := List.all_takeWhile (p := fun entry => decide (key entry < k)) (l := table)
      have hhere := List.prefix_iff_getElem?.mp (List.takeWhile_prefix _) j hj
      rw [hentry] at hhere
      cases hhere
      exact of_decide_eq_true (List.all_eq_true.mp hless _ (List.getElem_mem hj))
    · intro j hj entry hentry
      -- the first entry that is not before the key is after it, and all others are still later
      obtain ⟨hsmall,-⟩ := List.getElem?_eq_some_iff.mp hentry
      have hfirst := List.getElem?_eq_getElem (Nat.lt_of_le_of_lt hj hsmall)
      exact UInt32.lt_of_lt_of_le (lt_of_run_insertion hrun hfirst) (h.key_le hfirst hentry hj)

def Right (search : List UInt32 → UInt32 → KeySearch) : Prop :=
  ∀ table k, table.Pairwise (· ≤ ·) → Answers id table k (search table k)

def words (table : List UInt32) (k : UInt32) : KeySearch :=
  run id table k

theorem right_words : Right words :=
  fun _ k h => answers_run h k

theorem Answers.exists_entry (h : Answers key table k answer) (hi : answer.last? = some i) :
    ∃ entry, table[i]? = some entry ∧ key entry ≤ k := by
  cases h with
  | @found j entry here same =>
    obtain rfl : j = i := Option.some.inj hi
    exact ⟨entry,here,same ▸ UInt32.le_refl _⟩
  | @insertion j inside before after =>
    cases j with
    | zero => cases hi
    | succ j =>
      obtain rfl : j = i := Option.some.inj hi
      have hentry := List.getElem?_eq_getElem inside
      exact ⟨_,hentry,UInt32.le_of_lt (before j (Nat.lt_succ_self j) _ hentry)⟩

theorem Answers.isGreatest (hsorted : Ascends key table) (h : Answers key table k answer)
    (hi : answer.last? = some i) :
    ∃ entry, table[i]? = some entry ∧
      IsGreatest {n | n ≤ k ∧ ∃ other ∈ table, key other = n} (key entry) := by
  obtain ⟨entry,hentry,hle⟩ := h.exists_entry hi
  refine ⟨entry,hentry,⟨hle,entry,List.mem_of_getElem? hentry,rfl⟩,?_⟩
  rintro _ ⟨hother,other,hmem,rfl⟩
  obtain ⟨j,hj⟩ := List.mem_iff_getElem?.mp hmem
  rcases Nat.lt_or_ge i j with hafter | hbefore
  · cases h with
    | found here same =>
      obtain rfl := Option.some.inj hi
      obtain rfl := Option.some.inj (hentry.symm.trans here)
      exact same ▸ hother
    | @insertion m inside before after =>
      cases m with
      | zero => cases hi
      | succ m =>
        obtain rfl := Option.some.inj hi
        exact absurd hother (UInt32.not_le.mpr (after j hafter other hj))
  · exact hsorted.key_le hj hentry hbefore

theorem Answers.lt_of_last?_eq_none (h : Answers key table k answer) (hnone : answer.last? = none) :
    ∀ entry ∈ table, k < key entry := by
  intro entry hmem
  obtain ⟨j,hj⟩ := List.mem_iff_getElem?.mp hmem
  cases h with
  | found here same => cases hnone
  | @insertion m inside before after =>
    cases m with
    | zero => exact after j (Nat.zero_le j) entry hj
    | succ m => cases hnone

end ScriptCache.KeySearch
