import Mathlib
import ScriptCache.Text.Utf8

namespace ScriptCache.Text

theorem append_separator_inj {α : Type} {a : α} {xs ys rest rest' : List α} (hx : a ∉ xs)
    (hy : a ∉ ys) (h : xs ++ a :: rest = ys ++ a :: rest') : xs = ys ∧ rest = rest' := by
  induction xs generalizing ys with
  | nil =>
    cases ys with
    | nil => simpa using h
    | cons y ys =>
      obtain rfl : a = y := (List.cons.inj h).1
      exact absurd List.mem_cons_self hy
  | cons x xs ih =>
    cases ys with
    | nil =>
      obtain rfl : x = a := (List.cons.inj h).1
      exact absurd List.mem_cons_self hx
    | cons y ys =>
      obtain ⟨rfl,htail⟩ := List.cons.inj h
      obtain ⟨rfl,hrest⟩ :=
        ih (List.not_mem_of_not_mem_cons hx) (List.not_mem_of_not_mem_cons hy) htail
      exact ⟨rfl,hrest⟩

/-- Where the separator does occur in a first part, the whole may have been put together at two
places: what is between them belongs to the first part of one and the second of the other. -/
theorem append_separator_eq_iff {α : Type} {a : α} {xs ys rest rest' : List α} :
    xs ++ a :: rest = ys ++ a :: rest' ↔
      (xs = ys ∧ rest = rest') ∨
      (∃ mid, xs = ys ++ a :: mid ∧ rest' = mid ++ a :: rest) ∨
      ∃ mid, ys = xs ++ a :: mid ∧ rest = mid ++ a :: rest' := by
  constructor
  · intro h
    rcases List.append_eq_append_iff.mp h with ⟨more,hys,hrest⟩ | ⟨more,hxs,hrest⟩
    · cases more with
      | nil => exact .inl ⟨by simpa using hys.symm,(List.cons.inj hrest).2⟩
      | cons b mid =>
        obtain ⟨rfl,htail⟩ := List.cons.inj hrest
        exact .inr (.inr ⟨mid,hys,htail⟩)
    · cases more with
      | nil => exact .inl ⟨by simpa using hxs,(List.cons.inj hrest).2.symm⟩
      | cons b mid =>
        obtain ⟨rfl,htail⟩ := List.cons.inj hrest
        exact .inr (.inl ⟨mid,hxs,htail⟩)
  · rintro (⟨rfl,rfl⟩ | ⟨mid,rfl,rfl⟩ | ⟨mid,rfl,rfl⟩)
    · rfl
    · rw [List.append_assoc, List.cons_append]
    · rw [List.append_assoc, List.cons_append]

theorem utf8_eq_flatMap (s : String) : utf8 s = s.toList.flatMap String.utf8EncodeChar := by
  rw [utf8, ← String.utf8Encode_toList, List.utf8Encode, List.data_toByteArray]

theorem utf8_append (s t : String) : utf8 (s ++ t) = utf8 s ++ utf8 t := by
  simp only [utf8_eq_flatMap, String.toList_append, List.flatMap_append]

end ScriptCache.Text
