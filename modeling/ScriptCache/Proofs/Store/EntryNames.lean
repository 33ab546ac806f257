import Mathlib
import ScriptCache.Proofs.Text.Separation
import ScriptCache.Store.CacheStore

namespace ScriptCache

namespace Sha256

theorem hexDigits_of_lt {d : Nat} (h : d < 16) : Text.hexDigits d = [Nat.digitChar d] :=
  Nat.toDigits_of_lt_base h

theorem digitChar_inj {d e : Nat} (hd : d < 16) (he : e < 16)
    (h : Nat.digitChar d = Nat.digitChar e) : d = e := by
  have hall : ∀ d < 16, ∀ e < 16, Nat.digitChar d = Nat.digitChar e → d = e := by decide
  exact hall d hd e he h

theorem toList_hexText_cons (b : UInt8) (bytes : List UInt8) :
    (hexText (b :: bytes)).toList =
      Nat.digitChar (b.toNat / 16) :: Nat.digitChar (b.toNat % 16) :: (hexText bytes).toList := by
  have hlt := b.toNat_lt
  simp [hexText, hexDigits_of_lt (show b.toNat / 16 < 16 by omega),
    hexDigits_of_lt (show b.toNat % 16 < 16 by omega)]

theorem hexText_injective {xs ys : List UInt8} (h : hexText xs = hexText ys) : xs = ys := by
  have hlist := congrArg String.toList h
  clear h
  induction xs generalizing ys with
  | nil =>
    cases ys with
    | nil => rfl
    | cons y ys =>
      rw [toList_hexText_cons] at hlist
      cases hlist
  | cons x xs ih =>
    cases ys with
    | nil =>
      rw [toList_hexText_cons] at hlist
      cases hlist
    | cons y ys =>
      have hx := x.toNat_lt
      have hy := y.toNat_lt
      rw [toList_hexText_cons, toList_hexText_cons] at hlist
      simp only [List.cons.injEq] at hlist
      obtain ⟨hhigh,hlow,htail⟩ := hlist
      have hdiv := digitChar_inj (by omega) (by omega) hhigh
      have hmod := digitChar_inj (by omega) (by omega) hlow
      rw [ih htail, UInt8.toNat_inj.mp (show x.toNat = y.toNat by omega)]

theorem dot_notMem_hexText (bytes : List UInt8) : '.' ∉ (hexText bytes).toList := by
  have hdigit : ∀ d < 16, Nat.digitChar d ≠ '.' := by decide
  induction bytes with
  | nil => simp [hexText]
  | cons b bytes ih =>
    have hlt := b.toNat_lt
    rw [toList_hexText_cons]
    simp only [List.mem_cons, not_or]
    exact ⟨(hdigit _ (by omega)).symm,(hdigit _ (by omega)).symm,ih⟩

end Sha256

namespace Source

def Same (s t : Source) : Prop :=
  s.name = t.name ∧ s.text = t.text

instance (s t : Source) : Decidable (Same s t) :=
  inferInstanceAs (Decidable (_ ∧ _))

/-- The name goes on, after a NUL, with what the text of the other source begins with. -/
def Shifted (s t : Source) : Prop :=
  ∃ mid, s.name = t.name ++ "\x00" ++ mid ∧ t.text = mid ++ "\x00" ++ s.text

def Confused (s t : Source) : Prop :=
  s.Same t ∨ s.Shifted t ∨ t.Shifted s

theorem keyBytes_eq_utf8 (s : Source) : s.keyBytes = Text.utf8 (s.name ++ "\x00" ++ s.text) := by
  have hseparator : Text.utf8 "\x00" = [0] := by decide
  rw [keyBytes, Text.utf8_append, Text.utf8_append, hseparator]

theorem shifted_iff {s t : Source} :
    s.Shifted t ↔ ∃ mid, s.name.toList = t.name.toList ++ '\x00' :: mid ∧
      t.text.toList = mid ++ '\x00' :: s.text.toList := by
  constructor
  · rintro ⟨mid,hname,htext⟩
    exact ⟨mid.toList,by simp [hname],by simp [htext]⟩
  · rintro ⟨mid,hname,htext⟩
    exact ⟨String.ofList mid,String.toList_inj.mp (by simp [hname]),
      String.toList_inj.mp (by simp [htext])⟩

theorem keyBytes_eq_iff {s t : Source} : s.keyBytes = t.keyBytes ↔ s.Confused t := by
  have hlists : s.keyBytes = t.keyBytes ↔
      s.name.toList ++ '\x00' :: s.text.toList = t.name.toList ++ '\x00' :: t.text.toList := by
    rw [keyBytes_eq_utf8, keyBytes_eq_utf8]
    constructor
    · intro h
      simpa using congrArg String.toList (Text.utf8_injective h)
    · intro h
      exact congrArg Text.utf8 (String.toList_inj.mp (by simpa using h))
  rw [hlists, Text.append_separator_eq_iff, Confused, shifted_iff, shifted_iff, Same,
    String.toList_inj, String.toList_inj]

theorem Shifted.nul_mem {s t : Source} (h : s.Shifted t) : '\x00' ∈ s.name.toList := by
  obtain ⟨mid,hname,-⟩ := shifted_iff.mp h
  simp [hname]

theorem confused_iff_same {s t : Source} (hs : '\x00' ∉ s.name.toList)
    (ht : '\x00' ∉ t.name.toList) : s.Confused t ↔ s.Same t := by
  constructor
  · rintro (hsame | hshifted | hshifted)
    · exact hsame
    · exact absurd hshifted.nul_mem hs
    · exact absurd hshifted.nul_mem ht
  · exact .inl

theorem keyBytes_inj {s t : Source} (hs : '\x00' ∉ s.name.toList) (ht : '\x00' ∉ t.name.toList)
    (h : s.keyBytes = t.keyBytes) : s.Same t :=
  (confused_iff_same hs ht).mp (keyBytes_eq_iff.mp h)

theorem Same.keyBytes {s t : Source} (h : s.Same t) : s.keyBytes = t.keyBytes := by
  rw [Source.keyBytes, Source.keyBytes, h.1, h.2]

end Source

namespace CacheStore

variable {s t : Source}

theorem entryName_eq_iff :
    entryName s = entryName t ↔ Sha256.digest s.keyBytes = Sha256.digest t.keyBytes := by
  constructor
  · intro h
    simp only [entryName, String.append_assoc, String.append_left_inj] at h
    exact Sha256.hexText_injective h
  · intro h
    rw [entryName, entryName, Source.key, Source.key, h]

theorem entryName_of_same (h : s.Same t) : entryName s = entryName t :=
  entryName_eq_iff.mpr (by rw [h.keyBytes])

theorem temporaryName_ne_entryName (s t : Source) (tag : String) :
    temporaryName s tag ≠ entryName t := by
  intro h
  have hlist : s.key.toList ++ '.' :: ("tmp.".toList ++ tag.toList) =
      t.key.toList ++ '.' :: extension.toList := by
    simpa [temporaryName, entryName] using congrArg String.toList h
  obtain ⟨-,hrest⟩ := Text.append_separator_inj (Sha256.dot_notMem_hexText _)
    (Sha256.dot_notMem_hexText _) hlist
  cases hrest

end CacheStore

end ScriptCache
