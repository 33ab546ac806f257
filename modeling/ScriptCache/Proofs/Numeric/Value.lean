import Mathlib
import ScriptCache.Numeric.Double

namespace ScriptCache.Double

variable {x : Double} {n : Int}

def toRat (x : Double) : ℚ :=
  (if x.negative then -1 else 1) * (x.significand * 2 ^ x.scale)

theorem ratio_pos (x : Double) : 0 < x.ratio.2 :=
  Nat.two_pow_pos _

theorem ratio_eq (x : Double) : (x.ratio.1 : ℚ) / x.ratio.2 = x.significand * 2 ^ x.scale := by
  obtain ⟨k,hk | hk⟩ := Int.eq_nat_or_neg x.scale
  · have hup : x.ratio = (x.significand * 2 ^ k, 1) := by simp [ratio, hk]
    rw [hup, hk, zpow_natCast]
    push_cast
    rw [div_one]
  · have hdown : x.ratio = (x.significand, 2 ^ k) := by simp [ratio, hk]
    rw [hdown, hk, zpow_neg, zpow_natCast]
    push_cast
    rw [div_eq_mul_inv]

theorem toRat_eq (x : Double) :
    x.toRat = (if x.negative then -1 else 1) * ((x.ratio.1 : ℚ) / x.ratio.2) := by
  rw [toRat, ratio_eq]

theorem toRat_of_integer? (h : x.integer? = some n) : x.isFinite = true ∧ x.toRat = n := by
  simp only [integer?] at h
  split at h
  · rename_i hwhole
    obtain ⟨hfinite,hmod⟩ := hwhole
    have hdvd : x.ratio.2 ∣ x.ratio.1 := Nat.dvd_of_mod_eq_zero hmod
    have hnonzero : (x.ratio.2 : ℚ) ≠ 0 := Nat.cast_ne_zero.mpr x.ratio_pos.ne'
    refine ⟨hfinite,?_⟩
    rw [toRat_eq, ← Nat.cast_div hdvd hnonzero, ← Option.some.inj h]
    generalize x.ratio.1 / x.ratio.2 = size
    cases x.negative <;> simp
  · cases h

theorem dvd_of_toRat_eq (h : x.toRat = n) : x.ratio.2 ∣ x.ratio.1 := by
  have hsize : (x.ratio.1 : ℚ) / x.ratio.2 = n.natAbs := by
    have habs := congrArg abs h
    rw [toRat_eq, abs_mul, abs_of_nonneg (by positivity : (0 : ℚ) ≤ x.ratio.1 / x.ratio.2)] at habs
    rw [Nat.cast_natAbs, Int.cast_abs, ← habs]
    cases x.negative <;> simp
  have hnonzero : (x.ratio.2 : ℚ) ≠ 0 := Nat.cast_ne_zero.mpr x.ratio_pos.ne'
  rw [div_eq_iff hnonzero] at hsize
  exact ⟨n.natAbs,by rw [Nat.mul_comm]; exact_mod_cast hsize⟩

theorem integer?_eq_some_iff : x.integer? = some n ↔ x.isFinite = true ∧ x.toRat = n := by
  constructor
  · exact toRat_of_integer?
  · rintro ⟨hfinite,hvalue⟩
    obtain ⟨m,hm⟩ : ∃ m, x.integer? = some m := by
      refine ⟨_,if_pos ⟨hfinite,?_⟩⟩
      exact Nat.mod_eq_zero_of_dvd (dvd_of_toRat_eq hvalue)
    have hsame : (m : ℚ) = n := (toRat_of_integer? hm).2.symm.trans hvalue
    rw [hm, Int.cast_inj.mp hsame]

end ScriptCache.Double
