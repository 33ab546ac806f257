import Mathlib
import ScriptCache.Numeric.Double

namespace ScriptCache.Double

variable {x : Double} {negative : Bool} {num den m : Nat}

theorem magnitude_lt (x : Double) : x.magnitude < 2 ^ 63 :=
  Nat.mod_lt _ (by decide)

theorem isFinite_iff : x.isFinite = true ↔ x.isNaN = false ∧ x.isInfinite = false := by
  have hfield : x.exponentField < 2048 := by
    have hmagnitude := x.magnitude_lt
    change x.magnitude / 2 ^ 52 < 2048
    omega
  have hfinite : x.exponentField < 2047 ↔ x.exponentField ≠ 2047 := by omega
  simp only [isFinite, isNaN, isInfinite, decide_eq_true_eq, hfinite]
  by_cases hfraction : x.fraction = 0 <;> simp [hfraction]

theorem isNaN_eq_false (h : x.magnitude ≤ 2047 * 2 ^ 52) : x.isNaN = false := by
  have hfields : ¬(x.magnitude / 2 ^ 52 = 2047 ∧ x.magnitude % 2 ^ 52 ≠ 0) := by omega
  simpa [isNaN, exponentField, fraction] using hfields

theorem isZero_of_isInfinite (h : x.isInfinite = true) : x.isZero = false := by
  have hfield : x.magnitude / 2 ^ 52 = 2047 := by
    simpa [isInfinite, exponentField] using (Bool.and_eq_true_iff.mp h).1
  apply beq_eq_false_iff_ne.mpr
  omega

theorem magnitude_ofMagnitude (h : m < 2 ^ 63) : (ofMagnitude negative m).magnitude = m := by
  have hsize : m + (if negative then 2 ^ 63 else 0) < 2 ^ 64 := by
    split <;> omega
  have hbits : (ofMagnitude negative m).bits.toNat = m + if negative then 2 ^ 63 else 0 :=
    UInt64.toNat_ofNat_of_lt' hsize
  rw [magnitude, hbits]
  change _ % 2 ^ 63 = m
  split <;> omega

theorem magnitude_ofRatio (hnum : num ≠ 0) :
    let e := max (ratioLog num den - 52) (-1074)
    (ofRatio negative num den).magnitude =
      min ((e + 1074).toNat * 2 ^ 52 +
        roundQuotient (num * 2 ^ (-e).toNat) (den * 2 ^ e.toNat)) (2047 * 2 ^ 52) := by
  intro e
  rw [ofRatio, if_neg hnum]
  exact magnitude_ofMagnitude (Nat.lt_of_le_of_lt (Nat.min_le_right _ _) (by norm_num))

theorem isNaN_ofRatio (negative : Bool) (num den : Nat) :
    (ofRatio negative num den).isNaN = false := by
  apply isNaN_eq_false
  by_cases hnum : num = 0
  · rw [ofRatio, if_pos hnum, zero, magnitude_ofMagnitude (by norm_num)]
    exact Nat.zero_le _
  · rw [magnitude_ofRatio hnum]
    exact Nat.min_le_right _ _

theorem neg_one_le_ratioLog (num : Nat) : -1 ≤ ratioLog num 1 := by
  have hone : Nat.log2 1 = 0 := by decide
  simp only [ratioLog, hone]
  split <;> omega

theorem isZero_ofInt (n : Int) : (ofInt n).isZero = true ↔ n = 0 := by
  constructor
  · intro h
    by_contra hn
    have hnum : n.natAbs ≠ 0 := Int.natAbs_ne_zero.mpr hn
    have hlog := neg_one_le_ratioLog n.natAbs
    rw [isZero, ofInt, magnitude_ofRatio hnum, beq_iff_eq] at h
    omega
  · rintro rfl
    rfl

end ScriptCache.Double
