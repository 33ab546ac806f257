import Mathlib
import ScriptCache.Inspector.RemoteObject
import ScriptCache.Proofs.Numeric.Classes
import ScriptCache.Proofs.Numeric.Value

namespace ScriptCache

variable {x : Double} {n : Int}

theorem Unserializable.of_eq_none (hfinite : x.isFinite = true)
    (hzero : ¬(x.isZero = true ∧ x.negative = true)) : of x = none := by
  obtain ⟨hnan,hinfinite⟩ := Double.isFinite_iff.mp hfinite
  rw [of, hnan, hinfinite, if_neg Bool.false_ne_true, if_neg Bool.false_ne_true, if_neg hzero]

namespace RemoteObject

theorem description_number (x : Double) : (number x).description = some (describeNumber x) := by
  unfold number
  cases Unserializable.of x <;> rfl

theorem int64Bound_eq (n : Int) : int64Bound n = max (-2 ^ 63) (min n (2 ^ 63 - 1)) :=
  rfl

theorem int64Bound_eq_self_iff : int64Bound n = n ↔ -2 ^ 63 ≤ n ∧ n < 2 ^ 63 := by
  rw [int64Bound_eq]
  omega

theorem describeNumber_of_integer (h : x.integer? = some n)
    (hzero : ¬(x.isZero = true ∧ x.negative = true)) (hsize : n.natAbs < 10 ^ 21) :
    describeNumber x = toString (int64Bound n) := by
  have hordinary := Unserializable.of_eq_none (Double.integer?_eq_some_iff.mp h).1 hzero
  simp only [describeNumber, hordinary, h]
  exact if_pos hsize

theorem number_describes_integer (x : Double) (n : Int) (hfinite : x.isFinite = true)
    (hvalue : x.toRat = n) (hzero : ¬(x.isZero = true ∧ x.negative = true))
    (hsize : |n| < 10 ^ 21) :
    (number x).description = some (toString (max (-2 ^ 63) (min n (2 ^ 63 - 1)))) ∧
    ((number x).description = some (toString n) ↔ -2 ^ 63 ≤ n ∧ n < 2 ^ 63) := by
  have hinteger := Double.integer?_eq_some_iff.mpr ⟨hfinite,hvalue⟩
  have hbelow : n.natAbs < 10 ^ 21 := by
    rw [Int.abs_eq_natAbs] at hsize
    exact_mod_cast hsize
  have hdescribed : (number x).description = some (toString (int64Bound n)) := by
    rw [description_number, describeNumber_of_integer hinteger hzero hbelow]
  refine ⟨hdescribed,?_⟩
  rw [hdescribed, Option.some.injEq, ← int64Bound_eq_self_iff]
  exact Int.repr_inj

theorem number_describes_integer_least :
    let x : Double := ⟨0xC3E0000000000000⟩
    x.isFinite = true ∧ x.toRat = (-2 ^ 63 : Int) ∧ ¬(x.isZero = true ∧ x.negative = true) ∧
    |(-2 ^ 63 : Int)| < 10 ^ 21 ∧ (number x).description = some "-9223372036854775808" := by
  intro x
  have hinteger : x.integer? = some (-2 ^ 63) := by decide +kernel
  obtain ⟨hfinite,hvalue⟩ := Double.toRat_of_integer? hinteger
  have hzero : ¬(x.isZero = true ∧ x.negative = true) := by decide
  have hsize : |(-2 ^ 63 : Int)| < 10 ^ 21 := by decide
  obtain ⟨-,hexact⟩ := number_describes_integer x (-2 ^ 63) hfinite hvalue hzero hsize
  exact ⟨hfinite,hvalue,hzero,hsize,hexact.mpr (by decide)⟩

theorem number_misdescribes_integer :
    let x : Double := ⟨0x4415AF1D78B58C40⟩
    x.isFinite = true ∧ x.toRat = (10 ^ 20 : Int) ∧ ¬(x.isZero = true ∧ x.negative = true) ∧
    |(10 ^ 20 : Int)| < 10 ^ 21 ∧ (number x).description = some "9223372036854775807" ∧
    toString (10 ^ 20 : Int) = "100000000000000000000" := by
  intro x
  have hinteger : x.integer? = some (10 ^ 20) := by decide +kernel
  obtain ⟨hfinite,hvalue⟩ := Double.toRat_of_integer? hinteger
  have hzero : ¬(x.isZero = true ∧ x.negative = true) := by decide
  refine ⟨hfinite,hvalue,hzero,by decide,?_,by decide⟩
  rw [description_number, describeNumber_of_integer hinteger hzero (by decide)]
  rfl

end RemoteObject

end ScriptCache
