import Mathlib.Algebra.Order.Ring.Int
import TripWatch.Number.Calculation

/-!
# Operations that fit

A calculation that fits can be read in whole numbers. Each operation has a word in any case, and
where its result is none the word is another number. So an operation fits exactly if its word is its
result (`WordOp.fits_iff`).

## Main results

* `WordOp.fits_iff` — an operation fits exactly if its word is right
* `WordOp.fits_clampedDifference` — a difference that stops at the ends always fits
-/

namespace TripWatch

theorem isWord_toInt (a : Int64) : IsWord a.toInt := ⟨a.le_toInt, a.toInt_lt⟩

namespace WordOp

theorem toInt_ofIntClamp (n : ℤ) : (Int64.ofIntClamp n).toInt =
    max (min n Int64.maxValue.toInt) Int64.minValue.toInt := by
  have hends : Int64.minValue.toInt ≤ Int64.maxValue.toInt := by decide
  unfold Int64.ofIntClamp
  split_ifs with hlow hhigh
  · rw [min_eq_left hhigh, max_eq_left hlow, Int64.toInt_ofIntLE]
  · rw [min_eq_right (by omega), max_eq_left hends]
  · rw [min_eq_left (by omega), max_eq_right (by omega)]

theorem exact_magnitude (a : Int64) : (magnitude a).exact = |a.toInt| :=
  (Int.abs_eq_natAbs a.toInt).symm

theorem toInt_abs {a : Int64} (h : (magnitude a).Fits) : a.abs.toInt = |a.toInt| := by
  -- The least word is its own negation, so it has to be kept out before `abs` is read.
  have hmin : a.toBitVec ≠ BitVec.intMin 64 := by
    intro heq
    have hleast : a.toInt = -2 ^ 63 := congrArg BitVec.toInt heq
    rw [Fits, exact_magnitude, hleast] at h
    exact absurd h (by decide)
  change a.toBitVec.abs.toInt = _
  rw [BitVec.toInt_abs_eq_natAbs_of_ne_intMin hmin, Int.natCast_natAbs]
  rfl

/-- **An operation fits exactly if its word is right.** -/
theorem fits_iff (op : WordOp) : op.Fits ↔ op.word.toInt = op.exact := by
  refine ⟨fun hfits => ?_, fun h => by rw [Fits, ← h]; exact isWord_toInt _⟩
  have ⟨hlow, hhigh⟩ := hfits
  cases op with
  | difference a b =>
    rw [word, Int64.toInt_sub]
    exact Int.bmod_eq_of_le (by simpa [exact] using hlow) (by simpa [exact] using hhigh)
  | clampedDifference a b => exact toInt_ofIntClamp _
  | product a b =>
    rw [word, Int64.toInt_mul]
    exact Int.bmod_eq_of_le (by simpa [exact] using hlow) (by simpa [exact] using hhigh)
  | magnitude a => exact (toInt_abs hfits).trans (exact_magnitude a).symm

theorem toInt_sub {a b : Int64} (h : IsWord (a.toInt - b.toInt)) :
    (a - b).toInt = a.toInt - b.toInt := (fits_iff (.difference a b)).mp h

theorem toInt_mul {a b : Int64} (h : IsWord (a.toInt * b.toInt)) :
    (a * b).toInt = a.toInt * b.toInt := (fits_iff (.product a b)).mp h

/-- A difference that stops at the ends of the range is never beyond them. -/
theorem fits_clampedDifference (a b : Int64) : (clampedDifference a b).Fits :=
  (fits_iff _).mpr (toInt_ofIntClamp _)

end WordOp

end TripWatch
