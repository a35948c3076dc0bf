import TripWatch.Number.Literal
import TripWatch.Number.Shortest

/-!
# Runs of digits

Numbers are written digit by digit and read back from a run of digits that ends where something else
begins. Zeros in front do not change what is read; only the number zero is written with one.

## Main results

* `natOfDigits_toDigits` — the digits of a number give the number back
* `takeWhile_isDigit_append`, `dropWhile_isDigit_append` — where a run of digits ends
* `ne_zero_of_toDigits_eq_cons` — no zeros in front
* `Double.digits_shortest_pos` — the shortest decimal of a double that is not zero is not zero
-/

namespace TripWatch

/-! ### Reading digits back -/

theorem natOfDigits_eq (cs : List Char) : natOfDigits cs = Nat.ofDigitChars 10 cs 0 := by
  rw [Nat.ofDigitChars_eq_foldl]
  simp only [natOfDigits, digitValue, Nat.mul_comm]

theorem natOfDigits_toDigits (n : Nat) : natOfDigits (Nat.toDigits 10 n) = n := by
  rw [natOfDigits_eq, Nat.ofDigitChars_ten_toDigits]

/-- Zeros in front do not count. -/
theorem natOfDigits_zeros_append (k : Nat) (cs : List Char) :
    natOfDigits (List.replicate k '0' ++ cs) = natOfDigits cs := by
  rw [natOfDigits_eq, natOfDigits_eq, Nat.ofDigitChars_append, Nat.ofDigitChars_replicate_zero,
    Nat.mul_zero]

theorem isDigit_of_mem_toDigits {n : Nat} {c : Char} (h : c ∈ Nat.toDigits 10 n) :
    c.isDigit = true :=
  Nat.isDigit_of_mem_toDigits (by decide) (by decide) h

/-- The first digit of a number other than zero is not zero. -/
theorem ne_zero_of_toDigits_eq_cons {n : Nat} {c : Char} {cs : List Char} (hn : n ≠ 0)
    (h : Nat.toDigits 10 n = c :: cs) : c ≠ '0' := by
  induction n using Nat.strongRecOn generalizing c cs with
  | ind n ih =>
    rw [Nat.toDigits_eq_if (by decide)] at h
    split at h
    · rw [← (List.cons.inj h).1]
      exact fun hzero => hn (Nat.digitChar_eq_zero.mp hzero)
    · -- The first digit is that of a tenth.
      obtain ⟨first, more, hfirst⟩ := List.exists_cons_of_ne_nil
        (Nat.toDigits_ne_nil (n := n / 10) (b := 10))
      rw [hfirst] at h
      rw [← (List.cons.inj h).1]
      exact ih (n / 10) (by omega) (by omega) hfirst

/-! ### Where a run of digits ends -/

section Runs

variable {ds rest : List Char}

theorem takeWhile_isDigit_append (hds : ∀ c ∈ ds, c.isDigit = true)
    (hrest : ∀ c ∈ rest.head?, c.isDigit = false) :
    (ds ++ rest).takeWhile Char.isDigit = ds := by
  rw [List.takeWhile_append_of_pos hds]
  cases rest with
  | nil => simp
  | cons c rest => simp [hrest c rfl]

theorem dropWhile_isDigit_append (hds : ∀ c ∈ ds, c.isDigit = true)
    (hrest : ∀ c ∈ rest.head?, c.isDigit = false) :
    (ds ++ rest).dropWhile Char.isDigit = rest := by
  rw [List.dropWhile_append_of_pos hds]
  cases rest with
  | nil => rfl
  | cons c rest => simp [hrest c rfl]

end Runs

/-! ### Decimals -/

theorem Decimal.isDigit_of_mem_digitChars {d : Decimal} {c : Char} (h : c ∈ d.digitChars) :
    c.isDigit = true :=
  isDigit_of_mem_toDigits h

theorem Decimal.digits_dropZero_pos {d : Decimal} (h : 0 < d.digits) : 0 < d.dropZero.digits := by
  unfold dropZero
  split
  · exact Nat.div_pos (Nat.le_of_dvd h (Nat.dvd_of_mod_eq_zero ‹_›)) (by decide)
  · exact h

namespace Double

theorem significand_pos {d : Double} (h : d.magnitude ≠ 0) : 0 < d.significand := by
  unfold significand
  dsimp only
  split
  · rename_i hsmall
    rw [Nat.mod_eq_of_lt hsmall]
    exact Nat.pos_of_ne_zero h
  · exact Nat.add_pos_right _ (Nat.pow_pos (by decide))

/-- Zero lies outside of the interval of numbers that round to a double other than zero. -/
theorem digits_pos_of_decimalWith? {d : Double} {count : Nat} {decimal : Decimal}
    (hd : d.magnitude ≠ 0) (h : d.decimalWith? count = some decimal) : 0 < decimal.digits := by
  have hpos := significand_pos hd
  unfold decimalWith? at h
  extract_lets m power narrow unit grid value low high inside down up upNearer at h
  have hunit : 0 < unit := Nat.mul_pos (Nat.pow_pos (by decide)) (Nat.pow_pos (by decide))
  have hlow : 0 < low := by
    refine Nat.mul_pos ?_ hunit
    split <;> omega
  have hinside : inside 0 = false := by
    simp only [inside, Nat.zero_mul]
    split <;> simp
    omega
  have hdown : inside down = true → 0 < down := by
    intro htrue
    refine Nat.pos_of_ne_zero fun hzero => ?_
    rw [hzero, hinside] at htrue
    cases htrue
  split at h
  · rename_i hin _
    obtain rfl := Option.some.inj h
    dsimp only
    split
    · exact Nat.succ_pos down
    · exact hdown hin
  · rename_i hin _
    obtain rfl := Option.some.inj h
    exact hdown hin
  · obtain rfl := Option.some.inj h
    exact Nat.succ_pos down
  · cases h

/-- The shortest decimal of a double that is not zero is not zero. -/
theorem digits_shortest_pos {d : Double} (h : d.magnitude ≠ 0) : 0 < d.shortest.digits := by
  unfold shortest
  rw [if_neg h]
  split
  · rename_i decimal hfound
    obtain ⟨count, -, hcount⟩ := List.exists_of_findSome?_eq_some hfound
    exact Decimal.digits_dropZero_pos (digits_pos_of_decimalWith? h hcount)
  · exact significand_pos h

end Double

end TripWatch
