import TripWatch.Json.Reader
import TripWatch.Json.Value
import TripWatch.Proofs.Number.Digits

/-!
# Written numbers

A number that is written has a sign or none, whole digits, perhaps a fraction and perhaps an
exponent: a `Numeral`. The reader takes it in as one number, whatever follows, as long as that could
not be more of it. This says nothing of the value yet. An integer of at most 64 bits is read back as
itself; a double is read back as the double that the reader makes of its digits, and that is the
same one where the reader is exact (`Double.Returns`).

## Main definitions

* `Json.Numeral` — the parts of a written number, `Numeral.chars` and `Numeral.value`
* `Json.EndsNumber` — what may stand behind a number
* `Json.numeralOfInt` — a written integer
* `Json.numeralOfWhole`, `Json.numeralOfPoint`, `Json.numeralOfScientific` — a written double
* `Double.Returns` — a double that is read back as itself

## Main results

* `Json.Numeral.scanNumber_chars` — a numeral is read to its end
* `Json.chars_numeralOfInt`, `Json.exists_numeral_chars_eq_jsonChars` — what is written are numerals
* `Json.numberOf_intChars` — an integer is read back as itself
-/

namespace TripWatch

namespace Json

/-- A written number. -/
structure Numeral where
  /-- Whether there is a sign. -/
  negative : Bool
  /-- The digits before the point. -/
  whole : List Char
  /-- The digits behind the point, if there are any. -/
  fraction : List Char
  /-- The exponent's sign and digits. -/
  exponent : Option (Bool × List Char)
  whole_ne_nil : whole ≠ []
  isDigit_whole : ∀ c ∈ whole, c.isDigit = true
  /-- A leading zero stands alone. -/
  alone : ∀ cs, whole = '0' :: cs → cs = []
  isDigit_fraction : ∀ c ∈ fraction, c.isDigit = true
  isDigit_exponent : ∀ negative ds, exponent = some (negative, ds) →
    ds ≠ [] ∧ ∀ c ∈ ds, c.isDigit = true

/-- A sign as it is written. -/
def signChars : Bool → List Char
  | true => ['-']
  | false => []

/-- What may stand behind a number, so that it is none of it. -/
def EndsNumber (rest : List Char) : Prop :=
  ∀ c ∈ rest.head?, c.isDigit = false ∧ c ≠ '.' ∧ c ≠ 'e' ∧ c ≠ 'E'

theorem endsNumber_nil : EndsNumber [] := fun _ h => by cases h

namespace Numeral

variable (n : Numeral)

/-- The exponent as it is written. -/
def exponentChars : List Char :=
  match n.exponent with
  | none => []
  | some (negative, ds) => 'e' :: (if negative then '-' else '+') :: ds

/-- Fraction and exponent as they are written. -/
def tailChars : List Char :=
  (if n.fraction = [] then [] else '.' :: n.fraction) ++ n.exponentChars

/-- The numeral as it is written. -/
def chars : List Char := signChars n.negative ++ (n.whole ++ n.tailChars)

/-- The exponent. -/
def power? : Option Int :=
  n.exponent.map fun (negative, ds) =>
    if negative then -(natOfDigits ds : Int) else natOfDigits ds

/-- The number that is read. -/
def value : Number := numberOfParts n.negative n.whole n.fraction n.power?

/-! ### A numeral is read to its end -/

variable {rest : List Char}

theorem isDigit_head_tail (h : EndsNumber rest) :
    ∀ c ∈ (n.tailChars ++ rest).head?, c.isDigit = false := by
  intro c hc
  unfold tailChars exponentChars at hc
  split at hc
  · cases hexponent : n.exponent with
    | none =>
      simp only [hexponent, List.nil_append] at hc
      exact (h c hc).1
    | some e =>
      simp only [hexponent, List.nil_append, List.cons_append, List.head?_cons,
        Option.mem_some_iff] at hc
      rw [← hc]
      decide
  · simp only [List.cons_append, List.head?_cons, Option.mem_some_iff] at hc
    rw [← hc]
    decide

theorem head_exponent (h : EndsNumber rest) :
    ∀ c ∈ (n.exponentChars ++ rest).head?, c.isDigit = false ∧ c ≠ '.' := by
  intro c hc
  unfold exponentChars at hc
  cases hexponent : n.exponent with
  | none =>
    simp only [hexponent, List.nil_append] at hc
    exact ⟨(h c hc).1, (h c hc).2.1⟩
  | some e =>
    simp only [hexponent, List.cons_append, List.head?_cons, Option.mem_some_iff] at hc
    rw [← hc]
    decide

theorem scanExponent_exponentChars (h : EndsNumber rest) :
    scanExponent (n.exponentChars ++ rest) = (.ok n.power?, rest) := by
  unfold exponentChars power?
  cases hexponent : n.exponent with
  | none =>
    cases rest with
    | nil => rfl
    | cons c rest =>
      obtain ⟨-, -, hlower, hupper⟩ := h c rfl
      simp [scanExponent, hlower, hupper]
  | some e =>
    obtain ⟨negative, ds⟩ := e
    obtain ⟨hne, hdigits⟩ := n.isDigit_exponent negative ds hexponent
    have hrest : ∀ c ∈ rest.head?, c.isDigit = false := fun c hc => (h c hc).1
    cases negative <;>
      simp [scanExponent, takeWhile_isDigit_append hdigits hrest,
        dropWhile_isDigit_append hdigits hrest, hne]

/-- Without a point the whole digits are followed by the exponent. -/
theorem scanTail_of_ne_point {negative : Bool} {whole cs : List Char}
    (h : ∀ c ∈ cs.head?, c ≠ '.') :
    scanTail negative whole cs = match scanExponent cs with
      | (.ok power, after) => (.ok (numberOfParts negative whole [] power), after)
      | (.error f, after) => (.error f, after) := by
  unfold scanTail
  split
  · exact absurd rfl (h '.' rfl)
  · rfl

theorem scanTail_tailChars (h : EndsNumber rest) :
    scanTail n.negative n.whole (n.tailChars ++ rest) = (.ok n.value, rest) := by
  have hexponent := n.scanExponent_exponentChars h
  have hhead := n.head_exponent h
  unfold tailChars
  by_cases hfraction : n.fraction = []
  · rw [if_pos hfraction, List.nil_append, scanTail_of_ne_point fun c hc => (hhead c hc).2,
      hexponent, value, hfraction]
  · have hrest : ∀ c ∈ (n.exponentChars ++ rest).head?, c.isDigit = false :=
      fun c hc => (hhead c hc).1
    rw [if_neg hfraction, List.append_assoc, List.cons_append, scanTail]
    simp only [takeWhile_isDigit_append n.isDigit_fraction hrest,
      dropWhile_isDigit_append n.isDigit_fraction hrest, hfraction, if_false, hexponent]
    rfl

theorem scanUnsigned_whole (h : EndsNumber rest) :
    scanUnsigned n.negative (n.whole ++ n.tailChars ++ rest) = (.ok n.value, rest) := by
  have hrest := n.isDigit_head_tail h
  rw [List.append_assoc]
  unfold scanUnsigned
  simp only [takeWhile_isDigit_append n.isDigit_whole hrest,
    dropWhile_isDigit_append n.isDigit_whole hrest]
  split
  · rename_i hnil
    exact absurd hnil n.whole_ne_nil
  · rename_i hzero
    exact absurd (n.alone _ hzero) (by simp)
  · exact n.scanTail_tailChars h

/-- **A numeral is read to its end.** -/
theorem scanNumber_chars (h : EndsNumber rest) :
    scanNumber (n.chars ++ rest) = (.ok n.value, rest) := by
  have hunsigned := n.scanUnsigned_whole h
  unfold chars
  cases hsign : n.negative with
  | true =>
    rw [hsign] at hunsigned
    simpa [signChars, scanNumber] using hunsigned
  | false =>
    rw [hsign] at hunsigned
    obtain ⟨c, cs, hwhole⟩ := List.exists_cons_of_ne_nil n.whole_ne_nil
    have hdigit : c.isDigit = true := n.isDigit_whole c (by simp [hwhole])
    have hminus : c ≠ '-' := by
      rintro rfl
      cases hdigit
    simp only [signChars, List.nil_append]
    rw [hwhole, List.cons_append, List.cons_append] at hunsigned ⊢
    unfold scanNumber
    split
    · rename_i heq
      exact absurd (List.cons.inj heq).1 hminus
    · exact hunsigned

/-- A numeral begins with a digit or a minus sign. -/
theorem exists_chars_eq_cons : ∃ c cs, n.chars = c :: cs ∧ (c = '-' ∨ c.isDigit = true) := by
  unfold chars
  cases n.negative with
  | true => exact ⟨'-', _, rfl, .inl rfl⟩
  | false =>
    obtain ⟨c, cs, hwhole⟩ := List.exists_cons_of_ne_nil n.whole_ne_nil
    have hdigit : c.isDigit = true := n.isDigit_whole c (by simp [hwhole])
    exact ⟨c, cs ++ n.tailChars, by simp [signChars, hwhole], .inr hdigit⟩

end Numeral

/-! ### Integers -/

/-- A written integer. -/
def numeralOfInt (n : Int) : Numeral where
  negative := decide (n < 0)
  whole := Nat.toDigits 10 n.natAbs
  fraction := []
  exponent := none
  whole_ne_nil := Nat.toDigits_ne_nil
  isDigit_whole _ := isDigit_of_mem_toDigits
  alone cs h := by
    by_cases hn : n.natAbs = 0
    · rw [hn, Nat.toDigits_zero] at h
      exact (List.cons.inj h).2.symm
    · exact absurd rfl (ne_zero_of_toDigits_eq_cons hn h)
  isDigit_fraction _ h := by cases h
  isDigit_exponent _ _ h := by cases h

theorem chars_numeralOfInt (n : Int) : (numeralOfInt n).chars = intChars n := by
  by_cases hn : n < 0 <;>
    simp [Numeral.chars, signChars, Numeral.tailChars, Numeral.exponentChars, numeralOfInt,
      intChars, hn]

/-- More digits do not make a number smaller. -/
theorem le_foldl_digits (cs : List Char) (word : Nat) :
    word ≤ cs.foldl (fun n c => n * 10 + digitValue c) word := by
  induction cs generalizing word with
  | nil => exact Nat.le_refl word
  | cons c cs ih =>
    have hnext := ih (word * 10 + digitValue c)
    rw [List.foldl_cons]
    omega

/-- Digits of a number that fits a word are gathered into it. -/
theorem gatherWhole_digits {cs : List Char} {word : Nat}
    (h : cs.foldl (fun n c => n * 10 + digitValue c) word ≤ maxWord) :
    gatherWhole word cs = (cs.foldl (fun n c => n * 10 + digitValue c) word, 0) := by
  induction cs generalizing word with
  | nil => rfl
  | cons c cs ih =>
    have hfits := Nat.le_trans (le_foldl_digits cs (word * 10 + digitValue c)) h
    rw [gatherWhole, if_neg (by omega), ih h, List.foldl_cons]

/-- **An integer that a reader can hold is read back as itself.** -/
theorem value_numeralOfInt {n : Int} (hlow : -0x8000000000000000 ≤ n)
    (hhigh : n ≤ 0xFFFFFFFFFFFFFFFF) : (numeralOfInt n).value = .int n := by
  have hword : (Nat.toDigits 10 n.natAbs).foldl (fun n c => n * 10 + digitValue c) 0 = n.natAbs :=
    natOfDigits_toDigits n.natAbs
  have hgather : gatherWhole 0 (Nat.toDigits 10 n.natAbs) = (n.natAbs, 0) := by
    rw [gatherWhole_digits (by rw [hword, maxWord]; omega), hword]
  simp only [Numeral.value, Numeral.power?, numeralOfInt, numberOfParts, hgather, Option.map_none,
    and_self, if_true, decide_eq_true_eq]
  by_cases hn : n < 0
  · rw [if_pos hn, if_neg (by omega)]
    congr 1
    omega
  · rw [if_neg hn]
    congr 1
    omega

/-! ### Doubles -/

section Decimals

variable (negative : Bool) {d : Decimal}

/-- A decimal without digits behind the point, written with a zero there. -/
def numeralOfWhole (hzero : d.digits = 0 → d.power = 0) : Numeral where
  negative := negative
  whole := d.digitChars ++ List.replicate d.power.toNat '0'
  fraction := ['0']
  exponent := none
  whole_ne_nil h := Nat.toDigits_ne_nil (List.append_eq_nil_iff.mp h).1
  isDigit_whole c h := by
    rcases List.mem_append.mp h with hc | hc
    · exact d.isDigit_of_mem_digitChars hc
    · rw [List.eq_of_mem_replicate hc]
      decide
  alone cs h := by
    by_cases hdigits : d.digits = 0
    · rw [Decimal.digitChars, hdigits, Nat.toDigits_zero, hzero hdigits] at h
      exact (List.cons.inj h).2.symm
    · obtain ⟨first, more, hfirst⟩ := List.exists_cons_of_ne_nil
        (Nat.toDigits_ne_nil (n := d.digits) (b := 10))
      rw [Decimal.digitChars, hfirst] at h
      exact absurd (List.cons.inj h).1 (ne_zero_of_toDigits_eq_cons hdigits hfirst)
  isDigit_fraction c h := by
    rw [List.mem_singleton.mp h]
    decide
  isDigit_exponent _ _ h := by cases h

/-- The digits of a decimal with so many zeros in front that there is one before the point. -/
def paddedDigits (d : Decimal) : List Char :=
  List.replicate ((-d.power).toNat + 1 - d.digitChars.length) '0' ++ d.digitChars

theorem isDigit_of_mem_paddedDigits {c : Char} (h : c ∈ paddedDigits d) : c.isDigit = true := by
  rcases List.mem_append.mp h with hc | hc
  · rw [List.eq_of_mem_replicate hc]
    decide
  · exact d.isDigit_of_mem_digitChars hc

theorem lt_length_paddedDigits : (-d.power).toNat < (paddedDigits d).length := by
  rw [paddedDigits, List.length_append, List.length_replicate]
  omega

/-- A decimal with digits behind the point. -/
def numeralOfPoint (hdigits : d.digits ≠ 0) : Numeral where
  negative := negative
  whole := (paddedDigits d).take ((paddedDigits d).length - (-d.power).toNat)
  fraction := (paddedDigits d).drop ((paddedDigits d).length - (-d.power).toNat)
  exponent := none
  whole_ne_nil h := by
    have hlength := congrArg List.length h
    have hlt := lt_length_paddedDigits (d := d)
    rw [List.length_take, List.length_nil] at hlength
    omega
  isDigit_whole c h := isDigit_of_mem_paddedDigits (List.mem_of_mem_take h)
  alone cs h := by
    by_cases hfew : d.digitChars.length ≤ (-d.power).toNat
    · -- All digits stand behind the point, and one zero before it.
      have hlength := congrArg List.length h
      rw [List.length_take, paddedDigits, List.length_append, List.length_replicate,
        List.length_cons] at hlength
      exact List.eq_nil_of_length_eq_zero (by omega)
    · obtain ⟨first, more, hfirst⟩ := List.exists_cons_of_ne_nil
        (Nat.toDigits_ne_nil (n := d.digits) (b := 10))
      have hpadded : paddedDigits d = first :: more := by
        rw [paddedDigits, Nat.sub_eq_zero_of_le (by omega), List.replicate_zero, List.nil_append,
          Decimal.digitChars, hfirst]
      have hlt := lt_length_paddedDigits (d := d)
      cases hcount : (paddedDigits d).length - (-d.power).toNat with
      | zero => omega
      | succ count =>
        rw [hcount, hpadded, List.take_succ_cons] at h
        exact absurd (List.cons.inj h).1 (ne_zero_of_toDigits_eq_cons hdigits hfirst)
  isDigit_fraction c h := isDigit_of_mem_paddedDigits (List.mem_of_mem_drop h)
  isDigit_exponent _ _ h := by cases h

/-- A decimal in scientific form. -/
def numeralOfScientific (d : Decimal) : Numeral where
  negative := negative
  whole := d.digitChars.take 1
  fraction := d.digitChars.drop 1
  exponent := some (decide (d.leading < 0), Nat.toDigits 10 d.leading.natAbs)
  whole_ne_nil h := by
    have hne : d.digitChars ≠ [] := Nat.toDigits_ne_nil
    cases hdigits : d.digitChars with
    | nil => exact hne hdigits
    | cons c cs =>
      rw [hdigits] at h
      cases h
  isDigit_whole c h := d.isDigit_of_mem_digitChars (List.mem_of_mem_take h)
  alone cs h := by
    cases hdigits : d.digitChars with
    | nil => simp [hdigits] at h
    | cons c more =>
      rw [hdigits] at h
      exact (List.cons.inj h).2.symm
  isDigit_fraction c h := d.isDigit_of_mem_digitChars (List.mem_of_mem_drop h)
  isDigit_exponent _ _ h := by
    obtain ⟨rfl, rfl⟩ := Prod.mk.inj (Option.some.inj h)
    exact ⟨Nat.toDigits_ne_nil, fun _ => isDigit_of_mem_toDigits⟩

theorem chars_numeralOfWhole (hzero : d.digits = 0 → d.power = 0) (hpower : 0 ≤ d.power) :
    (numeralOfWhole negative hzero).chars =
      signChars negative ++ (d.positional ++ ['.', '0']) := by
  simp [Numeral.chars, Numeral.tailChars, Numeral.exponentChars, numeralOfWhole,
    Decimal.positional, hpower]

theorem chars_numeralOfPoint (hdigits : d.digits ≠ 0) (hpower : d.power < 0) :
    (numeralOfPoint negative hdigits).chars =
      signChars negative ++ d.positional := by
  have hfraction : (numeralOfPoint negative hdigits).fraction ≠ [] := by
    intro h
    have hlength := congrArg List.length h
    have hlt := lt_length_paddedDigits (d := d)
    simp only [numeralOfPoint, List.length_drop, List.length_nil] at hlength
    omega
  rw [Numeral.chars, Numeral.tailChars, if_neg hfraction]
  simp [Numeral.exponentChars, numeralOfPoint, Decimal.positional, Int.not_le.mpr hpower,
    paddedDigits]

theorem chars_numeralOfScientific (d : Decimal) :
    (numeralOfScientific negative d).chars =
      signChars negative ++ d.scientific := by
  unfold Decimal.scientific
  cases hdigits : d.digitChars.drop 1 with
  | nil =>
    simp [Numeral.chars, Numeral.tailChars, Numeral.exponentChars, numeralOfScientific, hdigits]
  | cons c cs =>
    simp [Numeral.chars, Numeral.tailChars, Numeral.exponentChars, numeralOfScientific, hdigits]

end Decimals

/-- **A double is written as a numeral.** -/
theorem exists_numeral_chars_eq_jsonChars (d : Double) : ∃ n : Numeral, n.chars = d.jsonChars := by
  have hzero : d.magnitude = 0 → d.shortest = ⟨0, 0⟩ := fun h => by rw [Double.shortest, if_pos h]
  have hdigits : d.shortest.digits = 0 → d.magnitude = 0 := by
    refine fun h => Decidable.byContradiction fun hmagnitude => ?_
    exact absurd h (Nat.pos_iff_ne_zero.mp (Double.digits_shortest_pos hmagnitude))
  have hsign : d.signText = signChars d.isNegative := by
    cases h : d.isNegative <;> simp [Double.signText, signChars, h]
  unfold Double.jsonChars
  rw [hsign]
  dsimp only
  split
  · split
    · rename_i hpower
      have hplain : d.shortest.digits = 0 → d.shortest.power = 0 := fun h => by
        rw [hzero (hdigits h)]
      exact ⟨_, chars_numeralOfWhole d.isNegative hplain hpower⟩
    · rename_i hpower
      have hne : d.shortest.digits ≠ 0 := by
        intro h
        rw [hzero (hdigits h)] at hpower
        exact hpower (Int.le_refl 0)
      exact ⟨_, chars_numeralOfPoint d.isNegative hne (Int.not_le.mp hpower)⟩
  · exact ⟨_, chars_numeralOfScientific d.isNegative d.shortest⟩

/-! ### What is read -/

/-- The number that is read from the characters of one. -/
def numberOf (cs : List Char) : Number :=
  match (scanNumber cs).1 with
  | .ok n => n
  | .error _ => .outOfRange

theorem numberOf_chars (n : Numeral) : numberOf n.chars = n.value := by
  have hscan := n.scanNumber_chars endsNumber_nil
  rw [List.append_nil] at hscan
  rw [numberOf, hscan]

/-- Whatever stands behind a number, it is read as it would be by itself. -/
theorem scanNumber_append {cs rest : List Char} (hcs : ∃ n : Numeral, n.chars = cs)
    (h : EndsNumber rest) : scanNumber (cs ++ rest) = (.ok (numberOf cs), rest) := by
  obtain ⟨n, rfl⟩ := hcs
  rw [n.scanNumber_chars h, numberOf_chars]

theorem exists_numeral_chars_eq_intChars (n : Int) : ∃ k : Numeral, k.chars = intChars n :=
  ⟨numeralOfInt n, chars_numeralOfInt n⟩

theorem numberOf_intChars {n : Int} (hlow : -0x8000000000000000 ≤ n)
    (hhigh : n ≤ 0xFFFFFFFFFFFFFFFF) : numberOf (intChars n) = .int n := by
  rw [← chars_numeralOfInt, numberOf_chars, value_numeralOfInt hlow hhigh]

end Json

/-- The reader of numbers gives back the double that was written. It rounds after every step, so
not every double comes back to the last bit. -/
def Double.Returns (d : Double) : Prop := Json.numberOf d.jsonChars = .double d

/-- The double written as `186.36110061415678` comes back as the next one. -/
example : Json.numberOf (⟨4640761014871133134⟩ : Double).jsonChars =
    .double ⟨4640761014871133135⟩ := rfl

end TripWatch
