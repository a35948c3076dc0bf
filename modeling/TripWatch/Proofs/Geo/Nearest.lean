import Mathlib.Data.List.Basic
import TripWatch.Geo.Distance

/-!
# The nearest of several

The nearest item of a list is the first one at the least distance. What makes this a useful notion
is that it does not care for anything farther: items beyond the nearest one may be added or taken
away anywhere, and it stays the nearest.

## Two orders of doubles

Distances are compared twice. Whether something is within a tolerance is asked in the order of
numbers, in which a NaN compares with nothing and both zeros are equal; the least distance is looked
for in the total order, in which every double has its own place. On numbers the second refines the
first, so what is less as a number is less in total, and the two differ only on a pair of zeros.

## Main definitions

* `Double.Precedes` — the strict total order
* `FirstLeast` — the first item at the least distance

## Main results

* `Double.totalKey_le_iff` — the two orders agree on numbers, but for the negative zero
* `nearestBy?_eq_some_iff` — the nearest item is the first one at the least distance
* `nearestBy?_filter_eq_some_iff` — farther items do not matter
-/

namespace TripWatch

/-! ### Orders of doubles -/

namespace Double

/-- A double comes before another one in the total order. -/
def Precedes (x y : Double) : Prop := x.totalKey < y.totalKey

/-- The zero with the sign bit set. -/
def negativeZero : Double := ofMagnitude true 0

variable {x y z : Double}

theorem not_precedes_iff : ¬ x.Precedes y ↔ y.totalKey ≤ x.totalKey := Int.not_lt

theorem not_precedes_self (x : Double) : ¬ x.Precedes x := Int.lt_irrefl _

theorem Precedes.not_precedes (h : x.Precedes y) : ¬ y.Precedes x :=
  not_precedes_iff.mpr (Int.le_of_lt h)

theorem Precedes.of_not_precedes (h : x.Precedes y) (h' : ¬ z.Precedes y) : x.Precedes z :=
  Int.lt_of_lt_of_le h (not_precedes_iff.mp h')

theorem le_iff : x ≤ y ↔ x.isNaN = false ∧ y.isNaN = false ∧ x.numericKey ≤ y.numericKey := by
  change x.le y = true ↔ _
  simp [Double.le, and_assoc]

/-- A NaN is the only double that is not as little as itself. -/
theorem le_self_iff : x ≤ x ↔ x.isNaN = false := by simp [le_iff]

theorem lt_iff : x < y ↔ x.isNaN = false ∧ y.isNaN = false ∧ x.numericKey < y.numericKey := by
  change x.lt y = true ↔ _
  simp [Double.lt, and_assoc]

/-- Numbers can be compared. -/
theorem not_le_iff (hx : x.isNaN = false) (hy : y.isNaN = false) : ¬ x ≤ y ↔ y < x := by
  simp [le_iff, lt_iff, hx, hy]

protected theorem le_trans (h : x ≤ y) (h' : y ≤ z) : x ≤ z := by
  rw [le_iff] at h h' ⊢
  exact ⟨h.1, h'.2.1, by omega⟩

theorem bits_eq (x : Double) :
    x.bits.toNat = x.magnitude + if x.isNegative then Nat.pow 2 63 else 0 := by
  have hlt := x.bits.toNat_lt
  simp only [magnitude, isNegative, decide_eq_true_eq, Nat.pow_eq]
  split <;> omega

/-- Every double has its own place in the total order. -/
theorem totalKey_injective : Function.Injective totalKey := by
  intro x y h
  have hsign : x.isNegative = y.isNegative := by
    unfold totalKey at h
    cases hx : x.isNegative <;> cases hy : y.isNegative <;> simp [hx, hy] at h ⊢ <;> omega
  have hmagnitude : x.magnitude = y.magnitude := by
    unfold totalKey at h
    rw [hsign] at h
    split at h <;> omega
  have hbits : x.bits.toNat = y.bits.toNat := by
    rw [bits_eq, bits_eq, hsign, hmagnitude]
  cases x
  cases y
  exact congrArg Double.mk (UInt64.toNat.inj hbits)

theorem numericKey_le_of_totalKey_le (h : x.totalKey ≤ y.totalKey) :
    x.numericKey ≤ y.numericKey := by
  unfold totalKey at h
  unfold numericKey
  split_ifs at h ⊢ <;> omega

/-- What is less as a number comes before in the total order. -/
theorem Precedes.of_lt (h : x < y) : x.Precedes y := by
  by_contra hnot
  have hle := numericKey_le_of_totalKey_le (not_precedes_iff.mp hnot)
  have hlt := (lt_iff.mp h).2.2
  omega

/-- Numbers in the total order are ordered as numbers. -/
theorem le_of_not_precedes (hx : x.isNaN = false) (hy : y.isNaN = false) (h : ¬ y.Precedes x) :
    x ≤ y :=
  le_iff.mpr ⟨hx, hy, numericKey_le_of_totalKey_le (not_precedes_iff.mp h)⟩

/-- **The two orders agree on numbers**, unless one of them is the negative zero. -/
theorem totalKey_le_iff (hx : x.isNaN = false) (hy : y.isNaN = false) (hy' : y ≠ negativeZero) :
    x.totalKey ≤ y.totalKey ↔ x ≤ y := by
  refine ⟨fun h => le_of_not_precedes hx hy (not_precedes_iff.mpr h), fun h => ?_⟩
  by_contra hnot
  have hkeys := (le_iff.mp h).2.2
  have hzero : y.totalKey = negativeZero.totalKey := by
    have hplace : negativeZero.totalKey = -1 := by decide
    rw [hplace]
    unfold totalKey numericKey at *
    split_ifs at * <;> omega
  exact hy' (totalKey_injective hzero)

end Double

/-! ### The first item at the least distance -/

section Nearest

variable {α : Type} {distance : α → Double} {items : List α} {a : α}

/-- An item is the first one of a list at the least distance. -/
def FirstLeast (distance : α → Double) (items : List α) (a : α) : Prop :=
  ∃ before after, items = before ++ a :: after ∧
    (∀ b ∈ before, (distance a).Precedes (distance b)) ∧
    ∀ b ∈ after, ¬ (distance b).Precedes (distance a)

theorem FirstLeast.mem (h : FirstLeast distance items a) : a ∈ items := by
  obtain ⟨before, after, rfl, -⟩ := h
  simp

theorem FirstLeast.not_precedes (h : FirstLeast distance items a) {b : α} (hb : b ∈ items) :
    ¬ (distance b).Precedes (distance a) := by
  obtain ⟨before, after, rfl, hbefore, hafter⟩ := h
  rcases List.mem_append.mp hb with hb | hb
  · exact (hbefore b hb).not_precedes
  · rcases List.mem_cons.mp hb with rfl | hb
    · exact Double.not_precedes_self _
    · exact hafter b hb

/-- The first item of a list is the one, or it is farther than the one in the rest. -/
theorem firstLeast_cons_iff {first : α} :
    FirstLeast distance (first :: items) a ↔
      (first = a ∧ ∀ b ∈ items, ¬ (distance b).Precedes (distance a)) ∨
        ((distance a).Precedes (distance first) ∧ FirstLeast distance items a) := by
  constructor
  · rintro ⟨_ | ⟨b, before⟩, after, heq, hbefore, hafter⟩
    · obtain ⟨rfl, rfl⟩ := List.cons.inj heq
      exact .inl ⟨rfl, hafter⟩
    · obtain ⟨rfl, rfl⟩ := List.cons.inj heq
      obtain ⟨hfirst, hbefore⟩ := List.forall_mem_cons.mp hbefore
      exact .inr ⟨hfirst, before, after, rfl, hbefore, hafter⟩
  · rintro (⟨rfl, hafter⟩ | ⟨hfirst, before, after, rfl, hbefore, hafter⟩)
    · exact ⟨[], items, rfl, by simp, hafter⟩
    · exact ⟨first :: before, after, rfl, List.forall_mem_cons.mpr ⟨hfirst, hbefore⟩, hafter⟩

theorem not_firstLeast_nil : ¬ FirstLeast distance [] a := fun h => by simpa using h.mem

/-- Only in an empty list there is no nearest item. -/
theorem nearestBy?_eq_none_iff : nearestBy? distance items = none ↔ items = [] := by
  cases items with
  | nil => simp [nearestBy?]
  | cons first rest =>
    simp only [nearestBy?, reduceCtorEq, iff_false]
    split
    · simp
    · split <;> simp

/-- **The nearest item is the first one at the least distance.** -/
theorem nearestBy?_eq_some_iff :
    nearestBy? distance items = some a ↔ FirstLeast distance items a := by
  induction items generalizing a with
  | nil => simp [nearestBy?, not_firstLeast_nil]
  | cons first rest ih =>
    rw [firstLeast_cons_iff, nearestBy?]
    cases hrest : nearestBy? distance rest with
    | none =>
      obtain rfl := nearestBy?_eq_none_iff.mp hrest
      simp [not_firstLeast_nil]
    | some b =>
      have hb : FirstLeast distance rest b := ih.mp hrest
      have hunique : FirstLeast distance rest a ↔ b = a := by
        rw [← ih, hrest, Option.some.injEq]
      rw [hunique]
      by_cases hcloser : (distance b).totalKey < (distance first).totalKey
      · have hnot : ¬ (first = a ∧ ∀ b ∈ rest, ¬ (distance b).Precedes (distance a)) := by
          rintro ⟨rfl, hall⟩
          exact hall b hb.mem hcloser
        have hsome : (b = a) ↔ (distance a).Precedes (distance first) ∧ b = a :=
          ⟨fun h => ⟨h ▸ hcloser, h⟩, And.right⟩
        simp only [hnot, false_or, ← hsome]
        rw [if_pos hcloser, Option.some.injEq]
      · have hfarther : ¬ ((distance a).Precedes (distance first) ∧ b = a) := by
          rintro ⟨hcloser', rfl⟩
          exact hcloser hcloser'
        have hall : ∀ c ∈ rest, ¬ (distance c).Precedes (distance first) := fun c hc hcloser' =>
          hb.not_precedes hc (hcloser'.of_not_precedes hcloser)
        simp only [hfarther, or_false]
        rw [if_neg hcloser, Option.some.injEq]
        exact ⟨fun h => ⟨h, h ▸ hall⟩, And.left⟩

/-- **Farther items do not matter**, wherever they stand. -/
theorem nearestBy?_filter_eq_some_iff {keep : α → Bool} (ha : keep a = true)
    (hfarther : ∀ b ∈ items, keep b = false → (distance a).Precedes (distance b)) :
    nearestBy? distance (items.filter keep) = some a ↔ nearestBy? distance items = some a := by
  rw [nearestBy?_eq_some_iff, nearestBy?_eq_some_iff]
  induction items with
  | nil => rfl
  | cons first rest ih =>
    obtain ⟨hfirst, hrest⟩ := List.forall_mem_cons.mp hfarther
    specialize ih hrest
    cases hkeep : keep first with
    | false =>
      have hne : first ≠ a := by
        rintro rfl
        simp [ha] at hkeep
      rw [List.filter_cons_of_neg (by simp [hkeep]), firstLeast_cons_iff, ih]
      simp [hne, hfirst hkeep]
    | true =>
      have hall : (∀ b ∈ rest.filter keep, ¬ (distance b).Precedes (distance a)) ↔
          ∀ b ∈ rest, ¬ (distance b).Precedes (distance a) := by
        refine ⟨fun h b hb => ?_, fun h b hb => h b (List.mem_filter.mp hb).1⟩
        cases hb' : keep b with
        | true => exact h b (List.mem_filter.mpr ⟨hb, hb'⟩)
        | false => exact (hrest b hb hb').not_precedes
      rw [List.filter_cons_of_pos hkeep, firstLeast_cons_iff, firstLeast_cons_iff, ih, hall]

end Nearest

end TripWatch
