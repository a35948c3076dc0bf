/-!
# Calculations with words

A word holds the whole numbers of sixty-four bits. Where the result of an operation is none of
these, there is no word for it, and whatever is being calculated ends there without a result. A
`Calculation` is a value together with the operations by which it is found, and it comes to its
value if all of these fit (`Calculation.run?`).

A difference that stops at the ends of the range is exact by its own rule, so it always fits.

## Main definitions

* `IsWord` — the whole numbers that a word holds
* `WordOp`, `WordOp.exact`, `WordOp.word` — an operation, its exact result and its word
* `Calculation`, `Calculation.Fits` — a value and how it is found
* `Calculation.run?` — the value that a calculation comes to
-/

namespace TripWatch

/-- A whole number of sixty-four bits. -/
def IsWord (n : Int) : Prop := -0x8000000000000000 ≤ n ∧ n < 0x8000000000000000

instance (n : Int) : Decidable (IsWord n) := inferInstanceAs (Decidable (_ ∧ _))

/-! ### Operations -/

/-- An operation on words. -/
inductive WordOp where
  /-- A difference. -/
  | difference (a b : Int64)
  /-- A difference that stops at the ends of the range. -/
  | clampedDifference (a b : Int64)
  /-- A product. -/
  | product (a b : Int64)
  /-- The distance from zero. -/
  | magnitude (a : Int64)

namespace WordOp

/-- The result in whole numbers. -/
def exact : WordOp → Int
  | difference a b => a.toInt - b.toInt
  | clampedDifference a b =>
    max (min (a.toInt - b.toInt) Int64.maxValue.toInt) Int64.minValue.toInt
  | product a b => a.toInt * b.toInt
  | magnitude a => a.toInt.natAbs

/-- The word of the result. It is of use only where the result has one. -/
def word : WordOp → Int64
  | difference a b => a - b
  | clampedDifference a b => .ofIntClamp (a.toInt - b.toInt)
  | product a b => a * b
  | magnitude a => a.abs

@[simp] theorem word_difference (a b : Int64) : (difference a b).word = a - b := rfl

@[simp] theorem word_product (a b : Int64) : (product a b).word = a * b := rfl

@[simp] theorem word_magnitude (a : Int64) : (magnitude a).word = a.abs := rfl

/-- The result is a word. -/
def Fits (op : WordOp) : Prop := IsWord op.exact

instance (op : WordOp) : Decidable op.Fits := inferInstanceAs (Decidable (IsWord _))

end WordOp

/-! ### Calculations -/

/-- A value and the operations by which it is found, in order. -/
structure Calculation (α : Type) where
  /-- The value. -/
  value : α
  /-- The operations. -/
  operations : List WordOp

namespace Calculation

variable {α β : Type}

instance : Monad Calculation where
  pure a := ⟨a, []⟩
  bind c f := ⟨(f c.value).value, c.operations ++ (f c.value).operations⟩

/-- One operation. -/
def perform (op : WordOp) : Calculation Int64 := ⟨op.word, [op]⟩

/-- The results of all operations are words. -/
def Fits (c : Calculation α) : Prop := ∀ op ∈ c.operations, op.Fits

instance (c : Calculation α) : Decidable c.Fits := inferInstanceAs (Decidable (∀ op ∈ _, _))

/-- What a calculation comes to: its value, or nothing if an operation on the way does not fit. -/
def run? (c : Calculation α) : Option α := if c.Fits then some c.value else none

@[simp] theorem value_pure (a : α) : (pure a : Calculation α).value = a := rfl

@[simp] theorem value_bind (c : Calculation α) (f : α → Calculation β) :
    (c >>= f).value = (f c.value).value := rfl

@[simp] theorem value_perform (op : WordOp) : (perform op).value = op.word := rfl

@[simp] theorem value_ite (p : Prop) [Decidable p] (c d : Calculation α) :
    (if p then c else d).value = if p then c.value else d.value := apply_ite value p c d

@[simp] theorem fits_pure (a : α) : (pure a : Calculation α).Fits := fun _ h => nomatch h

/-- One calculation after the other fits if both do. -/
@[simp] theorem fits_bind {c : Calculation α} {f : α → Calculation β} :
    (c >>= f).Fits ↔ c.Fits ∧ (f c.value).Fits := List.forall_mem_append

@[simp] theorem fits_perform {op : WordOp} : (perform op).Fits ↔ op.Fits :=
  List.forall_mem_singleton

theorem run?_of_fits {c : Calculation α} (h : c.Fits) : c.run? = some c.value := if_pos h

theorem run?_eq_none_iff {c : Calculation α} : c.run? = none ↔ ¬ c.Fits := by
  unfold run?
  split <;> simp [*]

theorem run?_eq_some_iff {c : Calculation α} {a : α} : c.run? = some a ↔ c.Fits ∧ c.value = a := by
  unfold run?
  split <;> simp [*]

/-- A calculation that fits where another one does comes to what its value is made of. -/
theorem run?_eq_map {c : Calculation α} {d : Calculation β} {f : α → β} (hfits : d.Fits ↔ c.Fits)
    (hvalue : d.value = f c.value) : d.run? = c.run?.map f := by
  unfold run?
  simp only [hfits, hvalue]
  split <;> rfl

@[simp] theorem run?_pure (a : α) : (pure a : Calculation α).run? = some a := rfl

end Calculation

end TripWatch
