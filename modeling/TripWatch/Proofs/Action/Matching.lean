import TripWatch.Action.Basic
import TripWatch.Proofs.Geo.Nearest

/-!
# The action that a movement matches

A movement matches the nearest action within the tolerance, the first one of several. Actions that
are not within the tolerance are left out before the nearest one is looked for, so it has to be said
that they do not matter: a greater tolerance only lets farther actions in, and these do not take the
place of one that matched. For the same reason actions may be added to the table, and taken from it,
as long as they are farther than the one that matches.

## Numbers and zeros

The tolerance is compared in the order of numbers, so an action whose proximity is a NaN is never
within it, although the total order of doubles has a place for it. Among those that are within the
tolerance the total order looks for the least one. The order of numbers would find the same one,
unless two of them are at zeros with different signs (`Segment.ordersAgree_of_forall_ne`).

## Main definitions

* `Segment.IsFirstNearest` — an action is the first nearest one within a tolerance, in some order
* `Segment.OrdersAgree` — the two orders of doubles agree on the proximities

## Main results

* `matchingAction?_eq_some_iff` — the action that matches, in the total order
* `Segment.isFirstNearest_iff` — and in the order of numbers
* `matchingAction?_of_le`, `matchingAction?_of_filter_eq`, `matchingAction?_perm` — what does not
  change it
* `nearest_action` — the headline
-/

namespace TripWatch

section Matching

variable {movement : Segment} {actions actions' : List SegmentAction}
  {tolerance tolerance' : Double} {a b : SegmentAction}

/-- An action is the first nearest one within a tolerance. The order says which of two proximities
is less. -/
def Segment.IsFirstNearest (closer : Double → Double → Prop) (movement : Segment)
    (actions : List SegmentAction) (tolerance : Double) (a : SegmentAction) : Prop :=
  ∃ before after, actions = before ++ a :: after ∧ movement.proximity a.segment ≤ tolerance ∧
    (∀ b ∈ before, movement.proximity b.segment ≤ tolerance →
      closer (movement.proximity a.segment) (movement.proximity b.segment)) ∧
    ∀ b ∈ after, movement.proximity b.segment ≤ tolerance →
      ¬ closer (movement.proximity b.segment) (movement.proximity a.segment)

/-- The total order of doubles and the order of numbers agree on the proximities of actions that are
numbers. -/
def Segment.OrdersAgree (movement : Segment) (actions : List SegmentAction) : Prop :=
  ∀ a ∈ actions, ∀ b ∈ actions, (movement.proximity a.segment).isNaN = false →
    (movement.proximity b.segment).isNaN = false →
    ((movement.proximity a.segment).totalKey ≤ (movement.proximity b.segment).totalKey ↔
      movement.proximity a.segment ≤ movement.proximity b.segment)

/-- The orders agree if no proximity is the negative zero. -/
theorem Segment.ordersAgree_of_forall_ne
    (h : ∀ a ∈ actions, movement.proximity a.segment ≠ Double.negativeZero) :
    movement.OrdersAgree actions :=
  fun _ _ b hb ha hb' => Double.totalKey_le_iff ha hb' (h b hb)

/-! ### The action that matches -/

theorem matchingAction?_eq_none_iff :
    matchingAction? movement actions tolerance = none ↔
      ∀ a ∈ actions, ¬ movement.proximity a.segment ≤ tolerance := by
  simp [matchingAction?, nearestBy?_eq_none_iff]

theorem firstLeast_of_matchingAction? (h : matchingAction? movement actions tolerance = some a) :
    FirstLeast (fun b => movement.proximity b.segment)
      (actions.filter fun b => decide (movement.proximity b.segment ≤ tolerance)) a :=
  nearestBy?_eq_some_iff.mp h

theorem mem_of_matchingAction? (h : matchingAction? movement actions tolerance = some a) :
    a ∈ actions ∧ movement.proximity a.segment ≤ tolerance := by
  simpa using (firstLeast_of_matchingAction? h).mem

/-- **The action that matches is the first nearest one.** -/
theorem matchingAction?_eq_some_iff :
    matchingAction? movement actions tolerance = some a ↔
      movement.IsFirstNearest Double.Precedes actions tolerance a := by
  rw [matchingAction?, nearestBy?_eq_some_iff]
  constructor
  · rintro ⟨near, rest, heq, hnear, hrest⟩
    obtain ⟨before, others, rfl, rfl, hothers⟩ := List.filter_eq_append_iff.mp heq
    obtain ⟨skipped, after, rfl, hskipped, ha, rfl⟩ := List.filter_eq_cons_iff.mp hothers
    -- What is skipped before the action is not within the tolerance.
    refine ⟨before ++ skipped, after, by simp, of_decide_eq_true ha, fun b hb hwithin => ?_,
      fun b hb hwithin => hrest b (List.mem_filter.mpr ⟨hb, decide_eq_true hwithin⟩)⟩
    rcases List.mem_append.mp hb with hb | hb
    · exact hnear b (List.mem_filter.mpr ⟨hb, decide_eq_true hwithin⟩)
    · exact absurd (decide_eq_true hwithin) (hskipped b hb)
  · rintro ⟨before, after, rfl, ha, hbefore, hafter⟩
    refine ⟨before.filter fun b => decide (movement.proximity b.segment ≤ tolerance),
      after.filter fun b => decide (movement.proximity b.segment ≤ tolerance), by simp [ha],
      fun b hb => ?_, fun b hb => ?_⟩
    · obtain ⟨hb, hwithin⟩ := List.mem_filter.mp hb
      exact hbefore b hb (of_decide_eq_true hwithin)
    · obtain ⟨hb, hwithin⟩ := List.mem_filter.mp hb
      exact hafter b hb (of_decide_eq_true hwithin)

/-- **Where the orders agree it does not matter in which one the nearest action is looked for.** -/
theorem Segment.isFirstNearest_iff (h : movement.OrdersAgree actions) :
    movement.IsFirstNearest Double.Precedes actions tolerance a ↔
      movement.IsFirstNearest (· < ·) actions tolerance a := by
  have hcloser {b c : SegmentAction} (hb : b ∈ actions) (hc : c ∈ actions)
      (hb' : movement.proximity b.segment ≤ tolerance)
      (hc' : movement.proximity c.segment ≤ tolerance) :
      (movement.proximity b.segment).Precedes (movement.proximity c.segment) ↔
        movement.proximity b.segment < movement.proximity c.segment := by
    have hbNumber := (Double.le_iff.mp hb').1
    have hcNumber := (Double.le_iff.mp hc').1
    rw [← Double.not_le_iff hcNumber hbNumber, ← h c hc b hb hcNumber hbNumber,
      ← Double.not_precedes_iff, not_not]
  unfold IsFirstNearest
  refine exists_congr fun before => exists_congr fun after => and_congr_right fun heq =>
    and_congr_right fun ha => ?_
  have hmem : a ∈ actions := by simp [heq]
  refine and_congr ?_ ?_
  · refine forall₂_congr fun b hb => imp_congr_right fun hwithin => ?_
    exact hcloser hmem (by simp [heq, hb]) ha hwithin
  · refine forall₂_congr fun b hb => imp_congr_right fun hwithin => not_congr ?_
    exact hcloser (by simp [heq, hb]) hmem hwithin ha

/-! ### What does not change it -/

/-- Of two actions within a tolerance one that is not as near as the other comes after it. -/
theorem precedes_of_not_le (ha : movement.proximity a.segment ≤ tolerance)
    (hb : movement.proximity b.segment ≤ tolerance')
    (h : ¬ movement.proximity b.segment ≤ movement.proximity a.segment) :
    (movement.proximity a.segment).Precedes (movement.proximity b.segment) :=
  .of_lt ((Double.not_le_iff (Double.le_iff.mp hb).1 (Double.le_iff.mp ha).1).mp h)

/-- Whatever is farther than the action that matches can be left out. -/
theorem matchingAction?_filter_eq_some_iff (keep : SegmentAction → Bool) (ha : keep a = true)
    (hkeep : ∀ b ∈ actions, keep b = false →
      ¬ movement.proximity b.segment ≤ movement.proximity a.segment) :
    matchingAction? movement (actions.filter keep) tolerance = some a ↔
      matchingAction? movement actions tolerance = some a := by
  by_cases hwithin : movement.proximity a.segment ≤ tolerance
  · rw [matchingAction?, matchingAction?, List.filter_comm]
    refine nearestBy?_filter_eq_some_iff ha fun b hb hnot => ?_
    obtain ⟨hb, hb'⟩ := List.mem_filter.mp hb
    exact precedes_of_not_le hwithin (of_decide_eq_true hb') (hkeep b hb hnot)
  · exact iff_of_false (fun h => hwithin (mem_of_matchingAction? h).2)
      fun h => hwithin (mem_of_matchingAction? h).2

/-- **A greater tolerance does not change the action that matches.** -/
theorem matchingAction?_of_le (hle : tolerance ≤ tolerance')
    (h : matchingAction? movement actions tolerance = some a) :
    matchingAction? movement actions tolerance' = some a := by
  let near := fun b : SegmentAction => decide (movement.proximity b.segment ≤ tolerance)
  have ha : movement.proximity a.segment ≤ tolerance := (mem_of_matchingAction? h).2
  have hsame : ((actions.filter near).filter fun b =>
      decide (movement.proximity b.segment ≤ tolerance')) = actions.filter near := by
    refine List.filter_eq_self.mpr fun b hb => decide_eq_true ?_
    exact Double.le_trans (of_decide_eq_true (List.mem_filter.mp hb).2) hle
  have hnear : matchingAction? movement (actions.filter near) tolerance' = some a := by
    rw [matchingAction?, hsame]
    exact h
  refine (matchingAction?_filter_eq_some_iff near (decide_eq_true ha) fun b _ hb hle => ?_).mp hnear
  exact of_decide_eq_false hb (Double.le_trans hle ha)

/-- **Actions that are farther than the one that matches do not matter**: it matches in any table
with the same actions that are as near. -/
theorem matchingAction?_of_filter_eq
    (hsame : (actions.filter fun b =>
        decide (movement.proximity b.segment ≤ movement.proximity a.segment)) =
      actions'.filter fun b =>
        decide (movement.proximity b.segment ≤ movement.proximity a.segment))
    (h : matchingAction? movement actions tolerance = some a) :
    matchingAction? movement actions' tolerance = some a := by
  have ha : movement.proximity a.segment ≤ movement.proximity a.segment :=
    Double.le_self_iff.mpr (Double.le_iff.mp (mem_of_matchingAction? h).2).1
  let near := fun b : SegmentAction =>
    decide (movement.proximity b.segment ≤ movement.proximity a.segment)
  have hdrop (table : List SegmentAction) :
      matchingAction? movement (table.filter near) tolerance = some a ↔
        matchingAction? movement table tolerance = some a :=
    matchingAction?_filter_eq_some_iff near (decide_eq_true ha) fun b _ => of_decide_eq_false
  rw [← hdrop, ← hsame, hdrop]
  exact h

/-- Of actions that match in tables with the same actions no one is farther. -/
theorem not_precedes_of_matchingAction? (hsub : ∀ c ∈ actions', c ∈ actions)
    (h : matchingAction? movement actions tolerance = some a)
    (h' : matchingAction? movement actions' tolerance = some b) :
    ¬ (movement.proximity b.segment).Precedes (movement.proximity a.segment) := by
  obtain ⟨hb, hwithin⟩ := mem_of_matchingAction? h'
  exact (firstLeast_of_matchingAction? h).not_precedes
    (List.mem_filter.mpr ⟨hsub b hb, decide_eq_true hwithin⟩)

/-- **The order of a table only decides between actions of equal proximity.** -/
theorem matchingAction?_perm (hperm : actions.Perm actions') :
    Option.Rel (fun a b => movement.proximity a.segment = movement.proximity b.segment)
      (matchingAction? movement actions tolerance)
      (matchingAction? movement actions' tolerance) := by
  have hnone : matchingAction? movement actions tolerance = none ↔
      matchingAction? movement actions' tolerance = none := by
    simp [matchingAction?_eq_none_iff, hperm.mem_iff]
  cases h : matchingAction? movement actions tolerance with
  | none =>
    rw [hnone.mp h]
    exact .none
  | some a =>
    cases h' : matchingAction? movement actions' tolerance with
    | none => exact absurd (hnone.mpr h') (by simp [h])
    | some b =>
      have hle := not_precedes_of_matchingAction? (fun c => hperm.mem_iff.mpr) h h'
      have hge := not_precedes_of_matchingAction? (fun c => hperm.mem_iff.mp) h' h
      exact .some <| Double.totalKey_injective <|
        Int.le_antisymm (Double.not_precedes_iff.mp hle) (Double.not_precedes_iff.mp hge)

end Matching

/-- **A movement matches the nearest action.** For every movement, table of actions and tolerance:

* no action matches exactly if none is within the tolerance, and one whose proximity is a NaN never
  does;
* otherwise the action that matches is the first one of those within the tolerance whose proximity
  is the least, in the total order of doubles, and in the order of numbers where the two agree;
* a greater tolerance does not change it;
* nor does a table with the same actions as near as it is, whatever stands among them that is
  farther or whose proximity is a NaN;
* in another order of the table an action matches that is as near. -/
theorem nearest_action (movement : Segment) (actions : List SegmentAction) (tolerance : Double) :
    (matchingAction? movement actions tolerance = none ↔
        ∀ a ∈ actions, ¬ movement.proximity a.segment ≤ tolerance) ∧
      (∀ a, (movement.proximity a.segment).isNaN = true →
        matchingAction? movement actions tolerance ≠ some a) ∧
      (∀ a, matchingAction? movement actions tolerance = some a ↔
        movement.IsFirstNearest Double.Precedes actions tolerance a) ∧
      (movement.OrdersAgree actions → ∀ a,
        matchingAction? movement actions tolerance = some a ↔
          movement.IsFirstNearest (· < ·) actions tolerance a) ∧
      (∀ a tolerance', matchingAction? movement actions tolerance = some a →
        tolerance ≤ tolerance' → matchingAction? movement actions tolerance' = some a) ∧
      (∀ a actions', matchingAction? movement actions tolerance = some a →
        ((actions.filter fun b =>
            decide (movement.proximity b.segment ≤ movement.proximity a.segment)) =
          actions'.filter fun b =>
            decide (movement.proximity b.segment ≤ movement.proximity a.segment)) →
        matchingAction? movement actions' tolerance = some a) ∧
      ∀ actions', actions.Perm actions' →
        Option.Rel (fun a b => movement.proximity a.segment = movement.proximity b.segment)
          (matchingAction? movement actions tolerance)
          (matchingAction? movement actions' tolerance) := by
  refine ⟨matchingAction?_eq_none_iff, fun a hnan h => ?_,
    fun a => matchingAction?_eq_some_iff, fun hagree a => ?_,
    fun a tolerance' h hle => matchingAction?_of_le hle h,
    fun a actions' h hsame => matchingAction?_of_filter_eq hsame h,
    fun actions' hperm => matchingAction?_perm hperm⟩
  · have hnumber := (Double.le_iff.mp (mem_of_matchingAction? h).2).1
    simp [hnumber] at hnan
  · rw [matchingAction?_eq_some_iff, Segment.isFirstNearest_iff hagree]

end TripWatch
