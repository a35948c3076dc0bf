import Mathlib.Algebra.Order.Ring.Int
import Mathlib.Tactic.Linarith
import TripWatch.Proofs.Check.Ends
import TripWatch.Proofs.Number.Calculation

/-!
# The baseline of a delay over a whole run

`checkDelay` compares an estimated time with a baseline that starts at the scheduled time and moves
only when the rider is told. So the baseline is the last time that the rider was told, and as long
as an estimate stays near to it nothing is said, however often it is compared.

## Reading in integers

Instants are words, and the difference of two words need not be one. `Comparable` says of two
instants that it is, in either direction. It is asked of the first scheduled time and the estimates
among each other, since those are what a baseline can ever be. Later scheduled times play no part in
what is told, since a baseline that is there is not looked up in the timetable again. They do in its
wording, so it takes an estimate that can be compared with the scheduled time of its own call for
that call to come to an end.

## Counting

Each notification takes a move of at least the threshold away from the baseline, and the baseline
moves to where the estimate is. So the estimates have to travel the threshold for each notification:
`countP_isTold_mul_le` bounds the number of notifications by the length of their way, with the
distance of the estimate from the baseline as what is travelled but not yet told.

## Main definitions

* `DelayCall`, `DelayEntry`, `delayRun` — calls on one baseline, and what becomes of them
* `lastTold?` — the estimate that was told last
* `variation` — the length of the way along some numbers

## Main results

* `delayRun_cons` — one call, in integers
* `delayRun_entry` — every call of a run compares with what was told last
* `run?_of_mem_delayRun` — every call of a run comes to its entry
* `delayRun_hysteresis` — the headline, with the bound on the number of notifications
-/

namespace TripWatch

open Calculation

/-! ### One comparison -/

/-- The difference of two instants is the same as that of their numbers, in both directions. -/
def Comparable (a b : Instant) : Prop := |a.toInt - b.toInt| < 2 ^ 63

instance (a b : Instant) : Decidable (Comparable a b) :=
  inferInstanceAs (Decidable (|a.toInt - b.toInt| < 2 ^ 63))

/-- A threshold in milliseconds, as a number. -/
def millis (threshold : UInt32) : ℤ := threshold.toNat * 60000

theorem millis_pos {threshold : UInt32} (h : 0 < threshold) : 0 < millis threshold := by
  have : 0 < threshold.toNat := UInt32.lt_iff_toNat_lt.mp h
  simp only [millis]
  omega

theorem toInt_toUInt64_toInt64 (n : UInt32) : n.toUInt64.toInt64.toInt = n.toNat := by
  have hlt : n.toNat < 2 ^ 32 := n.toNat_lt
  change n.toUInt64.toInt64.toBitVec.toInt = _
  rw [UInt64.toBitVec_toInt64, BitVec.toInt_eq_toNat_of_lt] <;> simp
  omega

/-- A threshold in milliseconds always fits. -/
theorem fits_thresholdMillis (threshold : UInt32) : (thresholdMillis threshold).Fits := by
  have hlt : threshold.toNat < 2 ^ 32 := threshold.toNat_lt
  have hminute : (60000 : Int64).toInt = 60000 := rfl
  rw [thresholdMillis, fits_perform, WordOp.Fits, WordOp.exact, toInt_toUInt64_toInt64, hminute,
    IsWord]
  omega

theorem toInt_thresholdMillis (threshold : UInt32) :
    (thresholdMillis threshold).value.toInt = millis threshold := by
  have hfits := fits_perform.mp (fits_thresholdMillis threshold)
  rw [thresholdMillis, value_perform, (WordOp.fits_iff _).mp hfits, WordOp.exact,
    toInt_toUInt64_toInt64]
  rfl

/-- A difference and its distance from zero fit exactly if they do in both directions. -/
theorem fits_distance_iff {a b : Instant} :
    (WordOp.difference a b).Fits ∧ (WordOp.magnitude (a - b)).Fits ↔ Comparable a b := by
  rw [Comparable, abs_lt]
  constructor
  · rintro ⟨hsub, habs⟩
    rw [WordOp.Fits, WordOp.exact_magnitude, WordOp.toInt_sub hsub] at habs
    exact abs_lt.mp habs.2
  · rintro ⟨hlow, hhigh⟩
    have hsub : IsWord (a.toInt - b.toInt) := ⟨le_of_lt hlow, hhigh⟩
    refine ⟨hsub, ?_⟩
    rw [WordOp.Fits, WordOp.exact_magnitude, WordOp.toInt_sub hsub]
    exact ⟨le_trans (by norm_num) (abs_nonneg _), abs_lt.mpr ⟨hlow, hhigh⟩⟩

theorem toInt_abs_sub {a b : Instant} (h : Comparable a b) :
    (a - b).abs.toInt = |a.toInt - b.toInt| := by
  obtain ⟨hsub, habs⟩ := fits_distance_iff.mpr h
  rw [WordOp.toInt_abs habs, WordOp.toInt_sub hsub]

/-- A comparison, in integers: what is told is a difference that reaches the threshold. -/
theorem value_checkDelay_of_comparable (kind : DelayKind) {current scheduled : Instant}
    {baseline : Option Instant} {threshold : UInt32} (hT : 0 < threshold)
    (h : Comparable current (baseline.getD scheduled)) :
    (checkDelay kind current scheduled baseline threshold).value =
      if millis threshold ≤ |current.toInt - (baseline.getD scheduled).toInt| then
        (some (delayNotification kind current scheduled).value, current)
      else (none, baseline.getD scheduled) := by
  have hpos := millis_pos hT
  have hcond : ((current - baseline.getD scheduled).abs = 0 ∨
      (current - baseline.getD scheduled).abs < (thresholdMillis threshold).value) ↔
      ¬ millis threshold ≤ |current.toInt - (baseline.getD scheduled).toInt| := by
    rw [← Int64.toInt_inj, Int64.lt_iff_toInt_lt, toInt_thresholdMillis, toInt_abs_sub h,
      Int64.toInt_zero]
    omega
  simp only [value_checkDelay, hcond]
  rw [ite_not]

theorem fits_delayNotification {kind : DelayKind} {current scheduled : Instant} :
    (delayNotification kind current scheduled).Fits ↔ Comparable current scheduled := by
  simpa [delayNotification, varianceText] using fits_distance_iff

/-- **A comparison fits** exactly if the estimated time can be compared with what it is compared
with, and where it is told, with the scheduled time too. -/
theorem fits_checkDelay_iff {kind : DelayKind} {current scheduled : Instant}
    {baseline : Option Instant} {threshold : UInt32} :
    (checkDelay kind current scheduled baseline threshold).Fits ↔
      Comparable current (baseline.getD scheduled) ∧
        ((checkDelay kind current scheduled baseline threshold).value.1.isSome →
          Comparable current scheduled) := by
  rw [fits_checkDelay, fits_distance_iff, fits_delayNotification,
    and_iff_right (fits_thresholdMillis threshold)]

/-! ### Runs on one baseline -/

/-- What one call is given: an estimated time and the scheduled time of the moment. -/
structure DelayCall where
  /-- The estimated time. -/
  estimate : Instant
  /-- The scheduled time. -/
  scheduled : Instant

/-- What became of a call. -/
structure DelayEntry where
  /-- The call. -/
  call : DelayCall
  /-- The baseline before it. -/
  before : Option Instant
  /-- What the rider was told. -/
  told : Option Notification
  /-- The baseline after it. -/
  after : Instant

/-- Whether the rider was told anything. -/
def DelayEntry.isTold (e : DelayEntry) : Bool := e.told.isSome

/-- A sequence of calls, each with the baseline that the one before left behind. -/
def delayRun (kind : DelayKind) (threshold : UInt32) :
    Option Instant → List DelayCall → List DelayEntry
  | _, [] => []
  | baseline, c :: rest =>
    let r := (checkDelay kind c.estimate c.scheduled baseline threshold).value
    ⟨c, baseline, r.1, r.2⟩ :: delayRun kind threshold (some r.2) rest

/-- The estimate that the rider was told last. -/
def lastTold? (entries : List DelayEntry) : Option Instant :=
  (entries.reverse.find? DelayEntry.isTold).map fun e => e.call.estimate

/-- The length of the way along some numbers. -/
def variation : List ℤ → ℤ
  | a :: b :: rest => |b - a| + variation (b :: rest)
  | _ => 0

theorem map_call_delayRun (kind : DelayKind) (threshold : UInt32) (baseline : Option Instant)
    (calls : List DelayCall) :
    (delayRun kind threshold baseline calls).map DelayEntry.call = calls := by
  induction calls generalizing baseline with
  | nil => rfl
  | cons c rest ih => simp [delayRun, ih]

/-- What was told last, when one more call came first. -/
theorem lastTold?_cons_getD (e : DelayEntry) (entries : List DelayEntry) (d : Instant) :
    (lastTold? (e :: entries)).getD d =
      (lastTold? entries).getD (if e.isTold then e.call.estimate else d) := by
  cases h : entries.reverse.find? DelayEntry.isTold <;> cases he : e.isTold <;>
    simp [lastTold?, h, he]

section Run

variable (kind : DelayKind) {threshold : UInt32} {baseline : Option Instant} {reference : Instant}
  {c : DelayCall} {rest : List DelayCall}

/-- The baseline and the estimates to come can be compared with each other. -/
def RunComparable (reference : Instant) (calls : List DelayCall) : Prop :=
  (reference :: calls.map DelayCall.estimate).Pairwise Comparable

/-- **One call of a run, in integers.** It tells of an estimate that has moved by the threshold. The
baseline afterwards is the estimate if it was told, and the reference otherwise, and the rest of the
run goes on from there. The call comes to an end if the estimate can be compared with the scheduled
time. -/
theorem delayRun_cons (hT : 0 < threshold) (hb : baseline.getD c.scheduled = reference)
    (hcmp : RunComparable reference (c :: rest)) :
    ∃ e : DelayEntry, delayRun kind threshold baseline (c :: rest) =
        e :: delayRun kind threshold (some e.after) rest ∧
      e.call = c ∧ e.before = baseline ∧
      (e.isTold = true ↔ millis threshold ≤ |c.estimate.toInt - reference.toInt|) ∧
      e.after = (if e.isTold then c.estimate else reference) ∧
      RunComparable e.after rest ∧
      (Comparable c.estimate c.scheduled →
        (checkDelay kind c.estimate c.scheduled baseline threshold).run? =
          some (e.told, e.after)) := by
  have h : Comparable c.estimate (baseline.getD c.scheduled) := by
    have := (List.pairwise_cons.mp hcmp).1 c.estimate (by simp)
    rwa [Comparable, abs_sub_comm, ← hb] at this
  refine ⟨⟨c, baseline, _, _⟩, rfl, rfl, rfl, ?_⟩
  rw [← and_assoc, ← and_assoc]
  refine ⟨?_, fun hscheduled => run?_of_fits (fits_checkDelay_iff.mpr ⟨h, fun _ => hscheduled⟩)⟩
  rw [and_assoc, value_checkDelay_of_comparable kind hT h, hb]
  by_cases hfar : millis threshold ≤ |c.estimate.toInt - reference.toInt|
  · simp only [DelayEntry.isTold, Option.isSome_some, hfar, if_true, true_and]
    exact (List.pairwise_cons.mp hcmp).2
  · simp only [DelayEntry.isTold, Option.isSome_none, hfar, Bool.false_eq_true, if_false,
      true_and]
    exact hcmp.sublist ((List.sublist_cons_self ..).cons_cons _)

/-- **What every call of a run compares with**: the estimate that was told last, or the reference
that the run began with. -/
theorem delayRun_entry (hT : 0 < threshold) {calls : List DelayCall}
    (hb : ∀ c ∈ calls.head?, baseline.getD c.scheduled = reference)
    (hcmp : RunComparable reference calls) {earlier later : List DelayEntry} {entry : DelayEntry}
    (hrun : delayRun kind threshold baseline calls = earlier ++ entry :: later) :
    entry.before =
        (if earlier = [] then baseline else some ((lastTold? earlier).getD reference)) ∧
      (entry.isTold = true ↔ millis threshold ≤
        |entry.call.estimate.toInt - ((lastTold? earlier).getD reference).toInt|) ∧
      entry.after = (if entry.isTold then entry.call.estimate
        else (lastTold? earlier).getD reference) := by
  induction calls generalizing baseline reference earlier with
  | nil => simp [delayRun] at hrun
  | cons c rest ih =>
    obtain ⟨e, hcons, hcall, hbefore, htold, hafter, hrest, -⟩ :=
      delayRun_cons kind hT (hb c rfl) hcmp
    rw [hcons] at hrun
    cases earlier with
    | nil =>
      obtain ⟨rfl, -⟩ := List.cons_eq_cons.mp hrun
      rw [hcall]
      exact ⟨hbefore, htold, hafter⟩
    | cons e' earlier =>
      obtain ⟨rfl, htail⟩ := List.cons_eq_cons.mp hrun
      have hentry := ih (fun _ _ => Option.getD_some) hrest htail
      rw [lastTold?_cons_getD, hcall, ← hafter]
      refine ⟨?_, hentry.2⟩
      rw [hentry.1, if_neg (List.cons_ne_nil e earlier)]
      split
      · subst earlier; rfl
      · rfl

/-- Where each estimate can be compared with the scheduled time of its call, every call comes to its
entry. -/
theorem run?_of_mem_delayRun (hT : 0 < threshold) {calls : List DelayCall}
    (hb : ∀ c ∈ calls.head?, baseline.getD c.scheduled = reference)
    (hcmp : RunComparable reference calls)
    (hscheduled : ∀ c ∈ calls, Comparable c.estimate c.scheduled) :
    ∀ e ∈ delayRun kind threshold baseline calls,
      (checkDelay kind e.call.estimate e.call.scheduled e.before threshold).run? =
        some (e.told, e.after) := by
  induction calls generalizing baseline reference with
  | nil => simp [delayRun]
  | cons c rest ih =>
    obtain ⟨e, hcons, hcall, hbefore, -, -, hrest, hends⟩ := delayRun_cons kind hT (hb c rfl) hcmp
    rw [List.forall_mem_cons] at hscheduled
    rw [hcons, List.forall_mem_cons, hcall, hbefore]
    exact ⟨hends hscheduled.1, ih (fun _ _ => Option.getD_some) hrest hscheduled.2⟩

/-! ### Counting what is told -/

/-- The estimates travel the threshold for every notification. The distance of the place `x` from
the baseline is what has been travelled since the last one and may count for the next. -/
theorem countP_isTold_mul_le (hT : 0 < threshold) {calls : List DelayCall}
    (hb : ∀ c ∈ calls.head?, baseline.getD c.scheduled = reference)
    (hcmp : RunComparable reference calls) (x : ℤ) :
    ((delayRun kind threshold baseline calls).countP DelayEntry.isTold : ℤ) * millis threshold ≤
      |x - reference.toInt| + variation (x :: calls.map fun c => c.estimate.toInt) := by
  induction calls generalizing baseline reference x with
  | nil => simp [delayRun, variation]
  | cons c rest ih =>
    obtain ⟨e, hcons, -, -, htold, hafter, hrest, -⟩ := delayRun_cons kind hT (hb c rfl) hcmp
    have hih := ih (fun _ _ => Option.getD_some) hrest c.estimate.toInt
    have htri : |c.estimate.toInt - reference.toInt| ≤
        |c.estimate.toInt - x| + |x - reference.toInt| := abs_sub_le ..
    -- What this call tells is paid for by the distance that it takes off the baseline.
    have hpaid : |c.estimate.toInt - e.after.toInt| +
        (if e.isTold = true then 1 else 0) * millis threshold ≤
          |c.estimate.toInt - reference.toInt| := by
      by_cases h : e.isTold = true
      · rw [hafter, if_pos h, if_pos h, sub_self, abs_zero, zero_add, one_mul]
        exact htold.mp h
      · rw [hafter, if_neg h, if_neg h, zero_mul, add_zero]
    rw [hcons, List.countP_cons, List.map_cons, variation]
    push_cast
    linarith

/-- From a baseline inside a band narrower than the threshold, nothing in the band is told. -/
theorem countP_isTold_eq_zero (hT : 0 < threshold) {calls : List DelayCall}
    (hb : ∀ c ∈ calls.head?, baseline.getD c.scheduled = reference)
    (hcmp : RunComparable reference calls) {lo hi : ℤ} (hnarrow : hi - lo < millis threshold)
    (href : lo ≤ reference.toInt ∧ reference.toInt ≤ hi)
    (hband : ∀ c ∈ calls, lo ≤ c.estimate.toInt ∧ c.estimate.toInt ≤ hi) :
    (delayRun kind threshold baseline calls).countP DelayEntry.isTold = 0 := by
  induction calls generalizing baseline reference with
  | nil => rfl
  | cons c rest ih =>
    obtain ⟨e, hcons, -, -, htold, hafter, hrest, -⟩ := delayRun_cons kind hT (hb c rfl) hcmp
    have hc := hband c (by simp)
    have hsilent : ¬ e.isTold = true := by
      rw [htold, le_abs]
      omega
    rw [hafter, if_neg hsilent] at hrest hcons
    have hbandRest : ∀ c' ∈ rest, lo ≤ c'.estimate.toInt ∧ c'.estimate.toInt ≤ hi :=
      fun c' hc' => hband c' (List.mem_cons_of_mem _ hc')
    rw [hcons, List.countP_cons, if_neg hsilent,
      ih (fun _ _ => Option.getD_some) hrest href hbandRest]

/-- In a band narrower than the threshold something is told once at most: when the baseline is not
in it yet. -/
theorem countP_isTold_le_one (hT : 0 < threshold) {calls : List DelayCall}
    (hb : ∀ c ∈ calls.head?, baseline.getD c.scheduled = reference)
    (hcmp : RunComparable reference calls) {lo hi : ℤ} (hnarrow : hi - lo < millis threshold)
    (hband : ∀ c ∈ calls, lo ≤ c.estimate.toInt ∧ c.estimate.toInt ≤ hi) :
    (delayRun kind threshold baseline calls).countP DelayEntry.isTold ≤ 1 := by
  induction calls generalizing baseline reference with
  | nil => simp [delayRun]
  | cons c rest ih =>
    obtain ⟨e, hcons, -, -, htold, hafter, hrest, -⟩ := delayRun_cons kind hT (hb c rfl) hcmp
    have hbandRest : ∀ c' ∈ rest, lo ≤ c'.estimate.toInt ∧ c'.estimate.toInt ≤ hi :=
      fun c' hc' => hband c' (List.mem_cons_of_mem _ hc')
    rw [hcons, List.countP_cons]
    by_cases h : e.isTold = true
    · have hin := hband c (by simp)
      have hzero := countP_isTold_eq_zero kind hT (fun _ _ => Option.getD_some (a := e.after))
        hrest hnarrow (by rwa [hafter, if_pos h]) hbandRest
      rw [hzero, if_pos h]
    · rw [if_neg h]
      exact ih (fun _ _ => Option.getD_some) hrest hbandRest

end Run

/-! ### The headline -/

/-- What holds of a run on one baseline that starts absent. -/
structure Hysteresis (kind : DelayKind) (threshold : UInt32) (first : DelayCall)
    (rest : List DelayCall) (run : List DelayEntry) : Prop where
  /-- The run has an entry for each call. -/
  calls : run.map DelayEntry.call = first :: rest
  /-- The entries are what the calls come to, where each estimate can be compared with the scheduled
  time of its call too. -/
  ends : (∀ c ∈ first :: rest, Comparable c.estimate c.scheduled) → ∀ entry ∈ run,
    (checkDelay kind entry.call.estimate entry.call.scheduled entry.before threshold).run? =
      some (entry.told, entry.after)
  /-- Every call compares with the estimate that was told last, or with the first scheduled time as
  long as nothing was told; it tells just what has moved by the threshold, and leaves the estimate
  strictly nearer to the baseline than that. -/
  entry : ∀ earlier entry later, run = earlier ++ entry :: later →
    let reference := (lastTold? earlier).getD first.scheduled
    entry.before = (if earlier = [] then none else some reference) ∧
    (entry.isTold = true ↔ millis threshold ≤ |entry.call.estimate.toInt - reference.toInt|) ∧
    entry.after = (if entry.isTold then entry.call.estimate else reference) ∧
    |entry.call.estimate.toInt - entry.after.toInt| < millis threshold
  /-- The estimates travel the threshold for each notification. -/
  count_mul_le : (run.countP DelayEntry.isTold : ℤ) * millis threshold ≤
    |first.estimate.toInt - first.scheduled.toInt| +
      variation ((first :: rest).map fun c => c.estimate.toInt)
  /-- Within a narrower band there is one notification at most. -/
  count_le_one : ∀ lo hi : ℤ, hi - lo < millis threshold →
    (∀ c ∈ first :: rest, lo ≤ c.estimate.toInt ∧ c.estimate.toInt ≤ hi) →
    run.countP DelayEntry.isTold ≤ 1

/-- **The hysteresis of a run.** No estimate or scheduled time is excluded but for differences that
do not fit into a word, and the threshold is any but zero: with none at all every move is told, and
there is nothing for the estimates to travel. -/
theorem delayRun_hysteresis (kind : DelayKind) {threshold : UInt32} (hT : 0 < threshold)
    (first : DelayCall) (rest : List DelayCall)
    (hcmp : (first.scheduled :: (first :: rest).map DelayCall.estimate).Pairwise Comparable) :
    Hysteresis kind threshold first rest (delayRun kind threshold none (first :: rest)) := by
  have hb : ∀ c ∈ (first :: rest).head?,
      (none : Option Instant).getD c.scheduled = first.scheduled := by
    rintro c ⟨⟩; rfl
  constructor
  case calls => exact map_call_delayRun ..
  case ends => exact run?_of_mem_delayRun kind hT hb hcmp
  case entry =>
    intro earlier entry later hrun
    obtain ⟨hbefore, htold, hafter⟩ := delayRun_entry kind hT hb hcmp hrun
    refine ⟨hbefore, htold, hafter, ?_⟩
    rw [hafter]
    by_cases h : entry.isTold = true
    · rw [if_pos h, sub_self, abs_zero]
      exact millis_pos hT
    · rw [if_neg h]
      exact not_le.mp fun hfar => h (htold.mpr hfar)
  case count_mul_le =>
    have hcount := countP_isTold_mul_le kind hT hb hcmp first.scheduled.toInt
    rwa [sub_self, abs_zero, zero_add] at hcount
  case count_le_one =>
    intro lo hi hnarrow hband
    exact countP_isTold_le_one kind hT hb hcmp hnarrow hband

/-- A departure that is on time, then seven minutes late, still so while the timetable moves, and on
time again: the second and the fourth estimate are told. -/
theorem delayRun_hysteresis_back_on_time :
    let first : DelayCall := ⟨10000000, 10000000⟩
    let rest : List DelayCall := [⟨10420000, 10000000⟩, ⟨10420000, 10060000⟩, ⟨10000000, 10060000⟩]
    let run := delayRun .departure 5 none (first :: rest)
    (0 : UInt32) < 5 ∧
      (first.scheduled :: (first :: rest).map DelayCall.estimate).Pairwise Comparable ∧
      (∀ c ∈ first :: rest, Comparable c.estimate c.scheduled) ∧
      run.map DelayEntry.isTold = [false, true, false, true] ∧
      Hysteresis .departure 5 first rest run := by
  intro first rest run
  have hcmp : (first.scheduled :: (first :: rest).map DelayCall.estimate).Pairwise Comparable := by
    decide
  exact ⟨by decide, hcmp, by decide, by decide,
    delayRun_hysteresis .departure (by decide) first rest hcmp⟩

end TripWatch
