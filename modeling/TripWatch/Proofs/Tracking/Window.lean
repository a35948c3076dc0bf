import Mathlib.Algebra.Ring.Int.Defs
import Mathlib.Data.List.DropRight
import Mathlib.Data.List.Induction
import TripWatch.Tracking.Journey

/-!
# The window of positions

A journey keeps the positions of the last ten minutes, and never more than 600 of them. It does so
with little work: a position that is taken in pushes out at most one for the number, and for the age
only the oldest ones are looked at, up to the first one that is young enough. Positions may come
with any times, so a young one may hide old ones behind it. What is kept even then is a piece of
what was taken in, up to the newest position.

If times do not go back, an old position is never behind a young one, and what is kept is the window
that one would write down: of the last 600 positions those of the last ten minutes.

## Why the two cuts do not get in each other's way

On positions in the order of their times both cuts take a tail: the last 600, and those not too old.
Tails of one list are nested, so it does not matter which cut comes first (`filter_rtake`), nor that
an earlier position was measured with an earlier cut: whatever that took away is too old now.

## Main definitions

* `Journey.addAll` — the journey after several positions
* `Journey.spanStart` — where the ten minutes before an instant begin
* `Journey.trim?`, `Journey.Trims` — one turn of the loop that forgets old positions, and the loop

## Main results

* `Journey.trims_iff` — the loop ends, with what is left after the old positions at the front
* `Journey.movement?_eq_some_iff` — a movement joins the last two positions kept
* `Journey.history_addPosition_eq_rtake` — one position, with times that do not go back
* `history_window` — the headline
-/

namespace TripWatch

/-! ### Tails of lists -/

section Tails

variable {α : Type}

/-- Where a test that fails keeps failing, dropping from the front drops all that passes. -/
theorem dropWhile_eq_filter {test : α → Bool} {items : List α}
    (h : items.Pairwise fun a b => test b = true → test a = true) :
    items.dropWhile test = items.filter fun a => !test a := by
  induction items with
  | nil => rfl
  | cons a rest ih =>
    obtain ⟨hfirst, hrest⟩ := List.pairwise_cons.mp h
    cases ha : test a with
    | true => simp [ha, ih hrest]
    | false =>
      have hfails : ∀ b ∈ rest, (!test b) = true := by
        intro b hb
        rw [Bool.not_eq_true', ← Bool.not_eq_true]
        exact fun htest => by simp [hfirst b hb htest] at ha
      simp [ha, List.filter_eq_self.mpr hfails]

/-- It does not matter whether such a test or the number of items cuts first. -/
theorem filter_rtake {test : α → Bool} {items : List α}
    (h : items.Pairwise fun a b => test b = true → test a = true) (n : ℕ) :
    ((items.rtake n).filter fun a => !test a) = (items.filter fun a => !test a).rtake n := by
  induction items using List.reverseRecOn generalizing n with
  | nil => simp
  | append_singleton rest a ih =>
    obtain ⟨hrest, -, hlast⟩ := List.pairwise_append.mp h
    cases n with
    | zero => simp
    | succ n =>
      cases ha : test a with
      | false => simp [ha, ih hrest n]
      | true =>
        -- With the last item all others are cut, so nothing is left on either side.
        have hnone : ∀ b ∈ rest, ¬ (!test b) = true := by
          intro b hb
          simp [hlast b hb a (List.mem_singleton_self a) ha]
        have htail : ∀ b ∈ rest.rtake n, ¬ (!test b) = true := fun b hb =>
          hnone b ((List.drop_suffix _ _).subset hb)
        simp [ha, List.filter_eq_nil_iff.mpr hnone, List.filter_eq_nil_iff.mpr htail]

theorem rtake_rtake_concat (items : List α) (a : α) (n : ℕ) :
    (items.rtake n ++ [a]).rtake n = (items ++ [a]).rtake n := by
  cases n with
  | zero => simp
  | succ n => simp [List.rtake_eq_reverse_take_reverse, List.take_take]

end Tails

namespace Journey

/-- The journey after several positions. -/
def addAll (j : Journey) (fixes : List Position) : Journey := fixes.foldl addPosition j

theorem addAll_concat (j : Journey) (fixes : List Position) (p : Position) :
    j.addAll (fixes ++ [p]) = (j.addAll fixes).addPosition p := by
  simp [addAll]

/-! ### The span before an instant -/

/-- Where the ten minutes before an instant begin, as a number. Before the first instant there is
nothing, so they do not begin earlier. -/
def spanStart (now : Instant) : ℤ := max (now.toInt - 600000) (-2 ^ 63)

theorem isBefore_eq (t now : Instant) : isBefore t now = decide (t.toInt < spanStart now) := rfl

/-- No instant lies before the first one, so the span may as well begin there. -/
theorem isBefore_iff {t now : Instant} : isBefore t now = true ↔ t.toInt < now.toInt - 600000 := by
  have hfirst : -2 ^ 63 ≤ t.toInt := Int64.le_toInt t
  rw [isBefore_eq, decide_eq_true_eq, spanStart]
  omega

theorem isBefore_self (t : Instant) : isBefore t t = false := by
  rw [← Bool.not_eq_true, isBefore_iff]
  omega

/-- What is before the span stays before it. -/
theorem isBefore_mono {t now later : Instant} (hle : now ≤ later) (h : isBefore t now = true) :
    isBefore t later = true := by
  rw [isBefore_iff] at h ⊢
  have := Int64.le_iff_toInt_le.mp hle
  omega

/-- What is older than something before the span is before it too. -/
theorem isBefore_of_le {t t' now : Instant} (hle : t ≤ t') (h : isBefore t' now = true) :
    isBefore t now = true := by
  rw [isBefore_iff] at h ⊢
  have := Int64.le_iff_toInt_le.mp hle
  omega

/-! ### The loop that forgets old positions -/

/-- One turn of the loop: the oldest position is forgotten if it is too old. -/
def trim? (now : Instant) : List Position → Option (List Position)
  | [] => none
  | q :: rest => if isBefore q.timestamp now then some rest else none

/-- The loop, from what it begins with to what it ends with. -/
inductive Trims (now : Instant) : List Position → List Position → Prop
  /-- There is no turn any more. -/
  | done {history : List Position} (h : trim? now history = none) : Trims now history history
  /-- One more turn. -/
  | turn {history rest kept : List Position} (h : trim? now history = some rest)
    (hrest : Trims now rest kept) : Trims now history kept

/-- **The loop ends**, and what is left begins with the first position that is not too old. -/
theorem trims_iff {now : Instant} {history kept : List Position} :
    Trims now history kept ↔ kept = history.dropWhile fun q => isBefore q.timestamp now := by
  constructor
  · intro h
    induction h with
    | @done history h =>
      cases history with
      | nil => rfl
      | cons q rest =>
        have hold : isBefore q.timestamp now = false := by simpa [trim?] using h
        simp [hold]
    | @turn history rest kept h _ ih =>
      cases history with
      | nil => cases h
      | cons q rest =>
        obtain ⟨hold, rfl⟩ : isBefore q.timestamp now = true ∧ _ = _ := by simpa [trim?] using h
        simp [hold, ih]
  · rintro rfl
    induction history with
    | nil => exact .done rfl
    | cons q rest ih =>
      cases hold : isBefore q.timestamp now with
      | true =>
        rw [List.dropWhile_cons, if_pos hold]
        exact .turn (by simp [trim?, hold]) ih
      | false =>
        rw [List.dropWhile_cons, if_neg (by simp [hold])]
        exact .done (by simp [trim?, hold])

/-! ### One position, with any time -/

section AddPosition

variable (j : Journey) (p : Position)

theorem shorten_suffix (history : List Position) : shorten history <:+ history := by
  unfold shorten
  split
  · exact List.drop_suffix _ _
  · exact List.suffix_rfl

/-- A history with at most one position too many is cut to the last ones. -/
theorem shorten_eq_rtake {history : List Position} (h : history.length ≤ historyLimit + 1) :
    shorten history = history.rtake historyLimit := by
  unfold shorten List.rtake
  split
  · rw [show history.length - historyLimit = 1 by omega]
  · rw [show history.length - historyLimit = 0 by omega, List.drop_zero]

theorem history_addPosition :
    (j.addPosition p).history =
      (shorten (j.history ++ [p])).dropWhile fun q => isBefore q.timestamp p.timestamp := rfl

theorem history_addPosition_suffix : (j.addPosition p).history <:+ j.history ++ [p] :=
  (List.dropWhile_suffix _).trans (shorten_suffix _)

/-- **The newest position is kept**, since it is not too old for itself. -/
theorem getLast?_history_addPosition : (j.addPosition p).history.getLast? = some p := by
  have hlast : (shorten (j.history ++ [p])).getLast? = some p := by
    unfold shorten
    split
    · rename_i hlong
      have hpos : 0 < j.history.length := by
        rw [List.length_append, List.length_singleton, historyLimit] at hlong
        omega
      rw [List.drop_append_of_le_length hpos, List.getLast?_concat]
    · exact List.getLast?_concat
  obtain ⟨older, holder⟩ := List.getLast?_eq_some_iff.mp hlast
  rw [history_addPosition, holder, List.dropWhile_append]
  split
  · simp [isBefore_self]
  · exact List.getLast?_concat

theorem length_history_addPosition_le (h : j.history.length ≤ historyLimit) :
    (j.addPosition p).history.length ≤ historyLimit := by
  rw [history_addPosition, shorten_eq_rtake (by simpa using h)]
  refine (List.dropWhile_sublist _).length_le.trans ?_
  simp only [List.rtake, List.length_drop]
  omega

/-- A movement joins the last two positions kept. -/
theorem movement?_eq_some_iff {j : Journey} {movement : Segment} :
    j.movement? = some movement ↔
      ∃ older previous current, j.history = older ++ [previous, current] ∧
        movement = ⟨previous.coordinates, current.coordinates⟩ := by
  unfold movement?
  constructor
  · intro h
    split at h
    · rename_i current previous older hreverse
      refine ⟨older.reverse, previous, current, ?_, (Option.some.inj h).symm⟩
      simpa using congrArg List.reverse hreverse
    · cases h
  · rintro ⟨older, previous, current, hhistory, rfl⟩
    simp [hhistory]

end AddPosition

/-! ### Positions in the order of their times -/

/-- If a position is too old, so is any one before it. -/
theorem pairwise_isBefore {fixes : List Position}
    (hsorted : fixes.Pairwise fun q q' => q.timestamp ≤ q'.timestamp) (now : Instant) :
    fixes.Pairwise fun q q' =>
      isBefore q'.timestamp now = true → isBefore q.timestamp now = true :=
  hsorted.imp isBefore_of_le

/-- **One position, with times that do not go back.** Whatever was cut away before is too old by
now, so both cuts can be made anew on all positions. -/
theorem history_addPosition_eq_rtake {j : Journey} {fixes : List Position} {p : Position}
    (gone : Position → Bool)
    (hkept : j.history = (fixes.filter fun q => !gone q).rtake historyLimit)
    (hgone : ∀ q, gone q = true → isBefore q.timestamp p.timestamp = true)
    (hsorted : (fixes ++ [p]).Pairwise fun q q' => q.timestamp ≤ q'.timestamp) :
    (j.addPosition p).history =
      ((fixes ++ [p]).filter fun q => !isBefore q.timestamp p.timestamp).rtake historyLimit := by
  let left := fixes.filter fun q => !gone q
  have hlength : (j.history ++ [p]).length ≤ historyLimit + 1 := by
    simp only [hkept, List.rtake, List.length_append, List.length_drop, List.length_singleton]
    omega
  have hshort : shorten (j.history ++ [p]) = (left ++ [p]).rtake historyLimit := by
    rw [shorten_eq_rtake hlength, hkept, rtake_rtake_concat]
  have hleft : (left ++ [p]).Pairwise fun q q' =>
      isBefore q'.timestamp p.timestamp = true → isBefore q.timestamp p.timestamp = true :=
    pairwise_isBefore (hsorted.sublist (List.filter_sublist.append (.refl _))) p.timestamp
  have htail : ((left ++ [p]).rtake historyLimit).Sublist (left ++ [p]) := List.drop_sublist _ _
  have hfilter : (left.filter fun q => !isBefore q.timestamp p.timestamp) =
      fixes.filter fun q => !isBefore q.timestamp p.timestamp := by
    rw [List.filter_filter]
    refine List.filter_congr fun q _ => ?_
    cases hq : gone q with
    | true => simp [hgone q hq]
    | false => simp
  rw [history_addPosition, hshort, dropWhile_eq_filter (hleft.sublist htail), filter_rtake hleft,
    List.filter_append, hfilter, List.filter_append]

section New

variable (tripId userId : String) (i : Itinerary)

theorem history_suffix (fixes : List Position) :
    ((new tripId userId i).addAll fixes).history <:+ fixes ∧
      ((new tripId userId i).addAll fixes).history.length ≤ historyLimit := by
  induction fixes using List.reverseRecOn with
  | nil => exact ⟨List.suffix_rfl, Nat.zero_le _⟩
  | append_singleton fixes p ih =>
    obtain ⟨hsuffix, hlength⟩ := ih
    rw [addAll_concat]
    refine ⟨(history_addPosition_suffix _ p).trans ?_, length_history_addPosition_le _ p hlength⟩
    obtain ⟨before, hbefore⟩ := hsuffix
    exact ⟨before, by rw [← List.append_assoc, hbefore]⟩

/-- With times that do not go back the history is the window. -/
theorem history_eq_window {fixes : List Position} {p : Position}
    (hsorted : (fixes ++ [p]).Pairwise fun q q' => q.timestamp ≤ q'.timestamp) :
    ((new tripId userId i).addAll (fixes ++ [p])).history =
      ((fixes ++ [p]).rtake historyLimit).filter fun q => !isBefore q.timestamp p.timestamp := by
  rw [filter_rtake (pairwise_isBefore hsorted p.timestamp)]
  induction fixes using List.reverseRecOn generalizing p with
  | nil =>
    rw [addAll_concat]
    exact history_addPosition_eq_rtake (fun _ => false) rfl nofun hsorted
  | append_singleton fixes q ih =>
    obtain ⟨hbefore, -, hlast⟩ := List.pairwise_append.mp hsorted
    have hle : q.timestamp ≤ p.timestamp :=
      hlast q (List.mem_append_right _ (List.mem_singleton_self q)) p (List.mem_singleton_self p)
    rw [addAll_concat]
    exact history_addPosition_eq_rtake _ (ih hbefore) (fun _ => isBefore_mono hle) hsorted

/-- Of the last two positions the older one is kept unless it is too old, and then nothing before it
is kept either. -/
theorem history_of_pair {older : List Position} {q p : Position}
    (hsorted : (older ++ [q] ++ [p]).Pairwise fun q q' => q.timestamp ≤ q'.timestamp) :
    (isBefore q.timestamp p.timestamp = true ∧
        ((new tripId userId i).addAll (older ++ [q] ++ [p])).history = [p]) ∨
      (isBefore q.timestamp p.timestamp = false ∧
        ∃ kept, ((new tripId userId i).addAll (older ++ [q] ++ [p])).history = kept ++ [q, p]) := by
  have hwindow := history_eq_window tripId userId i hsorted
  rw [show historyLimit = 598 + 1 + 1 from rfl, List.rtake_concat_succ, List.rtake_concat_succ,
    List.filter_append, List.filter_append] at hwindow
  cases hq : isBefore q.timestamp p.timestamp with
  | true =>
    have hbefore := (List.pairwise_append.mp (List.pairwise_append.mp hsorted).1).2.2
    have hnone : ∀ q' ∈ older.rtake 598, ¬ (!isBefore q'.timestamp p.timestamp) = true := by
      intro q' hq'
      have hle : q'.timestamp ≤ q.timestamp :=
        hbefore q' ((List.drop_suffix _ _).subset hq') q (List.mem_singleton_self q)
      simp [isBefore_of_le hle hq]
    refine .inl ⟨rfl, ?_⟩
    simpa [hq, isBefore_self, List.filter_eq_nil_iff.mpr hnone] using hwindow
  | false =>
    refine .inr ⟨rfl, (older.rtake 598).filter fun q' => !isBefore q'.timestamp p.timestamp, ?_⟩
    simpa [hq, isBefore_self] using hwindow

/-- With times that do not go back, a movement joins the last two positions taken in, as long as
they are not more than ten minutes apart. -/
theorem movement?_of_sorted {fixes : List Position} {p : Position}
    (hsorted : (fixes ++ [p]).Pairwise fun q q' => q.timestamp ≤ q'.timestamp)
    {movement : Segment} :
    ((new tripId userId i).addAll (fixes ++ [p])).movement? = some movement ↔
      ∃ older q, fixes = older ++ [q] ∧ p.timestamp.toInt - q.timestamp.toInt ≤ 600000 ∧
        movement = ⟨q.coordinates, p.coordinates⟩ := by
  have hsingle {j : Journey} (hj : j.history = [p]) : j.movement? = none := by simp [movement?, hj]
  rcases List.eq_nil_or_concat' fixes with rfl | ⟨older, q, rfl⟩
  · have hhistory : ((new tripId userId i).addAll ([] ++ [p])).history = [p] := by
      simp [addAll, new, addPosition, shorten, historyLimit, isBefore_self]
    rw [hsingle hhistory]
    simp
  · have hnear : isBefore q.timestamp p.timestamp = false ↔
        p.timestamp.toInt - q.timestamp.toInt ≤ 600000 := by
      rw [← Bool.not_eq_true, isBefore_iff]
      omega
    rcases history_of_pair tripId userId i hsorted with ⟨hfar, hhistory⟩ | ⟨hq, kept, hhistory⟩
    · simp only [hsingle hhistory, reduceCtorEq, false_iff]
      rintro ⟨older', q', heq, hle, -⟩
      obtain rfl : q = q' := List.singleton_inj.mp (List.append_inj' heq rfl).2
      rw [hnear.mpr hle] at hfar
      cases hfar
    · have hmovement : ((new tripId userId i).addAll (older ++ [q] ++ [p])).movement? =
          some ⟨q.coordinates, p.coordinates⟩ :=
        movement?_eq_some_iff.mpr ⟨kept, q, p, hhistory, rfl⟩
      rw [hmovement]
      constructor
      · intro h
        exact ⟨older, q, rfl, hnear.mp hq, (Option.some.inj h).symm⟩
      · rintro ⟨older', q', heq, -, rfl⟩
        obtain rfl : q = q' := List.singleton_inj.mp (List.append_inj' heq rfl).2
        rfl

/-- **What a journey remembers of its positions.** After any positions, with any times:

* what is kept is a piece of what was taken in, it ends with the newest position, and it is never
  longer than 600;
* the loop that forgets old positions ends, whatever it begins with, and one position after the
  other is taken in with its result.

And if times do not go back:

* what is kept are those of the last 600 positions that are not before the ten minutes;
* there is a movement exactly if the last two positions are at most ten minutes apart, and it leads
  from the one to the other. -/
theorem history_window :
    (∀ (fixes : List Position) (p : Position),
        ((new tripId userId i).addAll (fixes ++ [p])).history <:+ fixes ++ [p] ∧
        ((new tripId userId i).addAll (fixes ++ [p])).history ≠ [] ∧
        ((new tripId userId i).addAll (fixes ++ [p])).history.getLast? = some p ∧
        ((new tripId userId i).addAll (fixes ++ [p])).history.length ≤ 600) ∧
      (∀ (now : Instant) (history : List Position), ∃ kept, Trims now history kept) ∧
      (∀ (j : Journey) (p : Position),
        Trims p.timestamp (shorten (j.history ++ [p])) (j.addPosition p).history) ∧
      ∀ (fixes : List Position) (p : Position),
        (fixes ++ [p]).Pairwise (fun q q' => q.timestamp ≤ q'.timestamp) →
        ((new tripId userId i).addAll (fixes ++ [p])).history =
          ((fixes ++ [p]).rtake 600).filter
            (fun q => decide (spanStart p.timestamp ≤ q.timestamp.toInt)) ∧
        ∀ movement, ((new tripId userId i).addAll (fixes ++ [p])).movement? = some movement ↔
          ∃ older q, fixes = older ++ [q] ∧ p.timestamp.toInt - q.timestamp.toInt ≤ 600000 ∧
            movement = ⟨q.coordinates, p.coordinates⟩ := by
  refine ⟨fun fixes p => ?_, fun now history => ⟨_, trims_iff.mpr rfl⟩,
    fun j p => trims_iff.mpr (history_addPosition j p), fun fixes p hsorted => ⟨?_, ?_⟩⟩
  · have hlast : ((new tripId userId i).addAll (fixes ++ [p])).history.getLast? = some p := by
      rw [addAll_concat]
      exact getLast?_history_addPosition _ p
    obtain ⟨hsuffix, hlength⟩ := history_suffix tripId userId i (fixes ++ [p])
    refine ⟨hsuffix, ?_, hlast, hlength⟩
    intro hnil
    rw [hnil] at hlast
    cases hlast
  · rw [history_eq_window tripId userId i hsorted]
    refine List.filter_congr fun q _ => ?_
    rw [isBefore_eq, Bool.eq_iff_iff]
    simp
  · exact fun movement => movement?_of_sorted tripId userId i hsorted

end New

end Journey

end TripWatch
