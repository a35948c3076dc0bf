import Mathlib.Data.List.Basic
import TripWatch.Proofs.Check.Kinds
import TripWatch.Proofs.Journey.Provenance

/-!
# Alerts are told when they appear

An alert is told by the first check whose itinerary carries it while the itinerary before did not.
Three things have to fit for that. The alerts of an itinerary are listed once each, however many
legs carry them. The itinerary before is the one that was obtained last, through skipped and failed
checks, dates without an itinerary and moves to another date. And the text has a line for each of
the alerts that are left when those of the itinerary before are taken away.

What is told is compared with `Itinerary.NewAlerts`, which says nothing of how the list is made: it
knows only which legs carry an alert, and where an alert appears first.

## Lines

A summary is put into the text as the planner has it. So a reader finds one line for each alert
where no summary breaks a line itself (`splitOn_alertText`), and more where one does
(`alert_breaks_lines`).

## Main definitions

* `Itinerary.Carries`, `Itinerary.firstAppearance` — where an itinerary has an alert
* `Itinerary.NewAlerts` — the alerts that an earlier itinerary did not carry, in order
* `itineraryBefore` — the itinerary that was obtained last
* `Alert.line` — the line about an alert

## Main results

* `mem_firstPlaces`, `pairwise_firstPlaces` — each item once, in order of first appearance
* `matchingItinerary_stateAfter` — the itinerary before is the one that a check compares with
* `newAlerts_unique` — the list of new alerts is settled by what it has to say
* `splitOn_alertText` — the lines of the text
* `told_alerts` — the headline
-/

namespace TripWatch

/-! ### Each alert once -/

section FirstPlaces

variable {α : Type} [DecidableEq α]

theorem firstPlaces_concat (items : List α) (a : α) :
    firstPlaces (items ++ [a]) =
      if a ∈ firstPlaces items then firstPlaces items else firstPlaces items ++ [a] := by
  rw [firstPlaces, List.foldl_concat]
  rfl

theorem mem_firstPlaces {items : List α} {a : α} : a ∈ firstPlaces items ↔ a ∈ items := by
  induction items using List.reverseRecOn with
  | nil => rfl
  | append_singleton items b ih =>
    rw [firstPlaces_concat]
    by_cases hb : b ∈ firstPlaces items
    · rw [if_pos hb, ih, List.mem_append, List.mem_singleton, or_iff_left_of_imp]
      rintro rfl
      exact ih.mp hb
    · rw [if_neg hb, List.mem_append, List.mem_append, ih]

/-- Items stand in the order in which they appear first, and so none stands there twice. -/
theorem pairwise_firstPlaces (items : List α) :
    (firstPlaces items).Pairwise fun a b => items.idxOf a < items.idxOf b := by
  induction items using List.reverseRecOn with
  | nil => exact List.Pairwise.nil
  | append_singleton items b ih =>
    have hstays : ∀ a ∈ firstPlaces items, (items ++ [b]).idxOf a = items.idxOf a := fun a ha =>
      List.idxOf_append_of_mem (mem_firstPlaces.mp ha)
    have hearlier : (firstPlaces items).Pairwise fun a c =>
        (items ++ [b]).idxOf a < (items ++ [b]).idxOf c := by
      refine ih.imp_of_mem fun ha hc hlt => ?_
      rwa [hstays _ ha, hstays _ hc]
    rw [firstPlaces_concat]
    by_cases hb : b ∈ firstPlaces items
    · rwa [if_pos hb]
    · rw [if_neg hb, List.pairwise_append]
      refine ⟨hearlier, List.pairwise_singleton .., fun a ha c hc => ?_⟩
      obtain rfl := List.mem_singleton.mp hc
      -- The new item comes after all that were there.
      have hmem : a ∈ items := mem_firstPlaces.mp ha
      have hnew : c ∉ items := fun hc' => hb (mem_firstPlaces.mpr hc')
      rw [hstays a ha, List.idxOf_append_of_notMem hnew]
      exact Nat.lt_add_right _ (List.idxOf_lt_length_of_mem hmem)

end FirstPlaces

/-! ### New alerts -/

namespace Itinerary

/-- Some leg carries the alert. -/
def Carries (i : Itinerary) (a : Alert) : Prop := ∃ leg ∈ i.legs, a ∈ leg.alerts

/-- How many alerts the legs carry before the first place of an alert. -/
def firstAppearance (i : Itinerary) (a : Alert) : Nat := (i.legs.flatMap Leg.alerts).idxOf a

/-- The alerts of an itinerary that an earlier one, if there is one, did not carry. -/
structure NewAlerts (i : Itinerary) (earlier : Option Itinerary) (fresh : List Alert) : Prop where
  /-- They are those that the itinerary carries and the earlier one did not. -/
  mem_iff : ∀ a, a ∈ fresh ↔ i.Carries a ∧ ∀ j, earlier = some j → ¬ j.Carries a
  /-- Each stands there once, in order of first appearance over the legs. -/
  order : fresh.Pairwise fun a b => i.firstAppearance a < i.firstAppearance b

theorem mem_alerts {i : Itinerary} {a : Alert} : a ∈ i.alerts ↔ i.Carries a := by
  rw [alerts, mem_firstPlaces, List.mem_flatMap]
  rfl

end Itinerary

/-- There is one list of new alerts only. -/
theorem newAlerts_unique {i : Itinerary} {earlier : Option Itinerary} {fresh fresh' : List Alert}
    (h : i.NewAlerts earlier fresh) (h' : i.NewAlerts earlier fresh') : fresh = fresh' := by
  have hnodup : ∀ {l : List Alert}, i.NewAlerts earlier l → l.Nodup := fun hl =>
    hl.order.imp fun hlt heq => absurd (heq ▸ hlt) (Nat.lt_irrefl _)
  have hperm : fresh.Perm fresh' :=
    (List.perm_ext_iff_of_nodup (hnodup h) (hnodup h')).mpr fun a =>
      (h.mem_iff a).trans (h'.mem_iff a).symm
  exact hperm.eq_of_pairwise (fun a b _ _ hab hba => absurd hab (Nat.lt_asymm hba)) h.order h'.order

/-- The alerts that the itinerary before does not have are the new ones. -/
theorem newAlerts_unseenAlerts (i : Itinerary) (earlier : Option Itinerary) :
    i.NewAlerts earlier
      (unseenAlerts ((earlier.map Itinerary.alerts).getD []) i.alerts) where
  mem_iff a := by
    rw [unseenAlerts, List.mem_filter, Itinerary.mem_alerts, decide_eq_true_iff]
    cases earlier with
    | none => simp
    | some j => simp [Itinerary.mem_alerts]
  order := (pairwise_firstPlaces _).filter _

/-! ### The text -/

/-- The line about an alert. -/
def Alert.line (a : Alert) : String := "- " ++ a.summary

theorem foldl_line_eq (alerts : List Alert) (text : String) :
    alerts.foldl (fun text a => text ++ "\n- " ++ a.summary) text =
      "\n".intercalate (text :: alerts.map Alert.line) := by
  induction alerts generalizing text with
  | nil => exact String.intercalate_singleton.symm
  | cons a rest ih =>
    have hdash : "\n- " = "\n" ++ "- " := rfl
    have hline : text ++ "\n- " ++ a.summary = text ++ "\n" ++ a.line := by
      simp only [Alert.line, hdash, String.append_assoc]
    rw [List.foldl_cons, ih, List.map_cons, String.intercalate_cons_cons, hline,
      String.intercalate_cons_append]

/-- The lines on several alerts: one for all and one for each. -/
def alertLines (alerts : List Alert) : List String :=
  "New alerts for your trip:" :: alerts.map Alert.line

/-- The text is made of these lines. -/
theorem alertText_eq (alerts : List Alert) :
    alertText alerts = "\n".intercalate (alertLines alerts) :=
  foldl_line_eq alerts _

/-- Where no summary breaks a line, a reader of the text finds these lines and no others. -/
theorem splitOn_alertText {alerts : List Alert} (h : ∀ a ∈ alerts, '\n' ∉ a.summary.toList) :
    (alertText alerts).toList.splitOn '\n' = (alertLines alerts).map String.toList := by
  rw [alertText_eq, String.toList_intercalate]
  refine List.splitOn_intercalate '\n' ?_ (by simp [alertLines])
  simp only [alertLines, List.map_cons, List.map_map, List.forall_mem_cons, List.forall_mem_map]
  refine ⟨by decide, fun a ha => ?_⟩
  simpa [Alert.line] using h a ha

/-! ### The itinerary before -/

/-- The itinerary that was obtained last when a course has come so far, or else the one of the state
from which it goes on. -/
def itineraryBefore (previous : Option JourneyState) (before : List Visit) : Option Itinerary :=
  ((history Visit.obtained? previous before).getLast?.map Prod.snd).or
    (previous.bind JourneyState.matchingItinerary)

theorem Visit.matchingItinerary_opened (v : Visit) (previous : Option JourneyState) :
    (v.opened previous).matchingItinerary = previous.bind JourneyState.matchingItinerary := by
  rw [opened, JourneyState.matchingItinerary_movedTo]
  cases previous <;> rfl

/-- A visit that obtains an itinerary writes it; any other one leaves the one before. -/
theorem Visit.matchingItinerary_pass (v : Visit) (previous : Option JourneyState) :
    (v.pass previous).1.bind JourneyState.matchingItinerary =
      ((v.obtained? previous).map Prod.snd).or (previous.bind JourneyState.matchingItinerary) := by
  cases hfinding : v.finding? previous with
  | none => rw [pass_of_unfinished hfinding, obtained?_of_unfinished hfinding]; rfl
  | some f =>
    rw [pass_of_finding hfinding, Option.bind_some, record, Finding.matchingItinerary_record,
      matchingItinerary_opened]
    cases f with
    | nothing reason => rw [obtained?_of_nothing hfinding]; rfl
    | itinerary i =>
      obtain ⟨date, hdate⟩ := exists_date_of_finding? hfinding
      rw [obtained?_of_itinerary hdate hfinding]
      rfl

/-- **The itinerary of the state is the one that was obtained last.** -/
theorem matchingItinerary_stateAfter (previous : Option JourneyState) (before : List Visit) :
    (stateAfter previous before).bind JourneyState.matchingItinerary =
      itineraryBefore previous before := by
  rw [bind_stateAfter Visit.matchingItinerary_pass, itineraryBefore, ← map_history,
    List.getLast?_map]

/-! ### What is told -/

/-- A notification of alerts is told if there are new ones, and it has a line for each. -/
theorem alertNotification?_eq {i : Itinerary} {earlier : Option Itinerary} {fresh : List Alert}
    (h : i.NewAlerts earlier fresh) :
    alertNotification? earlier i = if fresh = [] then none else some ⟨.alert, alertText fresh⟩ := by
  obtain rfl := newAlerts_unique h (newAlerts_unseenAlerts i earlier)
  cases earlier with
  | none =>
    simp only [alertNotification?, Option.map_none, Option.getD_none]
    cases unseenAlerts [] i.alerts <;> rfl
  | some before =>
    simp only [alertNotification?, Option.map_some, Option.getD_some]
    cases unseenAlerts before.alerts i.alerts <;> rfl

/-- An obtained itinerary is what the visit found. -/
theorem Visit.finding?_of_obtained? {v : Visit} {previous : Option JourneyState}
    {request : PlanRequest} {i : Itinerary} (h : v.obtained? previous = some (request, i)) :
    v.finding? previous = some (.itinerary i) := by
  rw [obtained?_eq] at h
  split at h
  · rename_i hfinding
    cases h
    exact hfinding
  · cases h

/-- What is told of alerts, where there are new ones: their text. -/
theorem ofKind_alert_of_obtained {previous : Option JourneyState} {v : Visit}
    {request : PlanRequest} {i : Itinerary} (hobtained : v.obtained? previous = some (request, i))
    (hwanted : v.trip.preferences.onAlert = true) {fresh : List Alert}
    (hfresh : i.NewAlerts (previous.bind JourneyState.matchingItinerary) fresh) :
    ofKind .alert (v.pass previous).2 =
      if fresh = [] then [] else [⟨.alert, alertText fresh⟩] := by
  have hfinding := Visit.finding?_of_obtained? hobtained
  simp only [Visit.pass_of_finding hfinding, Visit.record, Finding.ofKind_record, Finding.notice?,
    itineraryNotice?, hwanted, if_true, Visit.matchingItinerary_opened,
    alertNotification?_eq hfresh]
  split <;> rfl

/-- **Alerts are told when they appear**, and where no summary breaks a line, in a line for each. -/
theorem told_alerts (previous : Option JourneyState) (before : List Visit) {v : Visit}
    {request : PlanRequest} {i : Itinerary}
    (hobtained : v.obtained? (stateAfter previous before) = some (request, i))
    (hwanted : v.trip.preferences.onAlert = true) :
    let told := (v.pass (stateAfter previous before)).2
    let earlier := itineraryBefore previous before
    ((∃ n ∈ told, n.kind = .alert) ↔
        ∃ leg ∈ i.legs, ∃ a ∈ leg.alerts, ∀ j, earlier = some j → ¬ j.Carries a) ∧
      ∃ fresh, i.NewAlerts earlier fresh ∧
        (ofKind .alert told =
          if fresh = [] then [] else [⟨.alert, "\n".intercalate (alertLines fresh)⟩]) ∧
        ((∀ a ∈ fresh, '\n' ∉ a.summary.toList) → ∀ n ∈ ofKind .alert told,
          n.body.toList.splitOn '\n' = (alertLines fresh).map String.toList) := by
  intro told earlier
  obtain ⟨fresh, hfresh⟩ : ∃ fresh, i.NewAlerts earlier fresh :=
    ⟨_, newAlerts_unseenAlerts i earlier⟩
  have htold : ofKind .alert told = if fresh = [] then [] else [⟨.alert, alertText fresh⟩] :=
    ofKind_alert_of_obtained hobtained hwanted
      (matchingItinerary_stateAfter previous before ▸ hfresh)
  refine ⟨?_, fresh, hfresh, alertText_eq fresh ▸ htold, fun hbreak n hn => ?_⟩
  · calc (∃ n ∈ told, n.kind = .alert)
        ↔ ofKind .alert told ≠ [] := ofKind_ne_nil.symm
      _ ↔ fresh ≠ [] := by
          rw [htold]
          split <;> simp [*]
      _ ↔ ∃ a, a ∈ fresh :=
          ⟨List.exists_mem_of_ne_nil _, fun h => h.elim fun _ => List.ne_nil_of_mem⟩
      _ ↔ ∃ leg ∈ i.legs, ∃ a ∈ leg.alerts, ∀ j, earlier = some j → ¬ j.Carries a := by
          simp only [hfresh.mem_iff, Itinerary.Carries]
          tauto
  · rw [htold] at hn
    split at hn
    · cases hn
    · obtain rfl := List.mem_singleton.mp hn
      exact splitOn_alertText hbreak

/-- A notice with nothing but a headline. -/
def Commute.notice (header : String) : Alert := ⟨some header, none, none, none⟩

/-- A ride with a change, and with notices that both legs or one leg twice carries. -/
def Commute.transfer : Itinerary :=
  { bus 0 with
    legs := (bus 0).legs.flatMap fun leg =>
      [{ leg with alerts := [notice "Detour", notice "Strike"] },
        { leg with alerts := [notice "Strike", notice "No lift", notice "Strike"] }] }

/-- On Tuesday there is a ride again, after a day that knew of the detour. -/
theorem told_alerts_strike :
    let v := { Commute.visit 0 (.response (.ofItinerary Commute.transfer)) with
      now := Commute.tuesday }
    let told := (v.pass (stateAfter none Commute.course)).2
    let earlier := itineraryBefore none Commute.course
    v.obtained? (stateAfter none Commute.course) =
        some (.ofTrip Commute.trip Commute.tuesday.date, Commute.transfer) ∧
      v.trip.preferences.onAlert = true ∧
      ofKind .alert told = [⟨.alert, "New alerts for your trip:\n- Strike\n- No lift"⟩] ∧
      ((∃ n ∈ told, n.kind = .alert) ↔ ∃ leg ∈ Commute.transfer.legs, ∃ a ∈ leg.alerts,
        ∀ j, earlier = some j → ¬ j.Carries a) ∧
      ∃ fresh, Commute.transfer.NewAlerts earlier fresh ∧
        (ofKind .alert told =
          if fresh = [] then [] else [⟨.alert, "\n".intercalate (alertLines fresh)⟩]) ∧
        ((∀ a ∈ fresh, '\n' ∉ a.summary.toList) → ∀ n ∈ ofKind .alert told,
          n.body.toList.splitOn '\n' = (alertLines fresh).map String.toList) :=
  ⟨rfl, rfl, by decide, told_alerts none Commute.course rfl rfl⟩

/-- A ride with one notice, whose headline breaks a line. -/
def Commute.brokenLine : Itinerary :=
  { bus 0 with
    legs := (bus 0).legs.map fun leg => { leg with alerts := [notice "Detour\nvia Main St"] } }

/-- **An alert may take several lines**: a headline is not kept from breaking a line. -/
theorem alert_breaks_lines :
    ¬ ∀ (previous : Option JourneyState) (before : List Visit) (v : Visit) (request : PlanRequest)
      (i : Itinerary), v.obtained? (stateAfter previous before) = some (request, i) →
      v.trip.preferences.onAlert = true →
      ∀ fresh, i.NewAlerts (itineraryBefore previous before) fresh →
        ∀ n ∈ ofKind .alert (v.pass (stateAfter previous before)).2,
          (n.body.toList.splitOn '\n').length = fresh.length + 1 := by
  intro h
  have hobtained :
      (Commute.visit 0 (.response (.ofItinerary Commute.brokenLine))).obtained? none =
        some (.ofTrip Commute.trip (Commute.monday 0).date, Commute.brokenLine) := rfl
  have htold : ofKind .alert
      ((Commute.visit 0 (.response (.ofItinerary Commute.brokenLine))).pass none).2 =
        [⟨.alert, "New alerts for your trip:\n- Detour\nvia Main St"⟩] := by decide
  have hfresh : Commute.brokenLine.NewAlerts none [Commute.notice "Detour\nvia Main St"] :=
    newAlerts_unseenAlerts Commute.brokenLine none
  have hlines := h none [] _ _ _ hobtained rfl _ hfresh _ (htold ▸ List.mem_singleton_self _)
  exact absurd hlines (by decide)

end TripWatch
