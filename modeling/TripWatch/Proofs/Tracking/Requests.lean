import Mathlib.Data.List.Induction
import Mathlib.Tactic.SplitIfs
import TripWatch.Proofs.Check.Finding
import TripWatch.Proofs.Store.Keyed
import TripWatch.Proofs.Tracking.Calculation
import TripWatch.Proofs.Tracking.Registry

/-!
# What requests change

The service answers requests one after the other. Most of them only read. A position that is
reported for a trip changes the journeys that are followed, and nothing else: those that are over by
the clock of the service are forgotten, and the trip's own journey takes the position in. All that
can be refused is refused before, so a request that is refused has changed nothing, and even
journeys that are over are still there. What comes after is the instruction. If it cannot be
calculated, for times that are far off, there is no reply at all, and the position stays.

## Which trip is meant

A request names a key. It finds the trip that stands under this key, but the journey is followed
under the identifier in the trip. In a store in which each trip stands under its own identifier,
`Store.TripsFiled`, both are the same, and so it is after every write of the program. A file may
hold another store. There a request may well go on with the journey of a trip that it did not name,
and leave none behind for the one that it named: `mistakes_journeys`. So the lemmas tell the key
from the identifier, and the headline is about stores where they agree.

## Main definitions

* `Response.Refuses`, `Response.Answers` — what becomes of a request
* `Service.report?` — the position that a request reports, and for which trip
* `Store.followed?` — the trip under a key, and the itinerary that its traveler follows
* `Journey.GoesOn` — what a position does to a journey
* `Registry.Follows` — what a position that is taken in does to the journeys that are followed
* `Service.TakesInFor` — a request reports a position that is taken in
* `Service.serve` — the service after some requests

## Main results

* `Registry.Keyed.follows_takeIn` — a position that is taken in
* `Service.respond_cases` — a request changes nothing, or it takes in a position
* `Service.get?_serve_of_others` — the journey of a trip with no position, over many requests
* `requests_touch_own_journey` — the headline
* `mistakes_journeys` — a store that is not filed, and a request without a reply
-/

namespace TripWatch

/-- A request is refused. -/
def Response.Refuses (a : Response) : Prop := ∃ reply ∈ a.reply, reply.status ≠ 200

/-- A request is answered. -/
def Response.Answers (a : Response) : Prop := ∃ reply ∈ a.reply, reply.status = 200

theorem Response.Answers.not_refuses {a : Response} (h : a.Answers) : ¬ a.Refuses := by
  rintro ⟨refusal, hrefusal, hstatus⟩
  obtain ⟨reply, hreply, hanswered⟩ := h
  rw [Option.mem_unique hrefusal hreply] at hstatus
  exact hstatus hanswered

/-- The journeys after a position of a trip's traveler is taken in. -/
def Registry.takeIn (r : Registry) (l : Locator) (now : Instant) (tripId userId : String)
    (i : Itinerary) (p : Position) (locale : Locale) : Registry :=
  (r.evictStale now).1.put
    (l.locate ((r.evictStale now).1.getOrStart tripId userId i) p locale).journey

/-! ### What a request reports -/

/-- The trip under a key and the itinerary that its traveler follows: the one that the last check
found comes before the one that is kept with the trip. -/
def Store.followed? (s : Store) (id : String) : Option (Trip × Itinerary) :=
  match s.trips.get? id with
  | none => none
  | some t =>
    match (s.states.get? id).bind JourneyState.matchingItinerary with
    | some i => some (t, i)
    | none => t.itinerary.map fun i => (t, i)

namespace Service

/-- The position that a request reports, and the key of the trip. Nothing is reported by another
request, or by one that cannot be read. -/
def report? (r : ServiceRequest) : Option (String × Position) :=
  match Endpoint.ofPath? r.path with
  | some (.track rawId) =>
    if r.method = "POST" ∧ hasJson r = true then
      match Percent.decode? rawId, Json.decodeFirst Position.decoder r.body with
      | some id, .ok p => some (id, p)
      | _, _ => none
    else none
  | _ => none

/-- A request for a traveler, whether it can be read or not. -/
def IsTrack (r : ServiceRequest) : Prop := ∃ rawId, Endpoint.ofPath? r.path = some (.track rawId)

variable {s : Service} {now : Instant} {r : ServiceRequest} {id : String} {p : Position}

/-- A request that can be read part by part. -/
theorem report?_of_parts {rawId : String} {lat lon : Double} {timestamp : Instant}
    (hpath : Endpoint.ofPath? r.path = some (.track rawId)) (hpost : r.method = "POST")
    (hjson : hasJson r = true) (hid : Percent.decode? rawId = some id)
    (hbody : ((Json.decodeFirst Position.decoder r.body).toOption.map fun p =>
      (p.lat, p.lon, p.timestamp)) = some (lat, lon, timestamp)) :
    report? r = some (id, ⟨lat, lon, timestamp⟩) := by
  obtain ⟨p, hp, hparts⟩ := Option.map_eq_some_iff.mp hbody
  cases hparts
  cases hread : Json.decodeFirst Position.decoder r.body with
  | error fault =>
    rw [hread] at hp
    cases hp
  | ok read =>
    rw [hread] at hp
    cases hp
    simp [report?, hpath, hpost, hjson, hid, hread]

/-- A request that reports a position is answered by what becomes of the position. -/
theorem respond_of_report (h : report? r = some (id, p)) :
    s.respond now r =
      match s.track now id p with
      | .error fault => s.plain fault.reply
      | .ok (after, located) =>
        ⟨located.result.run?.map fun result => ⟨200, .json result.toJson⟩, after,
          located.fired.map fun a => (a, located.journey.userId)⟩ := by
  unfold report? at h
  split at h
  · rename_i rawId hpath
    split at h
    · rename_i hposted
      split at h
      · rename_i id' p' hid hp
        cases h
        have hserved : s.respond now r = s.respondTrack now id r := by
          simp [respond, hpath, Endpoint.method, hposted.1, respondAt, withId, hid]
        rw [hserved]
        cases htrack : s.track now id p <;> simp [respondTrack, hposted.2, hp, htrack]
      · cases h
    · cases h
  · cases h

/-- A request that reports nothing changes nothing, and if it is one for a traveler it is
refused. -/
theorem respond_of_unreported (s : Service) (now : Instant) (h : report? r = none) :
    (s.respond now r).service = s ∧ (IsTrack r → (s.respond now r).Refuses) := by
  unfold IsTrack Response.Refuses
  unfold respond
  cases hpath : Endpoint.ofPath? r.path with
  | none => simp [plain]
  | some endpoint =>
    dsimp only
    cases endpoint with
    | health => split_ifs <;> simp [respondAt, headOnly, plain]
    | status rawId =>
      have hread : ((s.respondAt now r (.status rawId))).service = s := by
        simp only [respondAt, withId, respondStatus]
        split
        · split <;> rfl
        · rfl
      split_ifs <;> simp [headOnly, plain, hread]
    | track rawId =>
      by_cases hpost : r.method = "POST"
      · simp only [Endpoint.method, hpost, if_true, respondAt, withId]
        cases hid : Percent.decode? rawId with
        | none => simp [plain]
        | some id =>
          simp only [respondTrack]
          by_cases hjson : hasJson r = true
          · have hbody : ∀ p, Json.decodeFirst Position.decoder r.body ≠ .ok p := by
              intro p hp
              simp [report?, hpath, hpost, hjson, hid, hp] at h
            rw [if_pos hjson]
            split
            · simp [plain]
            · simp [plain]
            · exact absurd ‹_› (hbody _)
          · simp [hjson, plain]
      · simp [Endpoint.method, hpost, plain]

/-! ### The trip that is asked for -/

theorem read_eq_ok_iff {α : Type} {operation : StoreOperation} {a b : α} :
    s.read operation a = .ok b ↔ s.outage operation = none ∧ a = b := by
  unfold read
  cases s.outage operation <;> simp

/-- Whatever fails in the store, a position is taken in only for the trip under the key, along the
itinerary of its traveler. -/
theorem followed?_of_tracked {t : Trip} {i : Itinerary} {locale : Locale}
    (h : s.tracked id = .ok (t, i, locale)) : s.store.followed? id = some (t, i) := by
  obtain ⟨_, hfound, h⟩ := bind_eq_ok_iff.mp h
  obtain ⟨-, rfl⟩ := read_eq_ok_iff.mp hfound
  cases ht : s.store.trips.get? id with
  | none =>
    rw [ht] at h
    cases h
  | some t' =>
    rw [ht] at h
    obtain ⟨_, hstate, h⟩ := bind_eq_ok_iff.mp h
    obtain ⟨-, rfl⟩ := read_eq_ok_iff.mp hstate
    cases hi : ((s.store.states.get? id).bind JourneyState.matchingItinerary).or t'.itinerary with
    | none =>
      rw [hi] at h
      cases h
    | some i' =>
      rw [hi] at h
      obtain ⟨_, -, h⟩ := bind_eq_ok_iff.mp h
      cases h
      rw [Store.followed?, ht]
      cases hmatching : (s.store.states.get? id).bind JourneyState.matchingItinerary with
      | none => simpa [hmatching] using hi
      | some _ => simpa [hmatching] using hi

/-- While the store works, a position is taken in exactly if there is the trip, and an itinerary for
its traveler. -/
theorem tracked_of_working (hworks : s.outage = Outage.none) (id : String) :
    (s.store.trips.get? id = none → s.tracked id = .error (.tripNotFound id)) ∧
      (∀ t, s.store.trips.get? id = some t → s.store.followed? id = none →
        s.tracked id = .error (.noItinerary id)) ∧
      ∀ t i, s.store.followed? id = some (t, i) → ∃ locale, s.tracked id = .ok (t, i, locale) := by
  have hread {α : Type} (operation : StoreOperation) (a : α) : s.read operation a = .ok a :=
    read_eq_ok_iff.mpr ⟨by rw [hworks]; rfl, rfl⟩
  simp only [tracked, hread, Store.followed?]
  cases s.store.trips.get? id with
  | none => simp [bind, Except.bind]
  | some t =>
    cases hmatching : (s.store.states.get? id).bind JourneyState.matchingItinerary with
    | some i => simp [hmatching, bind, Except.bind]
    | none => cases ht : t.itinerary <;> simp [hmatching, ht, bind, Except.bind]

/-- The trip and its itinerary do not hang on the journeys that are followed. -/
theorem tracked_of_registry (s : Service) (registry : Registry) (id : String) :
    { s with registry := registry }.tracked id = s.tracked id := rfl

/-- A position of a trip that is refused. -/
theorem respond_of_fault (h : report? r = some (id, p)) {fault : ServiceFault}
    (ht : s.tracked id = .error fault) (now : Instant) : s.respond now r = s.plain fault.reply := by
  rw [respond_of_report h, track, ht]
  rfl

theorem refuses_plain (s : Service) (fault : ServiceFault) : (s.plain fault.reply).Refuses :=
  ⟨fault.reply, rfl, by cases fault <;> simp [ServiceFault.reply, ServiceFault.status]⟩

/-- A position of a trip that is taken in. It is answered if the answer can be calculated. -/
theorem respond_of_tracked (h : report? r = some (id, p)) {t : Trip} {i : Itinerary}
    {locale : Locale} (ht : s.tracked id = .ok (t, i, locale)) (now : Instant) :
    (s.respond now r).service =
        { s with registry := s.registry.takeIn s.locator now t.id t.userId i p locale } ∧
      (s.respond now r).reply =
        (s.locator.locate ((s.registry.evictStale now).1.getOrStart t.id t.userId i) p
          locale).result.run?.map fun result => ⟨200, .json result.toJson⟩ := by
  have htrack : s.track now id p =
      .ok ({ s with registry := s.registry.takeIn s.locator now t.id t.userId i p locale },
        s.locator.locate ((s.registry.evictStale now).1.getOrStart t.id t.userId i) p locale) := by
    rw [track, ht]
    rfl
  rw [respond_of_report h, htrack]
  exact ⟨rfl, rfl⟩

end Service

/-! ### A position that is taken in -/

/-- What a position does to a journey. -/
structure Journey.GoesOn (l : Locator) (p : Position) (before after : Journey) : Prop where
  /-- It is the journey of the same trip. -/
  tripId : after.tripId = before.tripId
  /-- It is the journey of the same traveler. -/
  userId : after.userId = before.userId
  /-- It is along the same itinerary. -/
  itinerary : after.itinerary = before.itinerary
  /-- The position is kept with the ones before. -/
  history : after.history = (before.addPosition p).history
  /-- The next step may be reached. -/
  cursor : before.cursor.Moves l.settings before.itinerary p after.cursor
  /-- What was started stays so, and one more action may be started. -/
  started : after.started = before.started ∨
    ∃ a : SegmentAction, a.id ∉ before.started ∧ after.started = a.id :: before.started

theorem Journey.goesOn_locate (l : Locator) (j : Journey) (p : Position) (locale : Locale) :
    j.GoesOn l p (l.locate j p locale).journey where
  tripId := Registry.tripId_locate l j p locale
  userId := by
    simp only [Locator.locate]
    rw [Locator.fireOnMovement_eq]
    rfl
  itinerary := l.itinerary_locate j p locale
  history := by
    simp only [Locator.locate]
    rw [Locator.fireOnMovement_eq]
  cursor := l.moves_locate j p locale
  started := (l.locate_cases j p locale).imp And.right
    fun ⟨a, _, _, _, _, _, _, hnew, hstarted⟩ => ⟨a, hnew, hstarted⟩

/-- A journey that begins has made no movement yet, so nothing is started on it. -/
theorem Journey.locate_new (l : Locator) (tripId userId : String) (i : Itinerary) (p : Position)
    (locale : Locale) :
    (l.locate (.new tripId userId i) p locale).journey.history = [p] ∧
      (l.locate (.new tripId userId i) p locale).journey.started = [] := by
  have hhistory : (l.locate (.new tripId userId i) p locale).journey.history = [p] := by
    rw [(goesOn_locate l _ p locale).history]
    simp [new, addPosition, shorten, historyLimit, isBefore_self]
  refine ⟨hhistory, ?_⟩
  rcases l.locate_cases (.new tripId userId i) p locale with
    ⟨-, hstarted⟩ | ⟨a, older, previous, current, -, hlast, -⟩
  · exact hstarted
  · rw [hhistory] at hlast
    simpa using congrArg List.length hlast

/-- **What an accepted position does to the journeys that are followed.** -/
structure Registry.Follows (l : Locator) (now : Instant) (tripId userId : String) (i : Itinerary)
    (p : Position) (before after : Registry) : Prop where
  /-- The journey of another trip is kept as it is, unless it is over: then it is forgotten. -/
  others : ∀ key, key ≠ tripId →
    after.get? key = (before.get? key).filter fun j => !j.isStale now
  /-- The trip's own journey is there, along its itinerary, and ends with the position. It goes on
  from the one before if that one is not over and along the same itinerary, and else it begins. -/
  own : ∃ j, after.get? tripId = some j ∧ j.tripId = tripId ∧ j.history.getLast? = some p ∧
    (j.itinerary = i ∨ (j.itinerary == i) = true) ∧
    (∀ earlier, before.get? tripId = some earlier → earlier.isStale now = false →
      (earlier.itinerary == i) = true → earlier.GoesOn l p j) ∧
    ((∀ earlier, before.get? tripId = some earlier →
        earlier.isStale now = true ∨ (earlier.itinerary == i) = false) →
      (Journey.new tripId userId i).GoesOn l p j ∧ j.history = [p] ∧ j.started = [])

namespace Registry

variable {r : Registry}

/-- Of the journeys that are not over the trip's own goes on if it is along the itinerary. -/
theorem getOrStart_evictStale_of_live {now : Instant} {tripId : String} {i : Itinerary}
    {earlier : Journey} (hearlier : r.get? tripId = some earlier)
    (hlive : earlier.isStale now = false) (hsame : (earlier.itinerary == i) = true)
    (userId : String) : (r.evictStale now).1.getOrStart tripId userId i = earlier := by
  refine getOrStart_of_same ?_ hsame
  rw [get?_evictStale, hearlier]
  simp [Option.filter, hlive]

/-- Without such a journey a new one begins. -/
theorem getOrStart_evictStale_of_none {now : Instant} {tripId : String} {i : Itinerary}
    (hnone : ∀ earlier, r.get? tripId = some earlier →
      earlier.isStale now = true ∨ (earlier.itinerary == i) = false)
    (userId : String) :
    (r.evictStale now).1.getOrStart tripId userId i = .new tripId userId i := by
  refine getOrStart_of_other fun j hj => ?_
  rw [get?_evictStale, Option.filter_eq_some_iff] at hj
  refine (hnone j hj.1).resolve_left fun hstale => ?_
  simp [hstale] at hj

theorem itinerary_getOrStart (r : Registry) (tripId userId : String) (i : Itinerary) :
    (r.getOrStart tripId userId i).itinerary = i ∨
      ((r.getOrStart tripId userId i).itinerary == i) = true := by
  unfold getOrStart
  split
  · split
    · exact .inr ‹_›
    · exact .inl rfl
  · exact .inl rfl

theorem Keyed.get?_takeIn (h : r.Keyed) (l : Locator) (now : Instant) (tripId userId : String)
    (i : Itinerary) (p : Position) (locale : Locale) (key : String) :
    (r.takeIn l now tripId userId i p locale).get? key =
      if key = tripId then
        some (l.locate ((r.evictStale now).1.getOrStart tripId userId i) p locale).journey
      else (r.get? key).filter fun j => !j.isStale now := by
  have htripId := (tripId_locate l _ p locale).trans
    ((h.evictStale now).tripId_getOrStart tripId userId i)
  rw [takeIn, Registry.put, Table.get?_insert, htripId, get?_evictStale]

theorem Keyed.takeIn (h : r.Keyed) (l : Locator) (now : Instant) (tripId userId : String)
    (i : Itinerary) (p : Position) (locale : Locale) :
    (r.takeIn l now tripId userId i p locale).Keyed :=
  (h.evictStale now).put _

/-- **A position is taken in by the trip's own journey**, after the journeys that are over are
forgotten. -/
theorem Keyed.follows_takeIn (h : r.Keyed) (l : Locator) (now : Instant) (tripId userId : String)
    (i : Itinerary) (p : Position) (locale : Locale) :
    Follows l now tripId userId i p r (r.takeIn l now tripId userId i p locale) where
  others key hkey := by rw [h.get?_takeIn, if_neg hkey]
  own := by
    let found := (r.evictStale now).1.getOrStart tripId userId i
    have hgoes : found.GoesOn l p (l.locate found p locale).journey :=
      Journey.goesOn_locate l found p locale
    have hown : (r.takeIn l now tripId userId i p locale).get? tripId =
        some (l.locate found p locale).journey := by rw [h.get?_takeIn, if_pos rfl]
    refine ⟨_, hown, ?_, ?_, ?_, fun earlier hearlier hlive hsame => ?_, fun hnone => ?_⟩
    · rw [hgoes.tripId]
      exact (h.evictStale now).tripId_getOrStart tripId userId i
    · rw [hgoes.history]
      exact Journey.getLast?_history_addPosition found p
    · rw [hgoes.itinerary]
      exact itinerary_getOrStart _ tripId userId i
    · have hfound : found = earlier := getOrStart_evictStale_of_live hearlier hlive hsame userId
      exact hfound ▸ hgoes
    · have hfound : found = .new tripId userId i := getOrStart_evictStale_of_none hnone userId
      rw [hfound] at hgoes ⊢
      exact ⟨hgoes, Journey.locate_new l tripId userId i p locale⟩

end Registry

/-! ### One request -/

namespace Service

/-- Whether a request reports a position that is taken in. -/
def accepts (s : Service) (r : ServiceRequest) : Bool :=
  (report? r).any fun report => (s.tracked report.1).toBool

/-- **A request changes nothing, or it takes in a position.** -/
theorem respond_cases (s : Service) (now : Instant) (r : ServiceRequest) :
    (s.accepts r = false ∧ (s.respond now r).service = s ∧
        (IsTrack r → (s.respond now r).Refuses)) ∨
      ∃ id p t i locale, s.accepts r = true ∧ report? r = some (id, p) ∧
        s.tracked id = .ok (t, i, locale) ∧ ¬ (s.respond now r).Refuses ∧
        (s.respond now r).service =
          { s with registry := s.registry.takeIn s.locator now t.id t.userId i p locale } := by
  cases hreport : report? r with
  | none =>
    obtain ⟨hsame, hrefused⟩ := respond_of_unreported s now hreport
    exact .inl ⟨by simp [accepts, hreport], hsame, hrefused⟩
  | some report =>
    obtain ⟨id, p⟩ := report
    cases htracked : s.tracked id with
    | error fault =>
      have hrespond := respond_of_fault hreport htracked now
      refine .inl ⟨by simp [accepts, hreport, htracked, Except.toBool], ?_, fun _ => ?_⟩
      · rw [hrespond]
        rfl
      · rw [hrespond]
        exact refuses_plain s fault
    | ok found =>
      obtain ⟨t, i, locale⟩ := found
      obtain ⟨hservice, hreply⟩ := respond_of_tracked hreport htracked now
      have hrefuses : ¬ (s.respond now r).Refuses := by
        simp [Response.Refuses, hreply]
      exact .inr ⟨id, p, t, i, locale, by simp [accepts, hreport, htracked, Except.toBool], rfl,
        htracked, hrefuses, hservice⟩

section Respond

variable {s : Service} {now : Instant} {r : ServiceRequest} {id : String} {p : Position}

theorem isTrack_of_report (h : report? r = some (id, p)) : IsTrack r := by
  unfold report? at h
  split at h
  · exact ⟨_, ‹_›⟩
  · cases h

theorem service_respond_of_not_isTrack (h : ¬ IsTrack r) : (s.respond now r).service = s := by
  rcases s.respond_cases now r with ⟨-, hsame, -⟩ | ⟨_, _, _, _, _, -, hreport, -⟩
  · exact hsame
  · exact absurd (isTrack_of_report hreport) h

/-- A request that is refused changes nothing. -/
theorem service_respond_of_refused (h : (s.respond now r).Refuses) :
    (s.respond now r).service = s := by
  rcases s.respond_cases now r with ⟨-, hsame, -⟩ | ⟨_, _, _, _, _, -, -, -, hrefuses, -⟩
  · exact hsame
  · exact absurd h hrefuses

/-- While the store works, the trip and its itinerary decide whether a position is taken in. It is
answered if the times of the itinerary and of the position are modest. -/
theorem reply_of_working (h : report? r = some (id, p)) (hworks : s.outage = Outage.none)
    (now : Instant) :
    (s.store.trips.get? id = none →
        (s.respond now r).reply = some (ServiceFault.tripNotFound id).reply) ∧
      (∀ t, s.store.trips.get? id = some t → s.store.followed? id = none →
        (s.respond now r).reply = some (ServiceFault.noItinerary id).reply) ∧
      ∀ t i, s.store.followed? id = some (t, i) → ¬ (s.respond now r).Refuses ∧
        ((∀ leg ∈ i.legs, leg.IsModest) → |p.timestamp.toInt| ≤ 2 ^ 61 →
          (s.respond now r).Answers) := by
  obtain ⟨hunknown, hnone, hfound⟩ := tracked_of_working hworks id
  refine ⟨fun hid => ?_, fun t ht hid => ?_, fun t i hid => ?_⟩
  · rw [respond_of_fault h (hunknown hid)]
    rfl
  · rw [respond_of_fault h (hnone t ht hid)]
    rfl
  · obtain ⟨locale, htracked⟩ := hfound t i hid
    obtain ⟨-, hreply⟩ := respond_of_tracked h htracked now
    refine ⟨by simp [Response.Refuses, hreply], fun hlegs htime => ?_⟩
    let found := (s.registry.evictStale now).1.getOrStart t.id t.userId i
    have hmodest : ∀ leg ∈ found.itinerary.legs, leg.IsModest := by
      rcases Registry.itinerary_getOrStart _ t.id t.userId i with heq | hsame
      · rwa [heq]
      · exact isModest_legs_of_beq hsame hlegs
    have hfits : (s.locator.locate found p locale).result.Fits :=
      Locator.fits_result_of_isModest hmodest htime
    rw [Calculation.run?_of_fits hfits] at hreply
    exact ⟨_, hreply, rfl⟩

/-- While the store works, a position of a trip with an itinerary is taken in. -/
theorem follows_of_working (hkeyed : s.registry.Keyed) (h : report? r = some (id, p))
    (hworks : s.outage = Outage.none) {t : Trip} {i : Itinerary}
    (hfollowed : s.store.followed? id = some (t, i)) (now : Instant) :
    Registry.Follows s.locator now t.id t.userId i p s.registry
      (s.respond now r).service.registry := by
  obtain ⟨locale, htracked⟩ := (tracked_of_working hworks id).2.2 t i hfollowed
  obtain ⟨hservice, -⟩ := respond_of_tracked h htracked now
  rw [hservice]
  exact hkeyed.follows_takeIn s.locator now t.id t.userId i p locale

theorem trips_of_followed? {store : Store} {t : Trip} {i : Itinerary}
    (h : store.followed? id = some (t, i)) : store.trips.get? id = some t := by
  unfold Store.followed? at h
  split at h
  · cases h
  · rename_i t' ht
    split at h
    · cases h
      exact ht
    · obtain ⟨_, -, heq⟩ := Option.map_eq_some_iff.mp h
      cases heq
      exact ht

/-- **A request for a traveler that is not refused takes a position in**, for the trip under its
key. -/
theorem exists_follows_of_not_refuses (hkeyed : s.registry.Keyed) (htrack : IsTrack r)
    (h : ¬ (s.respond now r).Refuses) :
    ∃ id p t i, report? r = some (id, p) ∧ s.store.followed? id = some (t, i) ∧
      Registry.Follows s.locator now t.id t.userId i p s.registry
        (s.respond now r).service.registry := by
  rcases s.respond_cases now r with
    ⟨-, -, hrefused⟩ | ⟨id, p, t, i, locale, -, hreport, htracked, -, hservice⟩
  · exact absurd (hrefused htrack) h
  · refine ⟨id, p, t, i, hreport, followed?_of_tracked htracked, ?_⟩
    rw [hservice]
    exact hkeyed.follows_takeIn s.locator now t.id t.userId i p locale

end Respond

/-- Only the journeys that are followed ever change. -/
theorem service_respond (s : Service) (now : Instant) (r : ServiceRequest) :
    (s.respond now r).service = { s with registry := (s.respond now r).service.registry } := by
  rcases s.respond_cases now r with ⟨-, hsame, -⟩ | ⟨_, _, _, _, _, -, -, -, -, hservice⟩
  · rw [hsame]
  · rw [hservice]

end Service

/-! ### Many requests -/

/-- A request and the time at which it arrives. -/
structure Arrival where
  /-- The time. -/
  now : Instant
  /-- The request. -/
  request : ServiceRequest

namespace Service

/-- The service after some requests. -/
def serve (s : Service) (arrivals : List Arrival) : Service :=
  arrivals.foldl (fun s a => (s.respond a.now a.request).service) s

theorem serve_concat (s : Service) (arrivals : List Arrival) (a : Arrival) :
    s.serve (arrivals ++ [a]) = ((s.serve arrivals).respond a.now a.request).service := by
  simp [serve]

theorem serve_eq (s : Service) (arrivals : List Arrival) :
    s.serve arrivals = { s with registry := (s.serve arrivals).registry } := by
  induction arrivals using List.reverseRecOn with
  | nil => rfl
  | append_singleton arrivals a ih =>
    have hkept (registry : Registry) :
        { s.serve arrivals with registry := registry } = { s with registry := registry } := by
      rw [ih]
    rw [serve_concat]
    exact (service_respond (s.serve arrivals) a.now a.request).trans (hkept _)

theorem store_serve (s : Service) (arrivals : List Arrival) :
    (s.serve arrivals).store = s.store := by rw [serve_eq]

theorem outage_serve (s : Service) (arrivals : List Arrival) :
    (s.serve arrivals).outage = s.outage := by rw [serve_eq]

theorem locator_serve (s : Service) (arrivals : List Arrival) :
    (s.serve arrivals).locator = s.locator := by rw [serve_eq]

theorem tracked_serve (s : Service) (arrivals : List Arrival) (id : String) :
    (s.serve arrivals).tracked id = s.tracked id := by
  rw [serve_eq, tracked_of_registry]

/-- What is accepted does not hang on the requests before. -/
theorem accepts_serve (s : Service) (arrivals : List Arrival) (r : ServiceRequest) :
    (s.serve arrivals).accepts r = s.accepts r := by
  simp only [accepts, tracked_serve]

theorem keyed_serve {s : Service} (h : s.registry.Keyed) (arrivals : List Arrival) :
    (s.serve arrivals).registry.Keyed := by
  induction arrivals using List.reverseRecOn with
  | nil => exact h
  | append_singleton arrivals a ih =>
    rw [serve_concat]
    rcases (s.serve arrivals).respond_cases a.now a.request with
      ⟨-, hsame, -⟩ | ⟨_, p, t, i, locale, -, -, -, -, hservice⟩
    · rw [hsame]
      exact ih
    · rw [hservice]
      exact ih.takeIn _ a.now t.id t.userId i p locale

/-- A request reports a position that is taken in, for the trip under a key. -/
def TakesInFor (s : Service) (id : String) (r : ServiceRequest) : Prop :=
  s.accepts r = true ∧ ∃ p, report? r = some (id, p)

theorem id_eq_of_tripsFiled {s : Service} (hfiled : s.store.TripsFiled) {id : String} {t : Trip}
    {i : Itinerary} (h : s.store.followed? id = some (t, i)) : t.id = id :=
  hfiled.trips id t (trips_of_followed? h) trivial

/-- **Over many requests the journey of a trip stays as it is if no position was taken in for it**,
unless it was over when a position was taken in for another one: then it is gone. -/
theorem get?_serve_of_others {s : Service} (h : s.registry.Keyed) (hfiled : s.store.TripsFiled)
    {id : String} {arrivals : List Arrival}
    (hothers : ∀ a ∈ arrivals, ¬ s.TakesInFor id a.request) :
    (s.serve arrivals).registry.get? id = (s.registry.get? id).filter fun j =>
      (arrivals.filter fun a => s.accepts a.request).all fun a => !j.isStale a.now := by
  induction arrivals using List.reverseRecOn with
  | nil => cases hkept : s.registry.get? id <;> simp [serve, hkept, Option.filter]
  | append_singleton arrivals a ih =>
    have hih := ih fun a' ha' => hothers a' (List.mem_append_left _ ha')
    have hother := hothers a (List.mem_append_right _ (List.mem_singleton_self a))
    rw [serve_concat]
    rcases (s.serve arrivals).respond_cases a.now a.request with
      ⟨hrefused, hsame, -⟩ | ⟨id', p, t, i, locale, haccepted, hreport, htracked, -, hservice⟩
    · rw [accepts_serve] at hrefused
      rw [hsame, hih]
      simp [hrefused]
    · rw [accepts_serve] at haccepted
      rw [tracked_serve] at htracked
      have hid : t.id = id' := id_eq_of_tripsFiled hfiled (followed?_of_tracked htracked)
      have hne : id ≠ t.id := by
        rintro rfl
        exact hother ⟨haccepted, p, by rw [hreport, hid]⟩
      rw [hservice]
      dsimp only
      rw [(keyed_serve h arrivals).get?_takeIn, if_neg hne, hih]
      simp [haccepted, Option.filter_filter, Bool.and_comm]

end Service

/-- **Requests touch only their own journey.** After any requests, at any times of the service, the
store is what it was before, whatever it holds. And of the next request:

* it does not change the store, and if it is not one for a traveler it changes nothing at all;
* a request for a traveler that is refused changes nothing at all; while the store works that is so
  exactly if the trip is not there, or it has no itinerary, neither from the last check nor of its
  own. With modest times all others are answered.

In a store where each trip stands under its own identifier, after any requests:

* the journey of a trip is the one from before if no position was taken in for it, unless it was
  over when another one was taken in: then it is gone;
* a request that is answered takes a position in for the trip that it names, along the itinerary of
  the last check, or else that of the trip. -/
theorem requests_touch_own_journey (s : Service) (hkeyed : s.registry.Keyed)
    (arrivals : List Arrival) :
    (s.serve arrivals).store = s.store ∧
      (∀ (now : Instant) (r : ServiceRequest),
        let before := s.serve arrivals
        let response := before.respond now r
        response.service.store = s.store ∧
        (¬ Service.IsTrack r → response.service = before) ∧
        (Service.IsTrack r → response.Refuses → response.service = before) ∧
        ∀ id p, Service.report? r = some (id, p) → s.outage = Outage.none →
          (s.store.trips.get? id = none →
            response.reply = some (ServiceFault.tripNotFound id).reply) ∧
          (∀ t, s.store.trips.get? id = some t → s.store.followed? id = none →
            response.reply = some (ServiceFault.noItinerary id).reply) ∧
          ∀ t i, s.store.followed? id = some (t, i) → ¬ response.Refuses ∧
            ((∀ leg ∈ i.legs, leg.IsModest) → |p.timestamp.toInt| ≤ 2 ^ 61 → response.Answers)) ∧
      (s.store.TripsFiled →
        (∀ id, (∀ a ∈ arrivals, ¬ s.TakesInFor id a.request) →
          (s.serve arrivals).registry.get? id = (s.registry.get? id).filter fun j =>
            (arrivals.filter fun a => s.accepts a.request).all fun a => !j.isStale a.now) ∧
        ∀ (now : Instant) (r : ServiceRequest),
          let before := s.serve arrivals
          let response := before.respond now r
          Service.IsTrack r → response.Answers → ∃ id p t i,
            Service.report? r = some (id, p) ∧ s.store.followed? id = some (t, i) ∧
            Registry.Follows s.locator now id t.userId i p before.registry
              response.service.registry) := by
  have hstore := s.store_serve arrivals
  refine ⟨hstore, fun now r => ?_, fun hfiled => ⟨fun id hothers =>
    Service.get?_serve_of_others hkeyed hfiled hothers, fun now r => ?_⟩⟩
  · intro before response
    have hnext : response.service.store = s.store := by
      rw [Service.service_respond]
      exact hstore
    refine ⟨hnext, Service.service_respond_of_not_isTrack,
      fun _ hrefused => Service.service_respond_of_refused hrefused, fun id p hreport hworks => ?_⟩
    have hworks' : before.outage = Outage.none := (s.outage_serve arrivals).trans hworks
    simpa only [before, hstore] using Service.reply_of_working hreport hworks' now
  · intro before response htrack hanswers
    obtain ⟨id, p, t, i, hreport, hfollowed, hfollows⟩ := Service.exists_follows_of_not_refuses
      (Service.keyed_serve hkeyed arrivals) htrack hanswers.not_refuses
    rw [hstore] at hfollowed
    rw [s.locator_serve arrivals, Service.id_eq_of_tripsFiled hfiled hfollowed] at hfollows
    exact ⟨id, p, t, i, hreport, hfollowed, hfollows⟩

/-! ### Two trips on one bus -/

namespace Commute

/-- A position at home, some minutes after half past eight. -/
def atHome (minutes : Fin 60) : Position :=
  ⟨.zero, .zero, .ofNat (1718613000000 + minutes * 60000)⟩

/-- The request that reports a position of a trip's traveler at home, at 8:32. -/
def report (id : String) : ServiceRequest where
  method := "POST"
  path := "/monitored-trips/" ++ id ++ "/track"
  contentType := some "application/json"
  body := "\x7b\"lat\":0,\"lon\":0,\"timestamp\":1718613120000\x7d"

/-- The same report at the first of all instants. -/
def farOff (id : String) : ServiceRequest :=
  { report id with body := "\x7b\"lat\":0,\"lon\":0,\"timestamp\":-9223372036854775808\x7d" }

/-- The commute with a position at half past eight. -/
def underway : Journey := (Journey.new "commute" "rider" (bus 0)).addPosition (atHome 0)

/-- The commute with the bus that its rider takes. -/
def planned : Trip := { trip with itinerary := some (bus 0) }

/-- The rider's commute and an errand with the same bus, of which the commute is underway. -/
def service : Service where
  store := ((Store.empty.putUser rider).putTrip planned).putTrip { planned with id := "errand" }
  outage := .none
  locator := Commute.locator
  registry := Registry.put .empty underway

/-- The same commute underway, but its trip stands under another key. -/
def misplaced : Service :=
  { service with
    store := { Store.empty.putUser rider with trips := Table.empty.insert "home" planned } }

/-- What the clock of the service shows, ten seconds after the report. -/
def clock : Instant := .ofNat 1718613130000

/-- A key that needs no escapes is reported as it is. -/
theorem report?_report {id : String} (hpath : Endpoint.ofPath? (report id).path = some (.track id))
    (hid : Percent.decode? id = some id) :
    Service.report? (report id) = some (id, atHome 2) := by
  -- The body does not hang on the key, so one that is empty will do.
  have hbody : ((Json.decodeFirst Position.decoder (report "").body).toOption.map fun p =>
      (p.lat, p.lon, p.timestamp)) = some (.zero, .zero, (atHome 2).timestamp) := by
    decide +kernel
  exact Service.report?_of_parts hpath rfl rfl hid hbody

theorem isModest_bus : ∀ leg ∈ (bus 0).legs, leg.IsModest := by
  intro leg hleg
  obtain rfl := List.mem_singleton.mp hleg
  exact ⟨by decide, by decide, by decide⟩

/-- A journey that has gone on is another one. -/
theorem ne_underway {j : Journey} {p : Position} (hlast : j.history.getLast? = some p)
    (hp : p.timestamp ≠ (atHome 0).timestamp) : j ≠ underway := by
  rintro rfl
  cases hlast
  exact hp rfl

theorem keyed_underway : Registry.Keyed (Registry.put .empty underway) :=
  Registry.keyed_empty.put underway

end Commute

/-- A position on the errand leaves the commute as it is, and one on the commute goes on from
there. -/
theorem requests_touch_own_journey_errand :
    let s := Commute.service
    let before := s.serve [⟨Commute.clock, Commute.report "errand"⟩]
    let response := before.respond Commute.clock (Commute.report "commute")
    s.registry.Keyed ∧ s.store.TripsFiled ∧
      before.registry.get? "commute" = some Commute.underway ∧ response.Answers ∧
      ∃ j, response.service.registry.get? "commute" = some j ∧
        Commute.underway.GoesOn s.locator (Commute.atHome 2) j := by
  intro s before response
  have hfiled : s.store.TripsFiled := ((Store.filedFor_empty.putUser _).putTrip _).putTrip _
  have herrand : Service.report? (Commute.report "errand") = some ("errand", Commute.atHome 2) :=
    Commute.report?_report (by decide +kernel) (by decide +kernel)
  have hcommute : Service.report? (Commute.report "commute") =
      some ("commute", Commute.atHome 2) :=
    Commute.report?_report (by decide +kernel) (by decide +kernel)
  have hlive : Commute.underway.isStale Commute.clock = false := by decide
  have hsame : (Commute.underway.itinerary == Commute.bus 0) = true := by decide
  have hstarted : s.registry.get? "commute" = some Commute.underway := rfl
  obtain ⟨-, hnext, hown⟩ := requests_touch_own_journey s Commute.keyed_underway
    [⟨Commute.clock, Commute.report "errand"⟩]
  obtain ⟨hothers, hfollows⟩ := hown hfiled
  have hkept : before.registry.get? "commute" = some Commute.underway := by
    rw [hothers "commute", hstarted]
    · simp [Option.filter, hlive]
    · intro a ha
      obtain rfl := List.mem_singleton.mp ha
      rintro ⟨-, p, hreport⟩
      obtain ⟨hid, -⟩ := Prod.mk.inj (Option.some.inj (herrand.symm.trans hreport))
      exact absurd hid (by decide)
  obtain ⟨-, -, -, hanswers⟩ := hnext Commute.clock (Commute.report "commute")
  have hanswered : response.Answers :=
    ((hanswers _ _ hcommute rfl).2.2 Commute.planned (Commute.bus 0) rfl).2 Commute.isModest_bus
      (by decide)
  obtain ⟨id, p, t, i, hreport, hfollowed, hafter⟩ :=
    hfollows Commute.clock _ (Service.isTrack_of_report hcommute) hanswered
  obtain ⟨rfl, rfl⟩ := Prod.mk.inj (Option.some.inj (hcommute.symm.trans hreport))
  cases hfollowed
  obtain ⟨j, hj, -, -, -, hgoes, -⟩ := hafter.own
  exact ⟨Commute.keyed_underway, hfiled, hkept, hanswered, j, hj, hgoes _ hkept hlive hsame⟩

/-- **A request may mistake a journey for its own.** The trip of the commute stands under the key of
the home, where a store is not filed. A position that is reported for the home is taken in by the
journey of the commute, which is another one and not over, and the home has no journey afterwards.
And where the instruction cannot be calculated a request is neither refused nor answered, and takes
a position in all the same. -/
theorem mistakes_journeys :
    let s := Commute.misplaced
    let response := s.respond Commute.clock (Commute.report "home")
    let missing := Commute.service.respond Commute.clock (Commute.farOff "commute")
    (s.registry.Keyed ∧ s.registry.get? "commute" = some Commute.underway ∧
      Commute.underway.isStale Commute.clock = false ∧ response.Answers ∧
      response.service.registry.get? "home" = none ∧
      ∃ j, response.service.registry.get? "commute" = some j ∧ j ≠ Commute.underway) ∧
    missing.reply = none ∧
      ∃ j, missing.service.registry.get? "commute" = some j ∧ j ≠ Commute.underway := by
  intro s response missing
  have hhome : Service.report? (Commute.report "home") = some ("home", Commute.atHome 2) :=
    Commute.report?_report (by decide +kernel) (by decide +kernel)
  have hpath : Endpoint.ofPath? (Commute.farOff "commute").path = some (.track "commute") := by
    decide +kernel
  have hfar : Service.report? (Commute.farOff "commute") =
      some ("commute", ⟨.zero, .zero, Int64.minValue⟩) :=
    Service.report?_of_parts hpath rfl rfl (by decide +kernel) (by decide +kernel)
  have hlive : Commute.underway.isStale Commute.clock = false := by decide
  constructor
  · have hfollowed : s.store.followed? "home" = some (Commute.planned, Commute.bus 0) := rfl
    have hanswered : response.Answers :=
      ((Service.reply_of_working hhome rfl Commute.clock).2.2 _ _ hfollowed).2
        Commute.isModest_bus (by decide)
    have hfollows := Service.follows_of_working Commute.keyed_underway hhome rfl hfollowed
      Commute.clock
    obtain ⟨j, hj, -, hlast, -⟩ := hfollows.own
    have hnone : response.service.registry.get? "home" = none := hfollows.others "home" (by decide)
    exact ⟨Commute.keyed_underway, rfl, hlive, hanswered, hnone, j, hj,
      Commute.ne_underway hlast (by decide)⟩
  · have hfollowed : Commute.service.store.followed? "commute" =
        some (Commute.planned, Commute.bus 0) := rfl
    have hfollows := Service.follows_of_working (s := Commute.service) Commute.keyed_underway hfar
      rfl hfollowed Commute.clock
    obtain ⟨j, hj, -, hlast, -⟩ := hfollows.own
    refine ⟨?_, j, hj, Commute.ne_underway hlast (by decide)⟩
    obtain ⟨-, hreply⟩ := Service.respond_of_tracked (s := Commute.service) hfar
      (t := Commute.planned) (i := Commute.bus 0) rfl Commute.clock
    rw [Registry.getOrStart_evictStale_of_live rfl hlive (by decide)] at hreply
    have hanswer : (Commute.locator.locate Commute.underway
        ⟨.zero, .zero, Int64.minValue⟩ .english).result.run? = none := by decide
    exact hreply.trans (congrArg _ hanswer)

end TripWatch
