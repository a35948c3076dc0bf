import TripWatch.Store.Basic
import TripWatch.Tracking.Locator
import TripWatch.Web.MediaType
import TripWatch.Web.Percent

/-!
# The web service

What the service answers: that it is alive, what is known of a trip, and where a traveler has to
go. Requests read the store and never change it; only an accepted position changes the journeys
that are followed.

## Main definitions

* `ServiceRequest`, `Reply` — what is asked and answered
* `Endpoint.ofPath?` — what a path stands for
* `Service.respond` — the reply to a request, with the journeys afterwards
-/

namespace TripWatch

/-- A request to the service. -/
structure ServiceRequest where
  /-- The method. -/
  method : String
  /-- Path and query. -/
  path : String
  /-- The kind of content. -/
  contentType : Option String
  /-- The content. -/
  body : String

/-- What a reply holds. -/
inductive ReplyBody where
  /-- Nothing. -/
  | nothing
  /-- A text. -/
  | text (s : String)
  /-- A value. -/
  | json (v : Json)
  /-- An explanation for developers, whose wording is left open. -/
  | explanation

/-- A reply. -/
structure Reply where
  /-- The status. -/
  status : Nat
  /-- What it holds. -/
  body : ReplyBody

/-! ### Routes -/

/-- What can be asked; trips by their identifiers as they stand in the path. -/
inductive Endpoint where
  /-- Whether the service is alive. -/
  | health
  /-- What is known of a trip. -/
  | status (rawId : String)
  /-- Where a traveler has to go. -/
  | track (rawId : String)
  deriving DecidableEq

namespace Endpoint

/-- The parts of a path between slashes, without its query. -/
def parts (path : String) : List (List Char) :=
  (path.toList.takeWhile fun c => c != '?' && c != '#').splitOn '/'

/-- What a path stands for. -/
def ofPath? (path : String) : Option Endpoint :=
  match (parts path).map String.ofList with
  | ["", "health"] => some health
  | ["", "monitored-trips", id, "status"] => some (status id)
  | ["", "monitored-trips", id, "track"] => some (track id)
  | _ => none

/-- The method of an endpoint. -/
def method : Endpoint → String
  | health | status _ => "GET"
  | track _ => "POST"

end Endpoint

/-! ### Faults -/

/-- Why a request is refused. -/
inductive ServiceFault where
  /-- The trip is not stored. -/
  | tripNotFound (id : String)
  /-- The trip was never checked. -/
  | notChecked (id : String)
  /-- The trip has no itinerary. -/
  | noItinerary (id : String)
  /-- The store failed. -/
  | store (fault : StoreFault)

namespace ServiceFault

/-- The status of a refusal. -/
def status : ServiceFault → Nat
  | tripNotFound _ | notChecked _ => 404
  | noItinerary _ => 409
  | store _ => 500

/-- The wording of a refusal. -/
def message : ServiceFault → String
  | tripNotFound id => "monitored trip " ++ id ++ " not found"
  | notChecked id => "monitored trip " ++ id ++ " has not been checked yet"
  | noItinerary id => "monitored trip " ++ id ++ " has no itinerary to follow"
  | store fault => fault.message

/-- The reply of a refusal. -/
def reply (f : ServiceFault) : Reply := ⟨f.status, .text f.message⟩

end ServiceFault

/-! ### The service -/

/-- What requests act on. -/
structure Service where
  /-- The store. -/
  store : Store
  /-- Which operations on the store fail. -/
  outage : Outage
  /-- How positions are taken in. -/
  locator : Locator
  /-- The journeys that are followed. -/
  registry : Registry

/-- A reply, the service afterwards, and the action that was started with its traveler. -/
structure Response where
  /-- The reply. There is none where the answer cannot be calculated. -/
  reply : Option Reply
  /-- The service afterwards. -/
  service : Service
  /-- The action that was started, and for whom. -/
  fired : Option (SegmentAction × String)

namespace Service

/-- Writes what is known of a trip. -/
def stateToJson (s : JourneyState) : Json :=
  .record [("tripId", .text s.tripId), ("tripStatus", .ofOption TripStatus.toJson s.status),
    ("targetDate", .ofOption Date.toJson s.targetDate),
    ("lastCheckedTime", .ofWord? s.lastChecked),
    ("matchingItinerary", .ofOption Itinerary.toJson s.matchingItinerary)]

/-- A value that is read from the store. -/
def read {α : Type} (s : Service) (operation : StoreOperation) (value : α) :
    Except ServiceFault α :=
  match s.outage operation with
  | some fault => .error (.store fault)
  | none => .ok value

/-- What is known of a trip. -/
def tripState (s : Service) (id : String) : Except ServiceFault JourneyState := do
  match ← s.read .getJourneyState (s.store.states.get? id) with
  | some state => .ok state
  | none => .error (.notChecked id)

/-- The trip, the itinerary that its traveler follows, and the traveler's language. The itinerary
that was found by the last check comes before the one that is kept with the trip. -/
def tracked (s : Service) (id : String) : Except ServiceFault (Trip × Itinerary × Locale) := do
  match ← s.read .getTrip (s.store.trips.get? id) with
  | none => .error (.tripNotFound id)
  | some t =>
    let state ← s.read .getJourneyState (s.store.states.get? id)
    match (state.bind JourneyState.matchingItinerary).or t.itinerary with
    | none => .error (.noItinerary id)
    | some itinerary =>
      let user ← s.read .getUser (s.store.users.get? t.userId)
      .ok (t, itinerary, (user.map User.locale).getD .english)

/-- Takes in a position of a trip's traveler. Journeys that are over are forgotten first. -/
def track (s : Service) (now : Instant) (id : String) (p : Position) :
    Except ServiceFault (Service × Located) := do
  let (t, itinerary, locale) ← s.tracked id
  let (registry, _) := s.registry.evictStale now
  let located := s.locator.locate (registry.getOrStart t.id t.userId itinerary) p locale
  .ok ({ s with registry := registry.put located.journey }, located)

/-- The service unchanged, with a reply. -/
def plain (s : Service) (reply : Reply) : Response := ⟨some reply, s, none⟩

/-- The reply on a trip's state. -/
def respondStatus (s : Service) (id : String) : Response :=
  match s.tripState id with
  | .ok state => s.plain ⟨200, .json (stateToJson state)⟩
  | .error fault => s.plain fault.reply

/-- Whether a request says that its content is JSON. -/
def hasJson (r : ServiceRequest) : Bool :=
  (r.contentType.bind MediaType.ofText?).any MediaType.isJson

/-- The reply on a position. The content is read before the trip is looked up. -/
def respondTrack (s : Service) (now : Instant) (id : String) (r : ServiceRequest) : Response :=
  if hasJson r then
    match Json.decodeFirst Position.decoder r.body with
    | .error .mismatch => s.plain ⟨422, .explanation⟩
    | .error _ => s.plain ⟨400, .explanation⟩
    | .ok p =>
      match s.track now id p with
      | .error fault => s.plain fault.reply
      | .ok (after, located) =>
        ⟨located.result.run?.map fun result => ⟨200, .json result.toJson⟩, after,
          located.fired.map fun a => (a, located.journey.userId)⟩
  else s.plain ⟨415, .explanation⟩

/-- The reply on a trip by its identifier as it stands in the path. -/
def withId (s : Service) (rawId : String) (go : String → Response) : Response :=
  match Percent.decode? rawId with
  | some id => go id
  | none => s.plain ⟨400, .explanation⟩

/-- The reply of an endpoint. -/
def respondAt (s : Service) (now : Instant) (r : ServiceRequest) : Endpoint → Response
  | .health => s.plain ⟨200, .text "OK"⟩
  | .status rawId => s.withId rawId s.respondStatus
  | .track rawId => s.withId rawId fun id => s.respondTrack now id r

/-- A response without its content. -/
def headOnly (r : Response) : Response :=
  { r with reply := r.reply.map fun reply => { reply with body := .nothing } }

/-- The reply to a request. What can be read can also be asked for without its content. -/
def respond (s : Service) (now : Instant) (r : ServiceRequest) : Response :=
  match Endpoint.ofPath? r.path with
  | none => s.plain ⟨404, .nothing⟩
  | some endpoint =>
    if r.method = endpoint.method then s.respondAt now r endpoint
    else if r.method = "HEAD" ∧ endpoint.method = "GET" then headOnly (s.respondAt now r endpoint)
    else s.plain ⟨405, .nothing⟩

end Service

end TripWatch
