import TripWatch.Trip.Basic
import TripWatch.Itinerary.Codec

/-!
# Trips and riders as JSON

Writers and readers of days, preferences, trips and riders. A trip's preferences stand among its
own fields.
-/

namespace TripWatch

open Json

/-- Writes a language as its tag. -/
def Locale.toJson (l : Locale) : Json := .text l.tag

/-- Reads a language from any tag. -/
def Locale.decoder : Decoder Locale := fun d => (Decoder.text d).map Locale.ofTag

namespace ActiveDays

/-- Writes the days. -/
def toJson (days : ActiveDays) : Json :=
  .record [("monday", .bool days.monday), ("tuesday", .bool days.tuesday),
    ("wednesday", .bool days.wednesday), ("thursday", .bool days.thursday),
    ("friday", .bool days.friday), ("saturday", .bool days.saturday),
    ("sunday", .bool days.sunday)]

/-- Reads the days; those left out are not active. -/
def decoder : Decoder ActiveDays := .record <|
  ActiveDays.mk <$> .withDefault "monday" false .bool <*> .withDefault "tuesday" false .bool <*>
    .withDefault "wednesday" false .bool <*> .withDefault "thursday" false .bool <*>
    .withDefault "friday" false .bool <*> .withDefault "saturday" false .bool <*>
    .withDefault "sunday" false .bool

end ActiveDays

namespace Preferences

/-- The fields of the preferences. -/
def members (p : Preferences) : List (String × Json) :=
  [("notify_on_alert", .bool p.onAlert), ("notify_on_delay", .bool p.onDelay),
    ("notify_on_itinerary_change", .bool p.onItineraryChange),
    ("departure_variance_minutes_threshold", .ofNat p.departureThreshold.toNat),
    ("arrival_variance_minutes_threshold", .ofNat p.arrivalThreshold.toNat)]

/-- Writes the preferences. -/
def toJson (p : Preferences) : Json := .record p.members

/-- Reads the fields of the preferences; those left out are standard. -/
def reader : FieldReader Preferences :=
  Preferences.mk <$> .withDefault "notify_on_alert" true .bool <*>
    .withDefault "notify_on_delay" true .bool <*>
    .withDefault "notify_on_itinerary_change" true .bool <*>
    .withDefault "departure_variance_minutes_threshold" 15 .unsigned32 <*>
    .withDefault "arrival_variance_minutes_threshold" 15 .unsigned32

/-- Reads the preferences. -/
def decoder : Decoder Preferences := .record reader

end Preferences

namespace Trip

/-- Writes a trip. -/
def toJson (t : Trip) : Json :=
  .record ([("id", .text t.id), ("user_id", .text t.userId), ("trip_name", .ofText? t.name),
    ("is_active", .bool t.isActive), ("from", t.origin.toJson), ("to", t.destination.toJson),
    ("trip_time", .text t.time), ("arrive_by", .bool t.arriveBy),
    ("modes", .ofList .text t.modes), ("days", t.days.toJson)] ++ t.preferences.members ++
    [("itinerary", .ofOption Itinerary.toJson t.itinerary)])

/-- Reads a trip. -/
def decoder : Decoder Trip :=
  .flattened
    ((fun id userId name isActive origin destination time arriveBy modes days itinerary
        preferences =>
      Trip.mk id userId name isActive origin destination time arriveBy modes days preferences
        itinerary) <$>
      .required "id" .text <*> .required "user_id" .text <*> .optional "trip_name" .text <*>
      .withDefault "is_active" true .bool <*> .required "from" Place.decoder <*>
      .required "to" Place.decoder <*> .required "trip_time" .text <*>
      .withDefault "arrive_by" false .bool <*>
      .withDefault "modes" ["WALK", "TRANSIT"] (.list .text) <*>
      .required "days" ActiveDays.decoder <*> .optional "itinerary" Itinerary.decoder)
    Preferences.reader

end Trip

namespace User

/-- Writes a rider. -/
def toJson (u : User) : Json :=
  .record [("id", .text u.id), ("email", .ofText? u.email),
    ("phone_number", .ofText? u.phoneNumber), ("notification_channel", .text u.channel),
    ("locale", u.locale.toJson)]

/-- Reads a rider. -/
def decoder : Decoder User := .record <|
  User.mk <$> .required "id" .text <*> .optional "email" .text <*>
    .optional "phone_number" .text <*> .withDefault "notification_channel" "" .text <*>
    .withDefault "locale" .english Locale.decoder

end User

end TripWatch
