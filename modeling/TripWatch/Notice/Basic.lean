import TripWatch.Trip.Basic

/-!
# Notifications and their delivery

What riders are told about a trip, and by which channels it reaches them. A delivery either
reaches everybody it was meant for or reports the last channel that failed.

## Main definitions

* `NotificationKind`, `Notification` — what a rider is told
* `Channel.ofName` — the channels that a rider asked for
* `deliveries` — the messages that several notifications become
* `deliver` — sends them by a sender that may fail; `DeliveryFault` names a channel that failed
-/

namespace TripWatch

/-- What a notification is about. -/
inductive NotificationKind where
  | alert
  | departureDelay
  | arrivalDelay
  | itineraryChanged
  | tripNotPossible
  deriving DecidableEq, Repr

/-- A notification. -/
structure Notification where
  /-- What it is about. -/
  kind : NotificationKind
  /-- The text. -/
  body : String
  deriving DecidableEq

/-! ### Channels -/

/-- A way to reach a rider. -/
inductive Medium where
  | sms
  | email
  deriving DecidableEq, Repr

/-- The word for a medium. -/
def Medium.name : Medium → String
  | sms => "sms"
  | email => "email"

/-- The channels that a rider asked for. -/
inductive Channel where
  | sms
  | email
  | all
  | unrecognized
  deriving DecidableEq, Repr

namespace Channel

/-- The channels that a word stands for. -/
def ofName : String → Channel
  | "sms" => sms
  | "email" => email
  | "all" => all
  | _ => unrecognized

/-- The ways to reach the rider, in the order in which they are tried. -/
def media : Channel → List Medium
  | sms => [.sms]
  | email => [.email]
  | all => [.sms, .email]
  | unrecognized => []

end Channel

/-! ### Messages -/

/-- A message to a rider. -/
inductive Message where
  /-- A short message to a number. -/
  | sms (number body : String)
  /-- Electronic mail to an address. -/
  | email (address subject body : String)
  deriving DecidableEq

/-- The way a message takes. -/
def Message.medium : Message → Medium
  | sms .. => .sms
  | email .. => .email

/-- The subject of mail about a trip. -/
def notificationSubject (t : Trip) : String := t.displayName ++ " Notification"

/-- The text of several notifications, one after the other on lines of their own. -/
def notificationBody (notifications : List Notification) : String :=
  "\n".intercalate (notifications.map Notification.body)

/-- The message for a rider by a medium, if the rider can be reached by it. -/
def messageBy? (user : User) (subject body : String) : Medium → Option Message
  | .sms => user.phoneNumber.map fun number => .sms number body
  | .email => user.email.map fun address => .email address subject body

/-- The messages that notifications become for a rider. -/
def deliveries (user : User) (t : Trip) (notifications : List Notification) : List Message :=
  if notifications = [] then []
  else (Channel.ofName user.channel).media.filterMap
    (messageBy? user (notificationSubject t) (notificationBody notifications))

/-! ### Delivery -/

/-- A message that could not be delivered. -/
structure DeliveryFault where
  /-- By which medium. -/
  medium : Medium
  /-- Why. -/
  reason : String
  deriving DecidableEq

/-- The wording of a fault. -/
def DeliveryFault.message (f : DeliveryFault) : String :=
  f.medium.name ++ " delivery failed: " ++ f.reason

/-- How a sender takes messages: why it refuses those of a medium, if it does. -/
abbrev Sender := Medium → Option String

/-- The sender that takes every message. -/
def Sender.working : Sender := fun _ => none

/-- What a sender took, and how many messages that were or the last fault. -/
structure Delivery where
  /-- The messages taken, in order. -/
  sent : List Message
  /-- Their number, or the last fault. -/
  result : Except DeliveryFault Nat

/-- Sends notifications to a rider. Every medium is tried, also after a fault. -/
def deliver (sender : Sender) (user : User) (t : Trip) (notifications : List Notification) :
    Delivery :=
  let messages := deliveries user t notifications
  let sent := messages.filter fun m => (sender m.medium).isNone
  let faults := messages.filterMap fun m =>
    (sender m.medium).map fun reason => DeliveryFault.mk m.medium reason
  ⟨sent, match faults.getLast? with
    | some f => .error f
    | none => .ok sent.length⟩

end TripWatch
