import TripWatch.Journey.Codec
import TripWatch.Notice.Basic

/-!
# Notifications as JSON

Writers of notifications and of the messages that they become.
-/

namespace TripWatch

/-- Writes a notification. -/
def Notification.toJson (n : Notification) : Json :=
  .record [("kind", n.kind.toJson), ("body", .text n.body)]

/-- Writes a message. Mail never has attachments. -/
def Message.toJson : Message → Json
  | sms number body => .record [("sms", .text number), ("body", .text body)]
  | email address subject body =>
    .record [("email", .text address), ("subject", .text subject), ("body", .text body),
      ("attachments", .int 0)]

end TripWatch
