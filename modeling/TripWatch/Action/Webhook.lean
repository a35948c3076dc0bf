import TripWatch.Action.Codec
import TripWatch.Web.Status
import TripWatch.Web.Url

/-!
# Posting interactions

What is posted when an action is started, and what the answer means.

## Main definitions

* `interactionPayload` — what is posted
* `interactionResult` — what the answer means; `InteractionFault` says why it failed
-/

namespace TripWatch

/-- Why an interaction failed. -/
inductive InteractionFault where
  /-- The endpoint answered with an error status. -/
  | rejected (status : Nat)
  /-- The endpoint could not be reached. -/
  | transport
  deriving DecidableEq, Repr

/-- The wording of a fault. -/
def InteractionFault.message : InteractionFault → String
  | rejected status => "interaction endpoint answered with status " ++ toString status
  | transport => "interaction request failed"

/-- What is posted for an action of a traveler. -/
def interactionPayload (a : SegmentAction) (userId : String) : Json :=
  .record ([("action_id", .text a.id), ("user_id", .text userId)] ++ a.interaction.members)

/-- What an answer means: from status 400 on the interaction is rejected. -/
def interactionResult (status : Nat) : Except InteractionFault Unit :=
  if !isAnswer status then .error .transport
  else if 400 ≤ status then .error (.rejected status) else .ok ()

end TripWatch
