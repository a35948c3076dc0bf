import TripWatch.Plan.Codec
import TripWatch.Web.Status
import TripWatch.Web.Url

/-!
# Talking to the planner

The address that a request to the planner goes to, and what its answer means.

## Main definitions

* `plannerUrl?` — the address of a request
* `plannerResponse` — the response in an answer, or the planner's fault
-/

namespace TripWatch

/-- A text without slashes at its end. -/
def dropSlashes (s : String) : String :=
  String.ofList (s.toList.reverse.dropWhile (· == '/')).reverse

/-- The address of a request, if the planner's own address is usable. -/
def plannerUrl? (base : String) (r : PlanRequest) : Option Url :=
  (Url.ofText? (dropSlashes base ++ "/plan")).map fun u => u.withParams r.params

/-- What an answer means: from status 400 on the planner is not available. -/
def plannerResponse (status : Nat) (body : String) : Except PlannerFault PlanResponse :=
  if !isAnswer status then .error .transport
  else if 400 ≤ status then .error (.unavailable status)
  else
    match Json.decode PlanResponse.decoder (if isBodiless status then "" else body) with
    | .ok response => .ok response
    | .error _ => .error .transport

end TripWatch
