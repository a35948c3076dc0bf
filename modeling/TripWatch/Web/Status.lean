/-!
# Status codes of replies

What a status code says about the reply that it stands in, apart from its meaning.
-/

namespace TripWatch

/-- Whether a reply with a status is the answer to a request. A code has three digits; those from
100 on only announce the answer, apart from 101. -/
def isAnswer (status : Nat) : Bool := decide (status = 101 ∨ (200 ≤ status ∧ status < 1000))

/-- Whether a reply with a status never has a body. -/
def isBodiless (status : Nat) : Bool := decide (status = 101 ∨ status = 204 ∨ status = 304)

end TripWatch
