import CommonPurse.Id
import CommonPurse.Time.Timestamp

/-!
# Occasions

What the outside world supplies to a single call: the time, and as many fresh identifiers as the
call needs.

## Main definitions

* `CommonPurse.Occasion` — the time and the identifiers of a call.
-/

namespace CommonPurse

/-- The time of a call and the identifiers that it draws, in their order. -/
structure Occasion where
  now : Timestamp
  ids : Nat → Id

/-- The rest of an occasion when some identifiers have been drawn. -/
def Occasion.skip (o : Occasion) (n : Nat) : Occasion := { o with ids := fun k => o.ids (n + k) }

end CommonPurse
