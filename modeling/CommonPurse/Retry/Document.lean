import CommonPurse.Json.Members
import CommonPurse.Retry

/-!
# Policies of retrying as documents

What a document says about how often and after which delays something is tried, over a policy
that holds for what it leaves open.

## Main definitions

* `CommonPurse.Retry.Quantity.ofDocument?` — a quantity in a document.
* `CommonPurse.Retry.Policy.ofDocument` — the policy of a document.
-/

namespace CommonPurse.Retry

/-- A quantity in a document: a number, or a truth value that stands for one. -/
def Quantity.ofDocument? : Json → Option Quantity
  | .integer n => some (.whole n)
  | .real x => some (.real x)
  | .bool b => some (.whole (if b then 1 else 0))
  | _ => none

/-- The factor that a document says delays are multiplied with: the lower end of its range. -/
def jitterOf (usual : Option Quantity) (d : Json) : Option Quantity :=
  match d.member? "jitter", d.member? "jitter_range" with
  | some (.bool false), _ => none
  | _, some (.array (least :: _)) => some ((Quantity.ofDocument? least).getD (.whole 1))
  | _, _ => usual

/-- The policy of a document. -/
def Policy.ofDocument (usual : Policy) (d : Json) : Policy :=
  let quantity (name : String) (otherwise : Quantity) : Quantity :=
    ((d.member? name).bind Quantity.ofDocument?).getD otherwise
  ⟨(d.integerAt? "max_attempts").getD usual.maxAttempts, quantity "initial_delay" usual.initialDelay,
    quantity "max_delay" usual.maxDelay, quantity "exponential_base" usual.base,
    jitterOf usual.jitter d⟩

end CommonPurse.Retry
