import CommonPurse.Entry
import CommonPurse.Event
import CommonPurse.Log
import CommonPurse.Number.Decimal.Arithmetic

/-!
# Balancing what members have paid

Who owes whom when everybody is to bear the same share. The delta of a member is what the member
has paid less the average; the member who owes most pays the one who is owed most until every
delta is within a margin of zero.

## Main definitions

* `CommonPurse.Balance.deltas` — what each member has paid less the average.
* `CommonPurse.Balance.transfers` — the payments that bring every delta to zero.
* `CommonPurse.Balance.Failure` — why there are none.
-/

namespace CommonPurse.Balance

/-- An amount that somebody has paid. -/
structure Payment where
  payer : Id
  amount : Decimal
  deriving DecidableEq, Repr, Inhabited

/-- An amount for everybody, in the order in which they first came up. -/
abbrev Balances := List (Id × Decimal)

/-- Why no transfers are found: arithmetic fails, the deltas do not sum to zero, or pairing does
not come to an end within the iterations it has. -/
inductive Failure where
  | arithmetic (f : Decimal.Fault)
  | unbalanced (deltas : Balances)
  | unsettled (iterations : Nat)
  deriving Repr

/-- Deltas within this distance of zero are settled: a tenth of a cent. -/
def margin : Decimal := .finite false 1 (-3)

/-- The amount of somebody; nothing has been paid by those who are not listed. -/
def amountOf (i : Id) (b : Balances) : Decimal :=
  match b.find? (·.1 = i) with
  | some p => p.2
  | none => Decimal.zero

/-- Set the amount of somebody, who is listed last when new. -/
def setAmount (i : Id) (a : Decimal) : Balances → Balances
  | [] => [(i, a)]
  | (k, b) :: rest => if k = i then (k, a) :: rest else (k, b) :: setAmount i a rest

/-- Everybody in a list once, with nothing paid. -/
def nothingPaid (members : List Id) : Balances :=
  members.foldl (fun b i => setAmount i Decimal.zero b) []

/-- Count a payment. -/
def count (b : Balances) (p : Payment) : Except Decimal.Fault Balances :=
  (Decimal.add (amountOf p.payer b) p.amount).map fun a => setAmount p.payer a b

/-- What everybody has paid: the members first, then others in the order of their payments. -/
def paid (payments : List Payment) (members : List Id) : Except Decimal.Fault Balances :=
  payments.foldlM count (nothingPaid members)

/-- What everybody has paid less the average. -/
def deltas (payments : List Payment) (members : List Id) : Except Decimal.Fault Balances :=
  match paid payments members with
  | .error f => .error f
  | .ok [] => .ok []
  | .ok b =>
    match Decimal.sum (b.map (·.2)) with
    | .error f => .error f
    | .ok total =>
      match total.divNat b.length with
      | .error f => .error f
      | .ok average => b.mapM fun p => (Decimal.sub p.2 average).map fun d => (p.1, d)

/-- Whether an amount is at most the margin away from zero. -/
def isSettled (a : Decimal) : Except Decimal.Fault Bool :=
  match a.abs with
  | .error f => .error f
  | .ok m => (Decimal.compare? m margin).map (· != .gt)

/-- The smaller of two amounts, the first one when they are equal. -/
def smaller (a b : Decimal) : Except Decimal.Fault Decimal :=
  (Decimal.less? b a).map fun less => if less then b else a

/-- What one round of pairing yields: the transfer, if it is worth a cent, and the two balances
after it. -/
structure Round where
  transfer : Option Transfer
  debtor : Decimal
  creditor : Decimal
  deriving Repr

/-- The debtor pays as much as is owed, but no more than the creditor is due. -/
def round (debtor creditor : Id × Decimal) : Except Decimal.Fault Round :=
  match debtor.2.abs with
  | .error f => .error f
  | .ok owed =>
    match smaller owed creditor.2 with
    | .error f => .error f
    | .ok share =>
      match share.toCents with
      | .error f => .error f
      | .ok cents =>
        match Decimal.add debtor.2 share, Decimal.sub creditor.2 share with
        | .error f, _ => .error f
        | _, .error f => .error f
        | .ok d, .ok c =>
          .ok ⟨if cents.isPositive then some ⟨debtor.1, creditor.1, cents⟩ else none, d, c⟩

/-- Keep somebody in the queue with a balance unless it is settled. -/
def keep (i : Id) (balance : Decimal) : Except Decimal.Fault Balances :=
  (isSettled balance).map fun done => if done then [] else [(i, balance)]

/-- Pair the first of a queue with the last, round after round, for as long as two are left and
the iterations last. The queue that is left comes with the transfers. -/
def pairing : Nat → Balances → Except Decimal.Fault (List Transfer × Balances)
  | 0, queue => .ok ([], queue)
  | fuel + 1, queue =>
    match queue with
    | [] => .ok ([], [])
    | [p] => .ok ([], [p])
    | first :: second :: rest =>
      let last := (second :: rest).getLast (by simp)
      let between := (second :: rest).dropLast
      match round first last with
      | .error f => .error f
      | .ok r =>
        match keep first.1 r.debtor, keep last.1 r.creditor with
        | .error f, _ => .error f
        | _, .error f => .error f
        | .ok front, .ok back =>
          (pairing fuel (front ++ between ++ back)).map fun p =>
            (r.transfer.toList ++ p.1, p.2)

/-- The order by amount. -/
def orderByAmount (a b : Id × Decimal) : Bool :=
  match Decimal.less? b.2 a.2 with
  | .ok less => !less
  | .error _ => true

/-- The transfers that settle given deltas. -/
def transfersOf (ds : Balances) : Except Failure (List Transfer) :=
  if ds.length ≤ 1 then .ok []
  else
    match (Decimal.sum (ds.map (·.2))).bind Decimal.abs with
    | .error f => .error (.arithmetic f)
    | .ok off =>
      match Decimal.compare? off margin with
      | .error f => .error (.arithmetic f)
      | .ok .gt => .error (.unbalanced ds)
      | .ok _ =>
        match pairing (10 * ds.length) (ds.mergeSort orderByAmount) with
        | .error f => .error (.arithmetic f)
        | .ok (ts, queue) =>
          if 2 ≤ queue.length then .error (.unsettled (10 * ds.length)) else .ok ts

/-- The transfers that give everybody the same share of the payments. -/
def transfers (payments : List Payment) (members : List Id) : Except Failure (List Transfer) :=
  match deltas payments members with
  | .error f => .error (.arithmetic f)
  | .ok ds => transfersOf ds

/-! ## What is said about failures -/

/-- Balances as a value in the log. -/
def logged (b : Balances) : Log.Value := .byId (b.map fun p => (p.1, .decimal p.2))

/-- The log entries about a failure. -/
def Failure.log : Failure → List Log.Entry
  | .arithmetic _ => []
  | .unbalanced ds => [.error "Cannot settle, deltas do not sum to zero" [("deltas", logged ds)]]
  | .unsettled n => [.error "Settlement did not converge" [("iterations", .integer n)]]

/-- A failure as the refusal of an operation. -/
def Failure.refusal : Failure → Entry.Refusal
  | .arithmetic f => .arithmetic f
  | _ => .problem (.internal "Settlement computation failed" [])

end CommonPurse.Balance
