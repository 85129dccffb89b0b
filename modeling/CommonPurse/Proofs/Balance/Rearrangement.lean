import CommonPurse.Proofs.Balance.Deltas
import CommonPurse.Proofs.Balance.Faultless
import CommonPurse.Settlement

/-!
# Settlements do not depend on the order of expenses

As long as what has been paid comes to at most the largest amount, no sum of amounts is rounded. So
what each person has paid is a function of the person's payments, whichever order they come in, and
the members stand in their own order from the beginning. Then the deltas are the same for every
order of the expenses, and with them the transfers.

## Main definitions

* `CommonPurse.Balance.spent` — what somebody has paid in all.
* `CommonPurse.Balance.table` — the balances of some people in their order.

## Main results

* `CommonPurse.Balance.paid_eq` — what everybody has paid, written out.
* `CommonPurse.Balance.rearranged` — deltas and transfers for expenses in another order.
-/

namespace CommonPurse.Balance

open Decimal

/-! ## Tables of balances -/

/-- The balances of some people, in their order. -/
def table (keys : List Id) (f : Id → Decimal) : Balances := keys.map fun i => (i, f i)

lemma keys_table (keys : List Id) (f : Id → Decimal) : (table keys f).map (·.1) = keys := by
  simp [table, Function.comp_def]

lemma amountOf_table {keys : List Id} (f : Id → Decimal) {i : Id} (listed : i ∈ keys) :
    amountOf i (table keys f) = f i := by
  induction keys with
  | nil => cases listed
  | cons k rest ih =>
    by_cases same : k = i
    · simp [amountOf, table, same]
    · have behind : i ∈ rest := (List.mem_cons.mp listed).resolve_left (Ne.symm same)
      have front : amountOf i (table (k :: rest) f) = amountOf i (table rest f) := by
        simp [amountOf, table, same]
      rw [front, ih behind]

/-- To set the amount of one of the people changes the table there. -/
lemma setAmount_table {keys : List Id} (distinct : keys.Nodup) (f : Id → Decimal) {i : Id}
    (listed : i ∈ keys) (a : Decimal) :
    setAmount i a (table keys f) = table keys (Function.update f i a) := by
  induction keys with
  | nil => cases listed
  | cons k rest ih =>
    obtain ⟨new, distinct⟩ := List.nodup_cons.mp distinct
    have front : table (k :: rest) (Function.update f i a) =
        (k, Function.update f i a k) :: table rest (Function.update f i a) := rfl
    rw [front]
    by_cases same : k = i
    · subst same
      have others : table rest (Function.update f k a) = table rest f :=
        List.map_congr_left fun j hj => by
          rw [Function.update_of_ne (ne_of_mem_of_not_mem hj new)]
      rw [others, Function.update_self]
      exact if_pos rfl
    · have behind : i ∈ rest := (List.mem_cons.mp listed).resolve_left (Ne.symm same)
      rw [Function.update_of_ne same, ← ih distinct behind]
      exact if_neg same

/-- Everybody stands where the list names them first. -/
lemma keys_nothingPaid (members : List Id) :
    (nothingPaid members).map (·.1) = members.eraseDups := by
  induction members using List.reverseRecOn with
  | nil => rfl
  | append_singleton rest i ih =>
    have last : nothingPaid (rest ++ [i]) = setAmount i zero (nothingPaid rest) := by
      simp [nothingPaid, List.foldl_append]
    rw [last, keys_setAmount, ih, List.eraseDups_append]
    by_cases known : i ∈ rest
    · simp [List.removeAll, known]
    · simp [List.removeAll, known, List.eraseDups_cons]

/-- Nobody has paid anything in the beginning. -/
lemma nothingPaid_eq (members : List Id) :
    nothingPaid members = table members.eraseDups fun _ => zero := by
  have nothing : ∀ p ∈ nothingPaid members, p.2 = zero := by
    induction members using List.reverseRecOn with
    | nil => exact fun p hp => nomatch hp
    | append_singleton rest i ih =>
      intro p hp
      have last : nothingPaid (rest ++ [i]) = setAmount i zero (nothingPaid rest) := by
        simp [nothingPaid, List.foldl_append]
      rw [last] at hp
      rcases mem_setAmount hp with rfl | hp
      · rfl
      · exact ih p hp
  rw [← keys_nothingPaid, table, List.map_map]
  refine (List.map_id _).symm.trans (List.map_congr_left fun p hp => ?_)
  exact Prod.ext rfl (nothing p hp)

/-! ## What everybody has paid -/

/-- The payments of somebody. -/
def ownOf (payments : List Payment) (i : Id) : List Payment := payments.filter (·.payer = i)

/-- What somebody has paid in all: zero without places if nothing, and else a number of
hundredths. -/
def spent (payments : List Payment) (i : Id) : Decimal :=
  if ownOf payments i = [] then zero else .finite false (totalCents (ownOf payments i)) (-2)

lemma hundredths_spent (payments : List Payment) (i : Id) :
    Hundredths (totalCents (ownOf payments i)) (spent payments i) := by
  unfold spent
  split
  next none => exact .inr ⟨by rw [none]; rfl, rfl⟩
  next => exact .inl rfl

lemma totalCents_append (payments more : List Payment) :
    totalCents (payments ++ more) = totalCents payments + totalCents more := by
  rw [totalCents, List.map_append, List.sum_append]
  rfl

lemma totalCents_perm {payments payments' : List Payment} (perm : payments.Perm payments') :
    totalCents payments = totalCents payments' :=
  (perm.map _).sum_eq

/-- Somebody has not paid more than everybody together. -/
lemma totalCents_ownOf_le (payments : List Payment) (i : Id) :
    totalCents (ownOf payments i) ≤ totalCents payments :=
  (List.filter_sublist.map _).sum_le_sum fun _ _ => Nat.zero_le _

/-- What somebody has paid in all does not depend on the order of the payments. -/
lemma spent_perm {payments payments' : List Payment} (perm : payments.Perm payments') :
    spent payments = spent payments' := by
  funext i
  have own : (ownOf payments i).Perm (ownOf payments' i) := perm.filter _
  unfold spent
  rw [totalCents_perm own]
  have none : ownOf payments i = [] ↔ ownOf payments' i = [] := by
    rw [← List.length_eq_zero_iff, own.length_eq, List.length_eq_zero_iff]
  simp only [none]

/-- One more payment adds to what its payer has paid in all, and to nothing else. -/
lemma spent_append (payments : List Payment) {p : Payment} {k : ℕ}
    (amount : p.amount = .finite false k (-2)) :
    spent (payments ++ [p]) =
      Function.update (spent payments) p.payer
        (.finite false (totalCents (ownOf payments p.payer) + k) (-2)) := by
  funext i
  by_cases same : i = p.payer
  · subst same
    have own : ownOf (payments ++ [p]) p.payer = ownOf payments p.payer ++ [p] := by
      simp [ownOf]
    have last : totalCents [p] = k := by simp [totalCents, cents, amount]
    rw [Function.update_self, spent, own, totalCents_append, last]
    exact if_neg (List.append_ne_nil_of_right_ne_nil _ (List.cons_ne_nil p []))
  · have own : ownOf (payments ++ [p]) i = ownOf payments i := by
      simp [ownOf, Ne.symm same]
    rw [Function.update_of_ne same, spent, own]
    rfl

/-- **What everybody has paid, written out**, given that only members have paid and that all of it
has at most 28 digits: the members in their order, each with what they have paid in all.

**Proof sketch.** Induct on the payments from their end. The last payment is added to what its payer
has paid before, and that sum has at most 28 digits as well, so it is not rounded. -/
theorem paid_eq {payments : List Payment} {members : List Id}
    (known : ∀ p ∈ payments, p.payer ∈ members) (entered : Entered payments)
    (small : totalCents payments < 10 ^ 28) :
    paid payments members = .ok (table members.eraseDups (spent payments)) := by
  have distinct : members.eraseDups.Nodup := by
    rw [← keys_nothingPaid]
    exact (ledger_nothingPaid members).distinct
  induction payments using List.reverseRecOn with
  | nil =>
    rw [paid, nothingPaid_eq]
    rfl
  | append_singleton rest p ih =>
    obtain ⟨text, accepted⟩ := entered p (by simp)
    obtain ⟨k, some, -, amount⟩ := Entry.exists_of_amount accepted
    have sum : totalCents (rest ++ [p]) = totalCents rest + k := by
      simp [totalCents, cents, amount]
    have before := ih (fun q hq => known q (by simp [hq])) (fun q hq => entered q (by simp [hq]))
      (by omega)
    have listed : p.payer ∈ members.eraseDups := List.mem_eraseDups.mpr (known p (by simp))
    have own := totalCents_ownOf_le rest p.payer
    obtain ⟨z, added, hz⟩ := add_hundredths (hundredths_spent rest p.payer)
      (y := p.amount) (k := k) (.inl amount) (by omega)
    -- Something has been paid, so the sum has its two places.
    have value : z = .finite false (totalCents (ownOf rest p.payer) + k) (-2) :=
      hz.resolve_right fun nothing => by omega
    have counted : count (table members.eraseDups (spent rest)) p =
        .ok (table members.eraseDups (spent (rest ++ [p]))) := by
      rw [count, amountOf_table _ listed, added, Except.map, setAmount_table distinct _ listed,
        value, spent_append rest amount]
    have steps : paid (rest ++ [p]) members = paid rest members >>= (count · p) := by
      simp [paid, List.foldlM_append]
    rw [steps, before]
    exact counted

/-! ## Expenses in another order -/

/-- Deltas and transfers are computed from what everybody has paid. -/
lemma deltas_congr {payments payments' : List Payment} {members : List Id}
    (h : paid payments members = paid payments' members) :
    deltas payments members = deltas payments' members := by
  rw [deltas, h, deltas]

/-- The deltas stand in the order of what everybody has paid. -/
lemma keys_deltas {payments : List Payment} {members : List Id} {b ds : Balances}
    (counted : paid payments members = .ok b) (h : deltas payments members = .ok ds) :
    ds.map (·.1) = b.map (·.1) := by
  obtain ⟨b', counted', cases⟩ := deltas_cases h
  obtain rfl := Except.ok.inj (counted.symm.trans counted')
  rcases cases with ⟨rfl, rfl⟩ | ⟨total, average, -, -, -, each⟩
  · rfl
  · exact keys_of_isDelta each

/-- **Settlements do not depend on the order of expenses.** For expenses of members only, with
amounts that were accepted and that come to less than `10 ^ 26` in all, the deltas are the same for
every order of the expenses, and they stand in the order of the members; and so are the transfers,
or the reason why there are none.

**Proof sketch.** What everybody has paid is written out in `paid_eq`, and there the order of the
payments does not matter (`spent_perm`). Everything else is computed from that. -/
theorem rearranged {expenses expenses' : List Expense} {members : List Id}
    (perm : expenses.Perm expenses') (known : ∀ e ∈ expenses, e.memberId ∈ members)
    (entered : Entered (expenses.map Settlement.paymentOf))
    (small : totalCents (expenses.map Settlement.paymentOf) < 100 * 10 ^ 26) :
    (∃ ds, deltas (expenses.map Settlement.paymentOf) members = .ok ds ∧
      deltas (expenses'.map Settlement.paymentOf) members = .ok ds ∧
      ds.map (·.1) = members.eraseDups) ∧
      transfers (expenses'.map Settlement.paymentOf) members =
        transfers (expenses.map Settlement.paymentOf) members := by
  set payments := expenses.map Settlement.paymentOf
  have perm' : payments.Perm (expenses'.map Settlement.paymentOf) := perm.map _
  have payers : ∀ p ∈ payments, p.payer ∈ members := by
    intro p hp
    obtain ⟨e, he, rfl⟩ := List.mem_map.mp hp
    exact known e he
  have counted := paid_eq payers entered (by omega)
  have counted' : paid (expenses'.map Settlement.paymentOf) members =
      .ok (table members.eraseDups (spent payments)) := by
    rw [spent_perm perm']
    refine paid_eq (fun p hp => payers p (perm'.mem_iff.mpr hp))
      (fun p hp => entered p (perm'.mem_iff.mpr hp)) ?_
    rw [← totalCents_perm perm']
    omega
  have same := deltas_congr (counted'.trans counted.symm)
  have exact : ∀ p ∈ payments, Hundredths (cents p.amount) p.amount := by
    intro p hp
    obtain ⟨text, accepted⟩ := entered p hp
    obtain ⟨k, amount⟩ := Entry.hundredths_of_amount accepted
    rw [amount]
    exact .inl rfl
  obtain ⟨ds, found, -⟩ := exists_deltas members exact (by omega)
  refine ⟨⟨ds, found, same.trans found, ?_⟩, ?_⟩
  · rw [keys_deltas counted found, keys_table]
  · rw [transfers, same, transfers]

/-- Two people have paid the same in all, one of them in two bills. -/
def sampleBills : List Expense :=
  [⟨.ofNat 7, .ofNat 20, .ofNat 3, "Boat", .finite false 1000 (-2), .utc 1, none, false⟩,
    ⟨.ofNat 8, .ofNat 20, .ofNat 2, "Tent", .finite false 3000 (-2), .utc 2, none, false⟩,
    ⟨.ofNat 9, .ofNat 20, .ofNat 3, "Fuel", .finite false 2000 (-2), .utc 2, none, false⟩]

/-- The bills in the opposite order, for three people of whom one is listed twice. -/
theorem rearranged_sampleBills :
    sampleBills.Perm sampleBills.reverse ∧
      (∀ e ∈ sampleBills, e.memberId ∈ [Id.ofNat 1, .ofNat 3, .ofNat 1, .ofNat 2]) ∧
      Entered (sampleBills.map Settlement.paymentOf) ∧
      totalCents (sampleBills.map Settlement.paymentOf) < 100 * 10 ^ 26 ∧
      transfers (sampleBills.reverse.map Settlement.paymentOf)
          [.ofNat 1, .ofNat 3, .ofNat 1, .ofNat 2] =
        transfers (sampleBills.map Settlement.paymentOf)
          [.ofNat 1, .ofNat 3, .ofNat 1, .ofNat 2] := by
  have perm : sampleBills.Perm sampleBills.reverse := (List.reverse_perm _).symm
  have known : ∀ e ∈ sampleBills, e.memberId ∈ [Id.ofNat 1, .ofNat 3, .ofNat 1, .ofNat 2] := by
    decide
  have entered : Entered (sampleBills.map Settlement.paymentOf) := by
    intro p hp
    simp only [sampleBills, List.map_cons, List.map_nil, List.mem_cons, List.not_mem_nil,
      or_false] at hp
    rcases hp with rfl | rfl | rfl
    · exact ⟨"10.00", rfl⟩
    · exact ⟨"30.00", rfl⟩
    · exact ⟨"20.00", rfl⟩
  have small : totalCents (sampleBills.map Settlement.paymentOf) < 100 * 10 ^ 26 := by decide
  exact ⟨perm, known, entered, small, (rearranged perm known entered small).2⟩

end CommonPurse.Balance
