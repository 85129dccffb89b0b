import CommonPurse.Proofs.Balance.Deltas

/-!
# Who pays and who is paid

Nobody is paid but those who are owed something, and nobody both pays and is paid. Those who pay owe
something, too, as long as pairing does not come to two people at the ends of the queue who are both
owed more than half a hundredth. It can come to that: what is left of a balance within the margin is
dropped, and in large groups what is dropped adds up to more than a hundredth, which is then missing
on the side of those who pay.

## Main definitions

* `CommonPurse.Balance.OnlyDebtorsPay` — who pays has a delta below zero, who is paid has one above.
* `CommonPurse.Balance.Turn.BothOwed` — a turn between two people who are both owed something.

## Main results

* `CommonPurse.Balance.onlyDebtorsPay_iff` — when only those who owe something pay.
* `CommonPurse.Balance.not_onlyDebtorsPay_sampleTreats` — they are not always the only ones.
-/

namespace CommonPurse.Balance

open Decimal

/-- Everybody who pays has paid less than the average, and everybody who is paid has paid more. -/
def OnlyDebtorsPay (ds : Balances) (ts : List Transfer) : Prop :=
  ∀ t ∈ ts, deltaOf ds t.payer < 0 ∧ 0 < deltaOf ds t.payee

/-- Both who take part in a turn are owed more than half a hundredth. -/
def Turn.BothOwed (t : Turn) : Prop :=
  1 / 200 < t.debtor.2.value ∧ 1 / 200 < t.creditor.2.value

instance (t : Turn) : Decidable t.BothOwed := inferInstanceAs (Decidable (_ ∧ _))

variable {delta : Id → ℚ} {queue next left : Balances} {t : Turn} {ts : List Turn}

/-! ## The two sides of a transfer -/

/-- More than half a hundredth is transferred. -/
lemma Round.Settles.exists_transfer {r : Round} {debtor creditor : Id × Decimal}
    (h : r.Settles debtor creditor) (hf : 1 / 200 < |debtor.2.value|)
    (hg : 1 / 200 < creditor.2.value) : ∃ x, x ∈ r.transfer :=
  Option.isSome_iff_exists.mp (h.transfer_isSome.mpr (lt_min hf hg))

/-- Who is paid is owed something. Who pays owes something, unless both are owed something. -/
lemma Sides.transfer (h : Sides delta queue) (plays : t.Plays queue next) {x : Transfer}
    (hx : x ∈ t.round.transfer) :
    0 < delta x.payee ∧ (delta x.payer < 0 ↔ ¬ t.BothOwed) := by
  obtain ⟨payer, payee, -⟩ := plays.settles.transfer x hx
  have some : t.round.transfer.isSome := Option.isSome_iff_exists.mpr ⟨x, hx⟩
  obtain ⟨hf, hg⟩ := lt_min_iff.mp (plays.settles.transfer_isSome.mp some)
  rw [payer, payee]
  constructor
  · by_contra none
    linarith [h.nonpos _ plays.creditor_mem (not_lt.mp none)]
  · rcases le_or_gt t.debtor.2.value 0 with owing | owed
    · rw [abs_of_nonpos owing] at hf
      refine iff_of_true ?_ fun both => by linarith [both.1]
      by_contra none
      linarith [h.nonneg _ plays.debtor_mem (not_lt.mp none)]
    · rw [abs_of_pos owed] at hf
      refine iff_of_false (fun less => ?_) (not_not_intro ⟨hf, hg⟩)
      linarith [h.nonpos _ plays.debtor_mem less.le]

/-! ## Who pays -/

/-- **Only those who owe something pay, unless pairing comes to two people who are both owed
something.** In any case nobody is paid but those who are owed something, and nobody both pays and
is paid. -/
theorem onlyDebtorsPay_iff {payments : List Payment} {members : List Id} {ds : Balances}
    {ts : List Transfer} (entered : Entered payments) (hds : deltas payments members = .ok ds)
    (hts : transfers payments members = .ok ts) :
    (OnlyDebtorsPay ds ts ↔ ∀ t ∈ turnsOf ds, ¬ t.BothOwed) ∧
      (∀ x ∈ ts, 0 < deltaOf ds x.payee) ∧ ∀ x ∈ ts, ∀ y ∈ ts, x.payer ≠ y.payee := by
  have ledger := ledger_deltas entered hds
  rw [transfers, hds] at hts
  obtain ⟨left, course, -, rfl⟩ := ledger.exists_course hts
  have sides := ledger.sides
  refine ⟨⟨fun only t ht both => ?_, fun never x hx => ?_⟩, fun x hx => ?_, fun x hx y hy => ?_⟩
  · obtain ⟨q, q', plays, sides'⟩ := course.exists_sides sides ht
    obtain ⟨x, hx⟩ := plays.settles.exists_transfer (both.1.trans_le (le_abs_self _)) both.2
    exact (sides'.transfer plays hx).2.mp (only x (mem_made.mpr ⟨t, ht, hx⟩)).1 both
  · obtain ⟨t, ht, q, q', plays, sides', hx⟩ := course.exists_turn sides hx
    obtain ⟨paid, pays⟩ := sides'.transfer plays hx
    exact ⟨pays.mpr (never t ht), paid⟩
  · obtain ⟨t, ht, q, q', plays, sides', hx⟩ := course.exists_turn sides hx
    exact (sides'.transfer plays hx).1
  · obtain ⟨t, ht, q, q', plays, -, hx⟩ := course.exists_turn sides hx
    obtain ⟨u, hu, r, r', plays', -, hy⟩ := course.exists_turn sides hy
    rw [(plays.settles.transfer x hx).1, (plays'.settles.transfer y hy).2.1]
    exact course.debtor_ne_creditor ledger.nodup_mergeSort ht hu

/-- On the trip only those who owe something pay. -/
theorem onlyDebtorsPay_sampleTrip :
    Entered sampleTrip ∧ deltas sampleTrip sampleTravellers = .ok sampleTripDeltas ∧
      transfers sampleTrip sampleTravellers = .ok (made sampleTripTurns) ∧
      OnlyDebtorsPay sampleTripDeltas (made sampleTripTurns) := by
  refine ⟨entered_sampleTrip, deltas_sampleTrip, transfers_sampleTrip, ?_⟩
  refine (onlyDebtorsPay_iff entered_sampleTrip deltas_sampleTrip transfers_sampleTrip).1.mpr ?_
  rw [turnsOf_sampleTripDeltas]
  decide +kernel

/-! ## Who is owed something and pays -/

/-- The last twenty-one of forty people have paid two hundredths each. -/
def sampleTreats : List Payment :=
  (List.range 21).map fun k => ⟨.ofNat (19 + k), .finite false 2 (-2)⟩

/-- The forty people. -/
def sampleCrowd : List Id := (List.range 40).map .ofNat

/-- Nineteen of them owe 0.0105 each, and twenty-one are owed 0.0095 each. -/
def sampleTreatDeltas : Balances :=
  (List.range 40).map fun k =>
    (.ofNat k, if k < 19 then .finite true 105 (-4) else .finite false 95 (-4))

/-- Nineteen of them pay a hundredth each, and so does one who is owed something. -/
def sampleTreatTransfers : List Transfer :=
  (List.range 20).map fun k => ⟨.ofNat k, .ofNat (39 - k), .finite false 1 (-2)⟩

lemma deltas_sampleTreats : deltas sampleTreats sampleCrowd = .ok sampleTreatDeltas := by rfl

lemma transfers_sampleTreats : transfers sampleTreats sampleCrowd = .ok sampleTreatTransfers := by
  have sorted : sampleTreatDeltas.mergeSort orderByAmount = sampleTreatDeltas :=
    List.mergeSort_of_pairwise (by decide +kernel)
  simp only [transfers, deltas_sampleTreats, transfersOf, sorted]
  rfl

/-- **Somebody who is owed something may have to pay.** In every one of nineteen rounds a thousandth
of what the debtor owes is dropped. What is missing in the end is paid by one of two creditors who
are left. -/
theorem not_onlyDebtorsPay_sampleTreats :
    Entered sampleTreats ∧ deltas sampleTreats sampleCrowd = .ok sampleTreatDeltas ∧
      transfers sampleTreats sampleCrowd = .ok sampleTreatTransfers ∧
      ¬ OnlyDebtorsPay sampleTreatDeltas sampleTreatTransfers := by
  refine ⟨fun p hp => ?_, deltas_sampleTreats, transfers_sampleTreats, fun only => ?_⟩
  · obtain ⟨k, -, rfl⟩ := List.mem_map.mp hp
    exact ⟨"0.02", rfl⟩
  · have last := only ⟨.ofNat 19, .ofNat 20, .finite false 1 (-2)⟩ (by decide +kernel)
    have owed : amountOf (.ofNat 19) sampleTreatDeltas = .finite false 95 (-4) := by
      decide +kernel
    have less := last.1
    rw [deltaOf, owed] at less
    exact (size_nonneg 95 (-4)).not_gt less

end CommonPurse.Balance
