import CommonPurse.Proofs.Balance.Turn
import CommonPurse.Proofs.Entry.Amount
import Mathlib.Data.List.Dedup

/-!
# Who has a delta

Everybody who is a member or has paid has one delta, and no delta is anything but the result of an
operation.

## Main definitions

* `CommonPurse.Balance.Entered` — payments of amounts that were accepted.
* `CommonPurse.Balance.people` — everybody who takes part.
* `CommonPurse.Balance.Ledger` — one balance for each of some people.

## Main results

* `CommonPurse.Balance.deltas_cases` — deltas are what has been paid, less the average.
* `CommonPurse.Balance.ledger_deltas` — everybody who takes part has one delta, which is a result.
-/

namespace CommonPurse.Balance

open Decimal

/-- Payments of amounts that people have typed and that were accepted. -/
def Entered (payments : List Payment) : Prop :=
  ∀ p ∈ payments, ∃ text, Entry.amount text = .ok p.amount

/-- Everybody who is a member or has paid. -/
def people (payments : List Payment) (members : List Id) : List Id :=
  (members ++ payments.map (·.payer)).dedup

/-! ## Setting amounts -/

/-- To set an amount adds nobody but, if new, the one whose amount it is. -/
lemma keys_setAmount (i : Id) (a : Decimal) (b : Balances) :
    (setAmount i a b).map (·.1) =
      if i ∈ b.map (·.1) then b.map (·.1) else b.map (·.1) ++ [i] := by
  induction b with
  | nil => rfl
  | cons p rest ih =>
    obtain ⟨k, x⟩ := p
    unfold setAmount
    by_cases same : k = i
    · simp [same]
    · rw [if_neg same, List.map_cons, ih]
      split <;> simp_all [eq_comm]

lemma mem_keys_setAmount {i j : Id} {a : Decimal} {b : Balances} :
    j ∈ (setAmount i a b).map (·.1) ↔ j = i ∨ j ∈ b.map (·.1) := by
  rw [keys_setAmount]
  split
  next known => exact ⟨.inr, fun h => h.elim (fun same => same ▸ known) id⟩
  next => rw [List.mem_append, List.mem_singleton, or_comm]

lemma nodup_keys_setAmount (i : Id) (a : Decimal) {b : Balances} (h : (b.map (·.1)).Nodup) :
    ((setAmount i a b).map (·.1)).Nodup := by
  rw [keys_setAmount]
  split
  · exact h
  next fresh => exact List.nodup_append'.mpr ⟨h, List.nodup_singleton i, by simpa using fresh⟩

lemma mem_setAmount {i : Id} {a : Decimal} {b : Balances} {p : Id × Decimal}
    (hp : p ∈ setAmount i a b) : p = (i, a) ∨ p ∈ b := by
  induction b with
  | nil => exact .inl (List.mem_singleton.mp hp)
  | cons q rest ih =>
    unfold setAmount at hp
    split at hp
    next same =>
      rcases List.mem_cons.mp hp with rfl | hp
      · exact .inl (by rw [same])
      · exact .inr (List.mem_cons_of_mem _ hp)
    next =>
      rcases List.mem_cons.mp hp with rfl | hp
      · exact .inr List.mem_cons_self
      · exact (ih hp).imp_right (List.mem_cons_of_mem _)

lemma Results.setAmount {b : Balances} (h : Results b) (i : Id) {a : Decimal} (ha : a.IsResult) :
    Results (setAmount i a b) := by
  intro p hp
  rcases mem_setAmount hp with rfl | hp
  · exact ha
  · exact h p hp

lemma Results.amountOf {b : Balances} (h : Results b) (i : Id) : (amountOf i b).IsResult := by
  unfold Balance.amountOf
  split
  next p found => exact h p (List.mem_of_find?_eq_some found)
  next => exact isResult_zero

/-! ## What has been paid -/

/-- Balances of some people, each of whom has one, which is a result. -/
structure Ledger (everybody : Id → Prop) (b : Balances) : Prop where
  distinct : (b.map (·.1)).Nodup
  mem_iff : ∀ i, i ∈ b.map (·.1) ↔ everybody i
  results : Results b

lemma Ledger.setAmount {everybody : Id → Prop} {b : Balances} (h : Ledger everybody b) (i : Id)
    {a : Decimal} (ha : a.IsResult) :
    Ledger (fun j => everybody j ∨ j = i) (Balance.setAmount i a b) where
  distinct := nodup_keys_setAmount i a h.distinct
  mem_iff j := by rw [mem_keys_setAmount, h.mem_iff, or_comm]
  results := h.results.setAmount i ha

lemma Ledger.congr {P Q : Id → Prop} {b : Balances} (h : Ledger P b) (same : ∀ i, P i ↔ Q i) :
    Ledger Q b where
  distinct := h.distinct
  mem_iff i := (h.mem_iff i).trans (same i)
  results := h.results

lemma ledger_nothingPaid (members : List Id) : Ledger (· ∈ members) (nothingPaid members) := by
  suffices ∀ (P : Id → Prop) (b : Balances), Ledger P b →
      Ledger (fun i => P i ∨ i ∈ members)
        (members.foldl (fun b i => setAmount i Decimal.zero b) b) from
    (this (fun _ => False) [] ⟨List.nodup_nil, by simp, fun _ hp => nomatch hp⟩).congr (by simp)
  induction members with
  | nil => exact fun P b hb => hb.congr (by simp)
  | cons i rest ih =>
    intro P b hb
    refine (ih _ _ (hb.setAmount i isResult_zero)).congr fun j => ?_
    rw [List.mem_cons, or_assoc]

/-- Everybody who is a member or has paid has paid something or nothing. -/
lemma ledger_paid {payments : List Payment} {members : List Id} {b : Balances}
    (entered : Entered payments) (h : paid payments members = .ok b) :
    Ledger (· ∈ people payments members) b := by
  suffices ∀ (P : Id → Prop) (x : Balances), Ledger P x → payments.foldlM count x = .ok b →
      Ledger (fun i => P i ∨ i ∈ payments.map (·.payer)) b from
    (this _ _ (ledger_nothingPaid members) h).congr fun i => by
      rw [people, List.mem_dedup, List.mem_append]
  clear h
  induction payments with
  | nil =>
    intro P x hx h
    obtain rfl := Except.ok.inj h
    exact hx.congr (by simp)
  | cons p rest ih =>
    intro P x hx h
    obtain ⟨text, accepted⟩ := entered p List.mem_cons_self
    obtain ⟨k, -, short, amount⟩ := Entry.exists_of_amount accepted
    have isResult : p.amount.IsResult := amount ▸ isResult_hundredths false short
    obtain ⟨y, counted, h⟩ := foldlM_cons_eq_ok_iff.mp h
    obtain ⟨z, added, rfl⟩ := (map_eq_ok_iff ..).mp counted
    have isResult_z := (near_add (hx.results.amountOf p.payer) isResult added).1
    refine (ih (fun q hq => entered q (List.mem_cons_of_mem _ hq)) _ _
      (hx.setAmount p.payer isResult_z) h).congr fun i => ?_
    rw [List.map_cons, List.mem_cons, or_assoc]

/-! ## Deltas -/

lemma exists_of_forall₂ {α β : Type} {R : α → β → Prop} {l : List α} {bs : List β}
    (h : List.Forall₂ R l bs) {b : β} (hb : b ∈ bs) : ∃ a ∈ l, R a b := by
  induction h with
  | nil => cases hb
  | cons first _ ih =>
    rcases List.mem_cons.mp hb with rfl | hb
    · exact ⟨_, List.mem_cons_self, first⟩
    · obtain ⟨a, ha, same⟩ := ih hb
      exact ⟨a, List.mem_cons_of_mem _ ha, same⟩

/-- A delta is what somebody has paid, less the average. -/
def IsDelta (average : Decimal) (p d : Id × Decimal) : Prop :=
  d.1 = p.1 ∧ Decimal.sub p.2 average = .ok d.2

/-- Deltas stand in the order of the balances. -/
lemma keys_of_isDelta {average : Decimal} {b ds : Balances}
    (each : List.Forall₂ (IsDelta average) b ds) : ds.map (·.1) = b.map (·.1) := by
  induction each with
  | nil => rfl
  | cons first _ ih => rw [List.map_cons, List.map_cons, ih, first.1]

/-- **Deltas are what everybody has paid, less the average.** -/
theorem deltas_cases {payments : List Payment} {members : List Id} {ds : Balances}
    (h : deltas payments members = .ok ds) :
    ∃ b, paid payments members = .ok b ∧ (b = [] ∧ ds = [] ∨
      ∃ total average, b ≠ [] ∧ Decimal.sum (b.map (·.2)) = .ok total ∧
        total.divNat b.length = .ok average ∧ List.Forall₂ (IsDelta average) b ds) := by
  unfold deltas at h
  cases counted : paid payments members with
  | error f =>
    rw [counted] at h
    cases h
  | ok b =>
    refine ⟨b, rfl, ?_⟩
    rw [counted] at h
    cases b with
    | nil => exact .inl ⟨rfl, (Except.ok.inj h).symm⟩
    | cons p rest =>
      dsimp only at h
      split at h
      · cases h
      next total added =>
        split at h
        · cases h
        next average divided =>
          refine .inr ⟨total, average, List.cons_ne_nil p rest, added, divided, ?_⟩
          refine (forall₂_of_mapM h).imp fun a d minus => ?_
          obtain ⟨x, taken, rfl⟩ := (map_eq_ok_iff ..).mp minus
          exact ⟨rfl, taken⟩

/-- **Everybody who takes part has one delta, and it is a result.** -/
theorem ledger_deltas {payments : List Payment} {members : List Id} {ds : Balances}
    (entered : Entered payments) (h : deltas payments members = .ok ds) :
    Ledger (· ∈ people payments members) ds := by
  obtain ⟨b, counted, cases⟩ := deltas_cases h
  have ledger := ledger_paid entered counted
  rcases cases with ⟨rfl, rfl⟩ | ⟨total, average, -, added, divided, each⟩
  · exact ledger
  · have isResult_total := isResult_sum (List.forall_mem_map.mpr ledger.results) added
    have isResult_average := isResult_divNat isResult_total divided
    have keys := keys_of_isDelta each
    refine ⟨keys ▸ ledger.distinct, fun i => by rw [keys, ledger.mem_iff], fun d hd => ?_⟩
    obtain ⟨p, hp, -, minus⟩ := exists_of_forall₂ each hd
    exact (near_sub (ledger.results p hp) isResult_average minus).1

section Order

variable {everybody : Id → Prop} {b : Balances} (h : Ledger everybody b)

include h

/-- In order, everybody's balance is the delta. -/
lemma Ledger.sides : Sides (deltaOf b) (b.mergeSort orderByAmount) :=
  sides_mergeSort h.results h.distinct

lemma Ledger.nodup_mergeSort : ((b.mergeSort orderByAmount).map (·.1)).Nodup :=
  ((List.mergeSort_perm b orderByAmount).map (·.1)).nodup_iff.mpr h.distinct

/-- Transfers are made in a course of pairing that begins with the balances in order. -/
lemma Ledger.exists_course {ts : List Transfer} (hts : transfersOf b = .ok ts) :
    ∃ left, Course (10 * b.length) (b.mergeSort orderByAmount) (turnsOf b) left ∧
      left.length ≤ 1 ∧ ts = made (turnsOf b) := by
  obtain ⟨left, done, short, same⟩ := turnsOf_spec hts
  exact ⟨left, course_of_turns h.sides.results done, short, same⟩

end Order

/-- There are as many deltas as people. -/
lemma Ledger.length_eq {payments : List Payment} {members : List Id} {b : Balances}
    (h : Ledger (· ∈ people payments members) b) : b.length = (people payments members).length := by
  have perm : (b.map (·.1)).Perm (people payments members) :=
    (List.perm_ext_iff_of_nodup h.distinct (List.nodup_dedup _)).mpr h.mem_iff
  rw [← perm.length_eq, List.length_map]

/-! ## Three travellers -/

/-- Two people have paid for a trip of three. -/
def sampleTrip : List Payment :=
  [⟨.ofNat 3, .finite false 3000 (-2)⟩, ⟨.ofNat 2, .finite false 1000 (-2)⟩]

/-- The three people. -/
def sampleTravellers : List Id := [.ofNat 1, .ofNat 2, .ofNat 3]

/-- What the three have paid less the average. -/
def sampleTripDeltas : Balances :=
  [(.ofNat 1, .finite true 1333333333333333333333333333 (-26)),
    (.ofNat 2, .finite true 333333333333333333333333333 (-26)),
    (.ofNat 3, .finite false 1666666666666666666666666667 (-26))]

/-- The two turns of pairing. -/
def sampleTripTurns : List Turn :=
  [⟨(.ofNat 1, .finite true 1333333333333333333333333333 (-26)),
      (.ofNat 3, .finite false 1666666666666666666666666667 (-26)),
      some ⟨.ofNat 1, .ofNat 3, .finite false 1333 (-2)⟩, .finite false 0 (-26),
      .finite false 333333333333333333333333334 (-26)⟩,
    ⟨(.ofNat 2, .finite true 333333333333333333333333333 (-26)),
      (.ofNat 3, .finite false 333333333333333333333333334 (-26)),
      some ⟨.ofNat 2, .ofNat 3, .finite false 333 (-2)⟩, .finite false 0 (-26),
      .finite false 1 (-26)⟩]

lemma entered_sampleTrip : Entered sampleTrip := by
  intro p hp
  simp only [sampleTrip, List.mem_cons, List.not_mem_nil, or_false] at hp
  rcases hp with rfl | rfl
  · exact ⟨"30.00", rfl⟩
  · exact ⟨"10.00", rfl⟩

lemma deltas_sampleTrip : deltas sampleTrip sampleTravellers = .ok sampleTripDeltas := by rfl

lemma mergeSort_sampleTripDeltas :
    sampleTripDeltas.mergeSort orderByAmount = sampleTripDeltas :=
  List.mergeSort_of_pairwise (by decide)

lemma turnsOf_sampleTripDeltas : turnsOf sampleTripDeltas = sampleTripTurns := by
  simp only [turnsOf, mergeSort_sampleTripDeltas]
  rfl

lemma transfers_sampleTrip :
    transfers sampleTrip sampleTravellers = .ok (made sampleTripTurns) := by
  simp only [transfers, deltas_sampleTrip, transfersOf, mergeSort_sampleTripDeltas]
  rfl

end CommonPurse.Balance
