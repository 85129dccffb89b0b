import CommonPurse.Proofs.Fallible
import CommonPurse.Proofs.Retry
import CommonPurse.Proofs.Retry.Delays

/-!
# What a run of attempts owes

A run calls until the first outcome that ends it, pauses in between for delays that ascend, and
otherwise uses up its attempts. It does so exactly when the delays that it comes to can be computed
and are numbers: a delay of which only the power is too large ends a run early.

## Main definitions

* `CommonPurse.Retry.Run.Honours` — what a run owes its caller.
* `CommonPurse.Retry.Policy.HasDelay` — a delay that can be slept and counted.

## Main results

* `CommonPurse.Retry.Run.Course.honours` — runs whose delays can be counted give what they owe.
* `CommonPurse.Retry.honours_iff` — when a run gives what it owes.
-/

namespace CommonPurse.Retry

variable {ε α : Type} (p : Policy) (retryable : ε → Bool) (outcome : ℕ → Except ε α)

/-! ## What is owed -/

/-- **What a run owes.** Calls, notices and delays are counted from zero here; a notice gives the
number of its attempt, counted from one. -/
structure Run.Honours (r : Run ε α) : Prop where
  /-- The first final outcome is the result, if an allowed attempt has one. -/
  stops : ∀ k < p.maxAttempts.toNat, isFinal retryable (outcome k) = true →
    (∀ i < k, isFinal retryable (outcome i) = false) →
    r.calls = k + 1 ∧ r.ending = .ofFinal (outcome k)
  /-- Otherwise all attempts are used, and the last error comes with the sum of the delays. -/
  exhausts : (∀ k < p.maxAttempts.toNat, isFinal retryable (outcome k) = false) →
    r.calls = p.maxAttempts.toNat ∧ ∃ e total, outcome (p.maxAttempts.toNat - 1) = .error e ∧
      r.delays.foldlM addDelay (Binary64.zero false) = .ok total ∧
      r.ending = .exhausted e p.maxAttempts.toNat total
  /-- There is a notice of each failure that a pause follows. -/
  notices : r.notices.map (fun n => (Except.error n.1, n.2)) =
    (List.range (r.calls - 1)).map fun k => (outcome k, k + 1)
  /-- The pauses are the delays of the policy. -/
  delays : r.delays.map .ok = (List.range (r.calls - 1)).map fun k : ℕ => p.delay k
  ascending : r.delays.Pairwise Quantity.AtMost
  bounded : ∀ d ∈ r.delays, d.AtMost p.maxDelay

/-- The delay after an attempt can be computed, is a number, and can be added to others. -/
def Policy.HasDelay (k : ℕ) : Prop :=
  ∃ d x, p.delay k = .ok d ∧ d.isNaN = false ∧ d.toReal = .ok x

instance (k : ℕ) : Decidable (p.HasDelay k) :=
  match delay : p.delay k with
  | .error _ => isFalse fun ⟨_, _, h, _⟩ => nomatch delay.symm.trans h
  | .ok d =>
    match real : d.toReal with
    | .error _ => isFalse fun ⟨_, _, h, _, h'⟩ => by
      obtain rfl := Except.ok.inj (delay.symm.trans h)
      cases real.symm.trans h'
    | .ok x =>
      if number : d.isNaN = false then isTrue ⟨d, x, delay, number, real⟩
      else isFalse fun ⟨_, _, h, h', _⟩ => by
        obtain rfl := Except.ok.inj (delay.symm.trans h)
        exact number h'

variable {p retryable outcome}

/-! ## Where runs end -/

/-- Delays that have been added up could be counted. -/
lemma exists_toReal_of_foldlM {ds : List Quantity} {slept total : Binary64}
    (h : ds.foldlM addDelay slept = .ok total) : ∀ d ∈ ds, ∃ x, d.toReal = .ok x := by
  induction ds generalizing slept with
  | nil => exact fun _ mem => absurd mem List.not_mem_nil
  | cons d ds ih =>
    obtain ⟨sum, added, rest⟩ := foldlM_cons_eq_ok_iff.mp h
    obtain ⟨x, real, -⟩ := (map_eq_ok_iff ..).mp added
    exact List.forall_mem_cons.mpr ⟨⟨x, real⟩, ih rest⟩

section Course

variable {left : ℕ} {slept : Binary64} {r : Run ε α}
  (h : r.Course p retryable outcome left 0 slept)

include h

lemma Run.Course.notices_eq : r.notices.map (fun n => (Except.error n.1, n.2)) =
    (List.range (r.calls - 1)).map fun k => (outcome k, k + 1) := by
  rw [List.range_eq_range']
  exact h.notices

lemma Run.Course.delays_eq :
    r.delays.map .ok = (List.range (r.calls - 1)).map fun k : ℕ => p.delay k := by
  rw [List.range_eq_range']
  exact h.delays

/-- The pauses of a run are delays that could be counted. -/
lemma Run.Course.exists_delay {k : ℕ} (hk : k + 1 < r.calls) :
    ∃ d ∈ r.delays, p.delay k = .ok d ∧ ∃ x, d.toReal = .ok x := by
  have mem : p.delay k ∈ r.delays.map .ok := by
    rw [h.delays_eq]
    exact List.mem_map.mpr ⟨k, List.mem_range.mpr (by omega), rfl⟩
  obtain ⟨d, mem, delay⟩ := List.mem_map.mp mem
  obtain ⟨total, summed, -⟩ := h.total
  exact ⟨d, mem, delay.symm, exists_toReal_of_foldlM summed d mem⟩

/-- Nothing but a final outcome or the last attempt ends a run before a delay, if a delay does not
cut it short. -/
lemma Run.Course.reached {k : ℕ} (hk : k < left)
    (before : ∀ i ≤ k, isFinal retryable (outcome i) = false)
    (delayed : ∀ f, r.ending ≠ .undelayed f) : k + 1 < r.calls := by
  by_contra early
  have least := h.first_lt
  obtain ⟨total, -, ends⟩ := h.total
  generalize ending : r.ending = x at ends
  cases ends with
  | final final => simp [before (r.calls - 1) (by omega)] at final
  | exhausted _ _ last => omega
  | undelayed => exact delayed _ ending

/-- A run whose delays can all be counted ends with a final outcome or without any more
attempts. -/
lemma Run.Course.ended (computed : ∀ k < left,
      (∀ i ≤ k, isFinal retryable (outcome i) = false) → p.HasDelay k) :
    (isFinal retryable (outcome (r.calls - 1)) = true ∧
        r.ending = .ofFinal (outcome (r.calls - 1))) ∨
      ∃ e total, r.calls = left + 1 ∧ outcome left = .error e ∧ retryable e = true ∧
        r.delays.foldlM addDelay slept = .ok total ∧ r.ending = .exhausted e (left + 1) total := by
  obtain ⟨total, summed, ends⟩ := h.total
  have most := h.calls_le
  have least := h.first_lt
  generalize ending : r.ending = x at ends
  cases ends with
  | final final => exact .inl ⟨final, rfl⟩
  | exhausted failed again last =>
    obtain rfl : left = r.calls - 1 := by omega
    exact .inr ⟨_, total, by omega, failed, again, summed, rfl⟩
  | undelayed again more none =>
    have before : ∀ i ≤ r.calls - 1, isFinal retryable (outcome i) = false := by
      intro i hi
      rcases hi.lt_or_eq with less | rfl
      · exact h.again i (Nat.zero_le i) (by omega)
      · exact again
    obtain ⟨d, x, delay, -, real⟩ := computed (r.calls - 1) (by omega) before
    exact absurd real (none d x delay)

/-- The pauses of a run are numbers when all delays that it comes to are. -/
lemma Run.Course.delay_spec (computed : ∀ k < left,
      (∀ i ≤ k, isFinal retryable (outcome i) = false) → p.HasDelay k) :
    ∀ d ∈ r.delays, d.isNaN = false ∧ ∃ k : ℕ, p.delay k = .ok d := by
  intro d mem
  have most := h.calls_le
  have mem : Except.ok d ∈ r.delays.map (.ok (ε := Fault)) := List.mem_map_of_mem mem
  rw [h.delays_eq] at mem
  obtain ⟨k, hk, delay⟩ := List.mem_map.mp mem
  have hk := List.mem_range.mp hk
  have before : ∀ i ≤ k, isFinal retryable (outcome i) = false := fun i hi =>
    h.again i (Nat.zero_le i) (by omega)
  obtain ⟨d', x, delay', number, -⟩ := computed k (by omega) before
  obtain rfl : d' = d := Except.ok.inj (delay'.symm.trans delay)
  exact ⟨number, k, delay⟩

end Course

/-! ## When a run gives what it owes -/

/-- What is owed is never cut short by a delay. -/
lemma Run.Honours.delayed {r : Run ε α} (h : r.Honours p retryable outcome) (f : Fault) :
    r.ending ≠ .undelayed f := by
  intro undelayed
  by_cases all : ∀ k < p.maxAttempts.toNat, isFinal retryable (outcome k) = false
  · obtain ⟨-, e, total, -, -, ending⟩ := h.exhausts all
    rw [ending] at undelayed
    cases undelayed
  · have some : ∃ k, k < p.maxAttempts.toNat ∧ isFinal retryable (outcome k) = true := by
      simpa using all
    obtain ⟨allowed, final⟩ := Nat.find_spec some
    have first : ∀ i < Nat.find some, isFinal retryable (outcome i) = false := by
      intro i hi
      have := Nat.find_min some hi
      rw [not_and, Bool.not_eq_true] at this
      exact this (hi.trans allowed)
    obtain ⟨-, ending⟩ := h.stops _ allowed final first
    rw [ending] at undelayed
    cases tried : outcome (Nat.find some) <;> rw [tried] at undelayed <;> cases undelayed

/-- A run whose delays can all be counted gives what it owes. -/
lemma Run.Course.honours (h : p.Proper) {last : ℕ} (max : p.maxAttempts.toNat = last + 1)
    {r : Run ε α} (course : r.Course p retryable outcome last 0 (Binary64.zero false))
    (computed : ∀ k < last, (∀ i ≤ k, isFinal retryable (outcome i) = false) → p.HasDelay k) :
    r.Honours p retryable outcome where
  stops k hk final before := by
    have least := course.first_lt
    have ended := course.ended computed
    have notBefore : ¬r.calls - 1 < k := by
      intro early
      rcases ended with ⟨final', -⟩ | ⟨e, total, used, -⟩
      · simp [before _ early] at final'
      · omega
    have notAfter : ¬k < r.calls - 1 := by
      intro late
      simp [course.again k (Nat.zero_le k) (by omega)] at final
    obtain rfl : k = r.calls - 1 := by omega
    rcases ended with ⟨-, ending⟩ | ⟨e, total, used, failed, again, -⟩
    · exact ⟨by omega, ending⟩
    · rw [show r.calls - 1 = last by omega, failed] at final
      simp [isFinal, again] at final
  exhausts all := by
    have least := course.first_lt
    have most := course.calls_le
    rw [max] at all ⊢
    rcases course.ended computed with ⟨final, -⟩ | ⟨e, total, used, failed, -, summed, ending⟩
    · simp [all (r.calls - 1) (by omega)] at final
    · exact ⟨used, e, total, failed, summed, ending⟩
  notices := course.notices_eq
  delays := course.delays_eq
  ascending := by
    have count : r.delays.length = r.calls - 1 := by
      simpa using congrArg List.length course.delays_eq
    refine h.pairwise_delays ?_ fun d mem => (course.delay_spec computed d mem).1
    rw [count]
    exact course.delays_eq
  bounded d mem := by
    obtain ⟨number, k, delay⟩ := course.delay_spec computed d mem
    exact h.delay_atMost delay number

/-- **A run gives what it owes** exactly when each delay that it comes to can be computed, is a
number, and can be counted. -/
theorem honours_iff (h : p.Proper) :
    (∃ r, run? p retryable outcome = some r ∧ r.Honours p retryable outcome) ↔
      ∀ k : ℕ, k + 1 < p.maxAttempts.toNat →
        (∀ i ≤ k, isFinal retryable (outcome i) = false) → p.HasDelay k := by
  obtain ⟨last, max⟩ : ∃ last, p.maxAttempts.toNat = last + 1 :=
    Nat.exists_eq_succ_of_ne_zero (by have := h.attempts; omega)
  have ran : run? p retryable outcome =
      some (attempts p retryable outcome last 0 (Binary64.zero false)) := by
    rw [run?, if_pos (by simpa [Policy.isUsable] using h.attempts), max, Nat.add_sub_cancel]
  have course : (attempts p retryable outcome last 0 (Binary64.zero false)).Course p retryable
      outcome last 0 (Binary64.zero false) := course_attempts ..
  rw [max]
  constructor
  · rintro ⟨r, ran', owed⟩ k hk before
    obtain rfl := Option.some.inj (ran.symm.trans ran')
    have reached := course.reached (Nat.lt_of_succ_lt_succ hk) before owed.delayed
    obtain ⟨d, mem, delay, x, real⟩ := course.exists_delay reached
    exact ⟨d, x, delay, (owed.bounded d mem).1, real⟩
  · intro computed
    exact ⟨_, ran, course.honours h max fun k hk => computed k (Nat.succ_lt_succ hk)⟩

/-- The usual policy gives what it owes when all attempts fail. -/
theorem honours_usual :
    ∃ r, run? (ε := String) (α := Unit) Policy.usual (fun _ => true) (fun _ => .error "boom") =
        some r ∧
      r.Honours Policy.usual (fun _ => true) (fun _ => .error "boom") := by
  have proper : Policy.usual.Proper := by decide +kernel
  refine (honours_iff proper).mpr fun k hk _ => ?_
  have few : k = 0 ∨ k = 1 := by
    have : Policy.usual.maxAttempts.toNat = 3 := rfl
    omega
  rcases few with rfl | rfl
  · decide +kernel
  · decide +kernel

/-- Four attempts, with a base that is large, but a real number. -/
def steep : Policy :=
  ⟨4, .real (.ofDecimal false 5 (-2)), .real (.ofDecimal false 3 (-1)),
    .real (.ofDecimal false 1 200), none⟩

/-- Whether a run has ended because a delay could not be computed. -/
def Ending.isUndelayed : Ending ε α → Bool
  | .undelayed _ => true
  | _ => false

/-- **A steep policy does not give what it owes.** The square of its base is too large for a real
number, so the run ends with the third call, although the greatest delay is small. -/
theorem steep_not_honoured : steep.Proper ∧
    ¬∃ r, run? (ε := String) (α := Unit) steep (fun _ => true) (fun _ => .error "boom") = some r ∧
      r.Honours steep (fun _ => true) (fun _ => .error "boom") := by
  refine ⟨by decide +kernel, ?_⟩
  rintro ⟨r, ran, owed⟩
  have cut : (run? (ε := String) (α := Unit) steep (fun _ => true)
      (fun _ => .error "boom")).any (fun r => r.ending.isUndelayed) = true := by decide +kernel
  rw [ran, Option.any_some] at cut
  cases ended : r.ending with
  | undelayed f => exact owed.delayed f ended
  | _ =>
    rw [ended] at cut
    cases cut

end CommonPurse.Retry
