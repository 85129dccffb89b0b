import CommonPurse.Retry
import Mathlib.Data.List.Basic

/-!
# How often something is tried

A run calls again after every failure that is retried, as long as it may, and pauses in between. It
ends with a value or an error that is not retried, without any more attempts, or with a delay that
cannot be counted.

## Main definitions

* `CommonPurse.Retry.isFinal` — an outcome that ends a run.
* `CommonPurse.Retry.Ends` — how a run ends with an attempt.
* `CommonPurse.Retry.Run.Course` — how a run goes from an attempt on.
* `CommonPurse.Retry.Run.Goes` — how a run goes that no delay cuts short.

## Main results

* `CommonPurse.Retry.Policy.exists_delay` — delays that double can be computed.
* `CommonPurse.Retry.course_attempts` — how runs go.
* `CommonPurse.Retry.goes_attempts` — runs whose delays can be computed go as they should.
-/

namespace CommonPurse.Retry

/-! ## Delays -/

/-- Whether a quantity has been computed and is a real number. -/
def isReal : Except Fault Quantity → Bool
  | .ok (.real _) => true
  | _ => false

lemma exists_of_isReal {q : Except Fault Quantity} (h : isReal q = true) :
    ∃ x, q = .ok (.real x) := by
  unfold isReal at h
  split at h
  · exact ⟨_, rfl⟩
  · cases h

/-- Two to the power of a small number is a real number. -/
lemma isReal_pow : ∀ k < 50, isReal (Policy.usual.base.pow (k : ℕ)) = true := by decide +kernel

/-- **Delays that double can be computed**, when there are not too many and they begin with a real
number. -/
lemma Policy.exists_delay {p : Policy} {x y : Binary64} (initial : p.initialDelay = .real x)
    (most : p.maxDelay = .real y) (base : p.base = Policy.usual.base) (even : p.jitter = none)
    {k : ℕ} (hk : k < 50) : ∃ z, p.delay k = .ok (.real z) := by
  obtain ⟨f, power⟩ := exists_of_isReal (isReal_pow k hk)
  unfold Policy.delay
  rw [base, power, initial, most, even]
  dsimp only [Quantity.mul, Quantity.toReal]
  unfold Quantity.min
  split
  · exact ⟨_, rfl⟩
  · exact ⟨_, rfl⟩

/-! ## Runs -/

section Run

variable {ε α : Type} (p : Policy) (retryable : ε → Bool) (outcome : ℕ → Except ε α)

/-- Whether an outcome ends a run: a value, or an error that is not retried. -/
def isFinal : Except ε α → Bool
  | .ok _ => true
  | .error e => !retryable e

/-- How a run ends with a final outcome: with that very value or error. -/
def Ending.ofFinal : Except ε α → Ending ε α
  | .ok a => .returned a
  | .error e => .refused e

/-- How a run ends with an attempt, when so many more are allowed behind it and so much has been
slept: with a final outcome, without any more attempts, or without a delay to count. -/
inductive Ends (left k : ℕ) (slept : Binary64) : Ending ε α → Prop where
  | final (h : isFinal retryable (outcome k) = true) : Ends left k slept (.ofFinal (outcome k))
  | exhausted {e : ε} (failed : outcome k = .error e) (again : retryable e = true)
      (last : left = 0) : Ends left k slept (.exhausted e (k + 1) slept)
  | undelayed {f : Fault} (again : isFinal retryable (outcome k) = false) (more : 0 < left)
      (h : ∀ d x, p.delay k = .ok d → d.toReal ≠ .ok x) : Ends left k slept (.undelayed f)

/-- How a run goes from an attempt on, when so many more are allowed behind it and so much has been
slept before. -/
structure Run.Course (left first : ℕ) (slept : Binary64) (r : Run ε α) : Prop where
  first_lt : first < r.calls
  calls_le : r.calls ≤ first + left + 1
  again : ∀ k, first ≤ k → k + 1 < r.calls → isFinal retryable (outcome k) = false
  notices : r.notices.map (fun n => (Except.error n.1, n.2)) =
    (List.range' first (r.calls - 1 - first)).map fun k => (outcome k, k + 1)
  delays : r.delays.map .ok = (List.range' first (r.calls - 1 - first)).map fun k : ℕ => p.delay k
  total : ∃ total, r.delays.foldlM addDelay slept = .ok total ∧
    Ends p retryable outcome (first + left + 1 - r.calls) (r.calls - 1) total r.ending

variable {p retryable outcome}

/-- A run that has called once. -/
lemma Ends.course {left first : ℕ} {slept : Binary64} {ending : Ending ε α}
    (ended : Ends p retryable outcome left first slept ending) :
    (⟨ending, first + 1, [], []⟩ : Run ε α).Course p retryable outcome left first slept where
  first_lt := Nat.lt_succ_self first
  calls_le := by
    dsimp only
    omega
  again k hk less := by
    dsimp only at less
    omega
  notices := by simp
  delays := by simp
  total := by
    refine ⟨slept, rfl, ?_⟩
    dsimp only
    rwa [Nat.add_sub_cancel, show first + left + 1 - (first + 1) = left by omega]

/-- A run that has called once more, after a pause. -/
lemma Run.Course.pause {left first : ℕ} {slept total : Binary64} {r : Run ε α}
    (h : r.Course p retryable outcome left (first + 1) total) {e : ε}
    (failed : outcome first = .error e) (retried : retryable e = true) {d : Quantity}
    (delay : p.delay first = .ok d) (added : addDelay slept d = .ok total) :
    ({ r with notices := (e, first + 1) :: r.notices, delays := d :: r.delays } :
      Run ε α).Course p retryable outcome (left + 1) first slept where
  first_lt := Nat.lt_of_succ_lt h.first_lt
  calls_le := by
    have := h.calls_le
    dsimp only
    omega
  again k hk less := by
    rcases Nat.eq_or_lt_of_le hk with rfl | later
    · simp [failed, isFinal, retried]
    · exact h.again k later less
  notices := by
    have count : r.calls - 1 - first = r.calls - 1 - (first + 1) + 1 := by
      have := h.first_lt
      omega
    dsimp only
    rw [count, List.range'_succ, List.map_cons, List.map_cons, h.notices, failed]
  delays := by
    have count : r.calls - 1 - first = r.calls - 1 - (first + 1) + 1 := by
      have := h.first_lt
      omega
    dsimp only
    rw [count, List.range'_succ, List.map_cons, List.map_cons, h.delays, delay]
  total := by
    obtain ⟨sum, summed, ended⟩ := h.total
    refine ⟨sum, ?_, ?_⟩
    · rw [List.foldlM_cons, added]
      exact summed
    · rwa [show first + 1 + left + 1 = first + (left + 1) + 1 by omega] at ended

lemma error_of_not_final {x : Except ε α} (h : isFinal retryable x = false) :
    ∃ e, x = .error e ∧ retryable e = true := by
  match x with
  | .ok _ => cases h
  | .error e => exact ⟨e, rfl, by simpa [isFinal] using h⟩

/-- A final outcome ends a run at once. -/
lemma attempts_of_final {left attempt : ℕ} {slept : Binary64}
    (h : isFinal retryable (outcome attempt) = true) :
    attempts p retryable outcome left attempt slept =
      ⟨.ofFinal (outcome attempt), attempt + 1, [], []⟩ := by
  unfold attempts
  cases tried : outcome attempt with
  | ok a => rfl
  | error e =>
    rw [tried] at h
    exact if_pos h

/-- **How a run goes**, one pause and one more attempt at a time. -/
theorem course_attempts (left attempt : ℕ) (slept : Binary64) :
    (attempts p retryable outcome left attempt slept).Course p retryable outcome left attempt
      slept := by
  induction left generalizing attempt slept with
  | zero =>
    cases final : isFinal retryable (outcome attempt) with
    | true =>
      rw [attempts_of_final final]
      exact (Ends.final final).course
    | false =>
      obtain ⟨e, failed, again⟩ := error_of_not_final final
      unfold attempts
      simp only [failed, again, Bool.not_true, Bool.false_eq_true, if_false]
      exact (Ends.exhausted failed again rfl).course
  | succ left ih =>
    cases final : isFinal retryable (outcome attempt) with
    | true =>
      rw [attempts_of_final final]
      exact (Ends.final final).course
    | false =>
      obtain ⟨e, failed, again⟩ := error_of_not_final final
      unfold attempts
      simp only [failed, again, Bool.not_true, Bool.false_eq_true, if_false]
      cases delay : p.delay attempt with
      | error f =>
        have none : ∀ d x, p.delay attempt = .ok d → d.toReal ≠ .ok x := by
          intro d x h
          rw [delay] at h
          cases h
        exact (Ends.undelayed final left.succ_pos none).course
      | ok d =>
        dsimp only
        cases added : addDelay slept d with
        | error f =>
          have none : ∀ d x, p.delay attempt = .ok d → d.toReal ≠ .ok x := by
            intro d' x h real
            obtain rfl : d = d' := Except.ok.inj (delay.symm.trans h)
            rw [addDelay, real] at added
            cases added
          exact (Ends.undelayed final left.succ_pos none).course
        | ok total => exact (ih (attempt + 1) total).pause failed again delay added

/-! ## Runs that no delay cuts short -/

variable (p retryable outcome) in
/-- How a run goes between two attempts, counted from zero: it calls until a call returns, fails in
a way that is not retried, or is the last one, and it pauses after every call but the last. -/
structure Run.Goes (first last : ℕ) (r : Run ε α) : Prop where
  first_lt : first < r.calls
  calls_le : r.calls ≤ last + 1
  failed : ∀ k, first ≤ k → k + 1 < r.calls → ∃ e, outcome k = .error e ∧ retryable e = true
  delays : r.delays.map .ok = (List.range' first (r.calls - 1 - first)).map fun k : ℕ => p.delay k
  ending : match outcome (r.calls - 1) with
    | .ok a => r.ending = .returned a
    | .error e =>
      if retryable e then r.calls = last + 1 ∧ ∃ total, r.ending = .exhausted e (last + 1) total
      else r.ending = .refused e

/-- **What a run does**, when its delays can be computed. -/
theorem goes_attempts {left attempt : ℕ}
    (delays : ∀ k < attempt + left, ∃ x, p.delay k = .ok (.real x)) (total : Binary64) :
    (attempts p retryable outcome left attempt total).Goes p retryable outcome attempt
      (attempt + left) := by
  have course : (attempts p retryable outcome left attempt total).Course p retryable outcome left
      attempt total := course_attempts ..
  generalize attempts p retryable outcome left attempt total = r at course ⊢
  refine ⟨course.first_lt, course.calls_le,
    fun k hk less => error_of_not_final (course.again k hk less), course.delays, ?_⟩
  have least := course.first_lt
  have most := course.calls_le
  obtain ⟨sum, -, ends⟩ := course.total
  generalize ended : r.ending = x at ends ⊢
  cases ends with
  | final final =>
    cases tried : outcome (r.calls - 1) with
    | ok a => rfl
    | error e =>
      have once : retryable e = false := by simpa [isFinal, tried] using final
      simp [once, Ending.ofFinal]
  | exhausted failed again last =>
    have all : r.calls - 1 = attempt + left := by omega
    simp only [failed, again, if_true]
    exact ⟨by omega, sum, by rw [all]⟩
  | undelayed again more none =>
    obtain ⟨x, delay⟩ := delays (r.calls - 1) (by omega)
    exact absurd rfl (none (.real x) x delay)

end Run

end CommonPurse.Retry
