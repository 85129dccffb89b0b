import CommonPurse.Proofs.Pipeline.Channel

/-!
# Batches that are handed to a bus

A bus takes a batch from the front for as long as it has room: a queue up to its capacity, a channel
until its connection fails. When it stops, what it took stays taken, and the error names the whole
batch. So the error names exactly what has not been handed over when the bus had no room at all; in
the middle of a batch it names more.

## Main definitions

* `CommonPurse.Bus.room` — how many more identifiers a bus takes.
* `CommonPurse.Bus.taking` — the bus when it has taken more identifiers.
* `CommonPurse.Bus.Exact` — the error names exactly what has not been handed over.

## Main results

* `CommonPurse.Bus.publish_eq` — publishing, written out.
* `CommonPurse.Bus.publish_takes` — what is handed over, what the error names, and when that is
  exact.
* `CommonPurse.Bus.not_exact_sampleQueue` — it is not when a queue runs full within a batch.
-/

namespace CommonPurse.Bus

/-! ## What a bus takes -/

/-- How many more identifiers a bus takes, if there is a bound. -/
def room : Bus → Option ℕ
  | queue waiting capacity => capacity.map (· - waiting.length)
  | channel _ _ remaining => remaining

/-- The bus when it has taken more identifiers: they wait behind the others in the queue, or have
been sent behind the others on the channel. -/
def taking (ids : List Id) : Bus → Bus
  | queue waiting capacity => queue (waiting ++ ids) capacity
  | channel name sent remaining =>
    channel name (sent ++ ids) (remaining.map (· - ids.length))

lemma refusalText_taking (ids : List Id) (b : Bus) :
    (b.taking ids).refusalText = b.refusalText := by
  cases b <;> rfl

/-- What is carried comes first. -/
lemma carried_append_drop (ids : List Id) (n : Option ℕ) :
    carried ids n ++ ids.drop (carried ids n).length = ids := by
  cases n with
  | none => simp [carried]
  | some n =>
    rcases le_total n ids.length with few | many
    · simp [carried, List.length_take_of_le few]
    · simp [carried, List.take_of_length_le many]

/-- Everything is carried exactly when there is room for it. -/
lemma length_carried_eq_iff (ids : List Id) (n : Option ℕ) :
    (carried ids n).length = ids.length ↔ ∀ k ∈ n, ids.length ≤ k := by
  cases n with
  | none => simp [carried]
  | some n => simp [carried]

/-- A queue takes the identifiers that it has room for, in order. -/
lemma acceptAll_queue (ids waiting : List Id) (capacity : Option ℕ) :
    (queue waiting capacity).acceptAll ids =
      ((carried ids (queue waiting capacity).room).length == ids.length,
        queue (waiting ++ carried ids (queue waiting capacity).room) capacity) := by
  induction ids generalizing waiting with
  | nil => rcases capacity with _ | n <;> simp [acceptAll, carried, room]
  | cons i rest ih =>
    rcases capacity with _ | n
    · simp [acceptAll, accept, ih, carried, room]
    by_cases free : waiting.length < n
    · have more : n - waiting.length = n - (waiting.length + 1) + 1 := by omega
      simp [acceptAll, accept, free, ih, carried, room, more]
    · have full : n - waiting.length = 0 := by omega
      simp [acceptAll, accept, free, carried, room, full]

/-- A bus takes the identifiers that it has room for, in order. -/
lemma acceptAll_eq (ids : List Id) (b : Bus) :
    b.acceptAll ids =
      ((carried ids b.room).length == ids.length, b.taking (carried ids b.room)) := by
  cases b with
  | queue waiting capacity => exact acceptAll_queue ids waiting capacity
  | channel name sent remaining =>
    have left : remaining.map (· - ids.length) =
        remaining.map (· - (carried ids remaining).length) := by
      cases remaining with
      | none => rfl
      | some n =>
        rw [Option.map_some, Option.map_some, carried, List.length_take]
        congr 1
        omega
    rw [acceptAll_channel, left]
    rfl

/-- **Publishing, written out**: the bus takes what it has room for, and if that is not the whole
batch, the whole batch is named in the error. -/
theorem publish_eq (ids : List Id) (b : Bus) :
    b.publish ids =
      (if (carried ids b.room).length = ids.length then .ok () else .error ⟨b.refusalText, ids⟩,
        b.taking (carried ids b.room)) := by
  rw [publish, acceptAll_eq]
  by_cases all : (carried ids b.room).length = ids.length
  · rw [beq_iff_eq.mpr all, if_pos all]
  · rw [beq_eq_false_iff_ne.mpr all, if_neg all]
    simp only [refusalText_taking]

/-! ## What the error names -/

/-- Publishing hands everything over, once and in order, and returns, or the error names exactly
what has not been handed over. -/
def Exact (ids : List Id) (b : Bus) : Prop :=
  match b.publish ids with
  | (.ok (), b') => b' = b.taking ids
  | (.error e, b') => ∃ taken, ids = taken ++ e.events ∧ b' = b.taking taken

/-- A bus that has taken more identifiers is another one when these are others. -/
lemma taking_injective (b : Bus) {ids more : List Id} (h : b.taking ids = b.taking more) :
    ids = more := by
  cases b with
  | queue waiting capacity => exact List.append_cancel_left (Bus.queue.inj h).1
  | channel name sent remaining => exact List.append_cancel_left (Bus.channel.inj h).2.1

/-- **A bus takes a batch from the front, and the error names the whole batch.** On every queue,
whatever its capacity and whatever waits in it, and on every channel, wherever its connection fails:
either the whole batch is handed over, once and in order, and publishing returns; or as much of the
front of the batch is as there was room for, and the error names the batch. So the error names
exactly what has not been handed over if and only if there was no room to begin with, or room for
all.

**Proof sketch.** Both are read off `publish_eq`. A bus shows what it has taken, so nothing has been
taken when an error that names the whole batch is exact. -/
theorem publish_takes (ids : List Id) (b : Bus) :
    (∃ taken left, ids = taken ++ left ∧ (b.publish ids).2 = b.taking taken ∧
      (left = [] ∧ (b.publish ids).1 = .ok () ∨
        left ≠ [] ∧ b.room = some taken.length ∧
          (b.publish ids).1 = .error ⟨b.refusalText, ids⟩)) ∧
      (Exact ids b ↔ ∀ n ∈ b.room, n = 0 ∨ ids.length ≤ n) := by
  have split := carried_append_drop ids b.room
  by_cases all : (carried ids b.room).length = ids.length
  · -- There is room for all.
    have whole : carried ids b.room = ids := by
      rwa [all, List.drop_length, List.append_nil] at split
    have published : b.publish ids = (.ok (), b.taking ids) := by
      rw [publish_eq, if_pos all, whole]
    refine ⟨⟨ids, [], (List.append_nil ids).symm, ?_, .inl ⟨rfl, ?_⟩⟩, ?_⟩
    · rw [published]
    · rw [published]
    · have told : Exact ids b := by
        rw [Exact, published]
      exact iff_of_true told fun n hn => .inr ((length_carried_eq_iff ids b.room).mp all n hn)
  · -- There is room for a part of the batch only.
    have published : b.publish ids =
        (.error ⟨b.refusalText, ids⟩, b.taking (carried ids b.room)) := by
      rw [publish_eq, if_neg all]
    obtain ⟨n, bounded, less⟩ : ∃ n, b.room = some n ∧ n < ids.length := by
      have short := mt (length_carried_eq_iff ids b.room).mpr all
      push Not at short
      exact short
    have taken : (carried ids b.room).length = n := by
      rw [bounded, carried, List.length_take_of_le less.le]
    refine ⟨⟨carried ids b.room, ids.drop n, taken ▸ split.symm, ?_, .inr ⟨?_, ?_, ?_⟩⟩, ?_⟩
    · rw [published]
    · exact List.ne_nil_of_length_pos (by rw [List.length_drop]; omega)
    · rw [taken, bounded]
    · rw [published]
    · rw [Exact, published, bounded]
      constructor
      · rintro ⟨front, same, handed⟩ m hm
        obtain rfl := Option.some.inj hm
        obtain rfl : front = [] := by simpa using same
        rw [bounded, taking_injective b handed] at taken
        exact .inl taken.symm
      · intro fits
        have nothing : n = 0 := (fits n rfl).resolve_right (by omega)
        refine ⟨[], rfl, ?_⟩
        rw [nothing, carried, List.take_zero]

/-- A queue for one identifier takes the first of two and names both. -/
theorem not_exact_sampleQueue : ¬Exact [.ofNat 1, .ofNat 2] (.queue [] (some 1)) := by
  have published : (Bus.queue [] (some 1)).publish [.ofNat 1, .ofNat 2] =
      (.error ⟨"Event queue is full", [.ofNat 1, .ofNat 2]⟩, .queue [.ofNat 1] (some 1)) := rfl
  rw [Exact, published]
  rintro ⟨taken, same, handed⟩
  obtain rfl : taken = [] := by simpa using same
  cases handed

end CommonPurse.Bus
