import CommonPurse.Proofs.Concurrency.Shared

/-!
# Transactions are serialised in the order of their commits

However the operations of transactions interleave, what is stored is what the blocks of the
committed transactions make of it, each block in one go at the moment of its commit, together with
the changes that need no transaction. What belongs to a block is read off the record of what has
been done and answered; the record knows nothing of how a transaction keeps its changes.

## Main definitions

* `CommonPurse.Store.Memory.Shared.record` — what has been done and answered in a run.
* `CommonPurse.Store.Memory.Shared.block` — what has been staged in a transaction.
* `CommonPurse.Store.Memory.Shared.serial` — what a record makes of contents.
* `CommonPurse.Store.Memory.Shared.Serialised` — atomic, isolated, and in the order of commits.

## Main results

* `CommonPurse.Store.Memory.Shared.Traced.act` — open transactions hold their blocks.
* `CommonPurse.Store.Memory.Shared.serialised_run` — every run is serialised.
-/

namespace CommonPurse.Store.Memory.Shared

/-! ## Records -/

/-- An operation with its answer. -/
structure Entry where
  step : Step
  answer : Except Error Unit

/-- What is done and answered in a run. -/
def record (s : Shared) : List Step → List Entry
  | [] => []
  | x :: xs => ⟨x, (s.act x).1⟩ :: (s.act x).2.record xs

/-- The changes that an entry stages in a transaction: those of an operation that is about the
transaction and has not been refused. -/
def Entry.staged (k : Nat) (e : Entry) : List Change :=
  match e.answer, e.step.staging? with
  | .ok (), some (j, changes) => if j = k then changes else []
  | _, _ => []

/-- What has been staged in a transaction, in its order. -/
def block (k : Nat) (past : List Entry) : List Change := past.flatMap (Entry.staged k)

/-- What an entry makes of contents at once: a commit applies the block of its transaction, and a
change that needs no transaction is carried out. What is refused changes nothing, and all else
changes nothing either. -/
def Entry.perform (past : List Entry) (e : Entry) (c : Contents) : Contents :=
  match e.answer with
  | .error _ => c
  | .ok () =>
    match e.step with
    | .commit k => c.applyAll (block k past)
    | x => (x.direct?.getD id) c

/-- What a record makes of contents; `past` is what has been done before. -/
def serial (past : List Entry) (c : Contents) : List Entry → Contents
  | [] => c
  | e :: rest => serial (past ++ [e]) (e.perform past c) rest

lemma block_append_singleton (k : Nat) (past : List Entry) (e : Entry) :
    block k (past ++ [e]) = block k past ++ e.staged k := by
  simp [block]

lemma staged_error (k : Nat) (x : Step) (e : Error) : Entry.staged k ⟨x, .error e⟩ = [] := rfl

lemma staged_ok (k : Nat) (x : Step) :
    Entry.staged k ⟨x, .ok ()⟩ =
      match x.staging? with
      | some (j, changes) => if j = k then changes else []
      | none => [] := by
  unfold Entry.staged
  cases x.staging? <;> rfl

lemma perform_error (past : List Entry) (x : Step) (e : Error) (c : Contents) :
    Entry.perform past ⟨x, .error e⟩ c = c := rfl

/-- An operation that is neither a commit nor direct makes nothing of contents. -/
lemma perform_ok_of_quiet (past : List Entry) {x : Step} (hc : ∀ k, x ≠ .commit k)
    (hd : x.direct? = none) (c : Contents) : Entry.perform past ⟨x, .ok ()⟩ c = c := by
  unfold Entry.perform
  cases x with
  | commit k => exact absurd rfl (hc k)
  | _ => simp only [hd]; rfl

lemma perform_ok_of_direct (past : List Entry) {x : Step} {f : Contents → Contents}
    (hd : x.direct? = some f) (c : Contents) : Entry.perform past ⟨x, .ok ()⟩ c = f c := by
  unfold Entry.perform
  cases x with
  | commit k => cases hd
  | _ => simp only [hd]; rfl

lemma Step.direct?_of_staging {x : Step} {p : Nat × List Change} (h : x.staging? = some p) :
    x.direct? = none ∧ ∀ k, x ≠ .commit k := by
  cases x with
  | write k w => exact ⟨rfl, fun _ => Step.noConfusion⟩
  | log k events => exact ⟨rfl, fun _ => Step.noConfusion⟩
  | _ => cases h

lemma Step.staging?_of_direct {x : Step} {f : Contents → Contents} (h : x.direct? = some f) :
    x.staging? = none := by
  cases x with
  | write k w => cases h
  | log k events => cases h
  | _ => rfl

/-! ## Open transactions hold their blocks -/

/-- Every open transaction holds its block, and nothing has been staged in transactions that are
yet to come. -/
structure Traced (s : Shared) (past : List Entry) : Prop where
  blocks : ∀ k u, s.handles[k]? = some (.own u) → u.active = true → u.changes = block k past
  absent : ∀ k, s.handles.length ≤ k → block k past = []

variable {s : Shared} {past : List Entry}

/-- Nothing is staged by an operation that stages nothing. -/
lemma block_unstaged {x : Step} (hx : x.staging? = none ∨ ∃ k, x.staging? = some (k, []))
    (k : Nat) (past : List Entry) (r : Except Error Unit) :
    block k (past ++ [⟨x, r⟩]) = block k past := by
  rw [block_append_singleton]
  suffices Entry.staged k ⟨x, r⟩ = [] by rw [this, List.append_nil]
  cases r with
  | error e => exact staged_error k x e
  | ok v =>
    rw [staged_ok]
    rcases hx with hx | ⟨j, hx⟩ <;> simp [hx]

/-- Where nothing is staged, it is enough that every open transaction has been one before or is
new. -/
lemma Traced.of_same {s' : Shared} {past' : List Entry} (h : Traced s past)
    (same : ∀ k, block k past' = block k past)
    (grown : s.handles.length ≤ s'.handles.length)
    (old : ∀ k u, s'.handles[k]? = some (.own u) → u.active = true →
      s.handles[k]? = some (.own u) ∨ s.handles.length ≤ k ∧ u.changes = []) :
    Traced s' past' where
  blocks k u hk hu := by
    rw [same]
    rcases old k u hk hu with hk | ⟨hk, hc⟩
    · exact h.blocks k u hk hu
    · rw [hc, h.absent k hk]
  absent k hk := by
    rw [same]
    exact h.absent k (Nat.le_trans grown hk)

/-- **Operations keep open transactions holding their blocks.** -/
lemma Traced.act (h : Traced s past) (x : Step) :
    Traced (s.act x).2 (past ++ [⟨x, (s.act x).1⟩]) := by
  cases course s x with
  | refused e act =>
    rw [act]
    refine h.of_same (fun k => ?_) (Nat.le_refl _) fun k u hk _ => .inl hk
    rw [block_append_singleton, staged_error, List.append_nil]
  | opened t quiet commits new act =>
    rw [act]
    refine h.of_same (fun k => block_unstaged (.inl quiet.1) k past _) (by simp) fun k u hk _ => ?_
    rcases getElem?_append_cases hk with ⟨hlen, hu⟩ | hk
    · exact .inr ⟨hlen, by rw [new u hu.symm]; rfl⟩
    · exact .inl hk
  | staged k u changes checks stages at_ live guarded distinct act =>
    have grown : ∀ j, block j (past ++ [⟨x, .ok ()⟩]) =
        block j past ++ if k = j then changes else [] := by
      intro j
      rw [block_append_singleton, staged_ok, stages]
    rw [act]
    constructor
    · intro j v hj hv
      rw [grown]
      by_cases hkj : k = j
      · subst hkj
        rw [List.getElem?_set_self (List.getElem?_eq_some_iff.mp at_).1] at hj
        cases hj
        rw [if_pos rfl, h.blocks k u at_ hv]
      · rw [List.getElem?_set_ne hkj] at hj
        rw [if_neg hkj, List.append_nil]
        exact h.blocks j v hj hv
    · intro j hj
      rw [List.length_set] at hj
      have hkj : k ≠ j := by
        have := (List.getElem?_eq_some_iff.mp at_).1
        omega
      rw [grown, if_neg hkj, List.append_nil]
      exact h.absent j hj
  | passed k stages act =>
    rw [act]
    exact h.of_same (fun j => block_unstaged (.inr ⟨k, stages⟩) j past _) (Nat.le_refl _)
      fun j u hj _ => .inl hj
  | committed k u commits at_ live checked act =>
    rw [act]
    refine h.of_same (fun j => block_unstaged (.inl (by rw [commits]; rfl)) j past _) (by simp)
      fun j v hj hv => .inl ((getElem?_set_cases hj).resolve_left ?_)
    rintro ⟨⟩
    cases hv
  | dropped k t drops closed act =>
    rw [act]
    refine h.of_same (fun j => block_unstaged (.inl (by rw [drops]; rfl)) j past _) (by simp)
      fun j v hj hv => .inl ((getElem?_set_cases hj).resolve_left fun hvt => ?_)
    rw [closed v hvt.symm] at hv
    cases hv
  | direct f changes act =>
    rw [act]
    exact h.of_same (fun j => block_unstaged (.inl (Step.staging?_of_direct changes)) j past _)
      (Nat.le_refl _) fun j u hj _ => .inl hj
  | switched r off switches act =>
    rw [act]
    exact h.of_same (fun j => block_unstaged (.inl (by rw [switches]; rfl)) j past _)
      (Nat.le_refl _) fun j u hj _ => .inl hj

/-! ## Contents -/

/-- What an operation makes of a store is what its entry makes of the contents. -/
lemma Traced.contents_act (h : Traced s past) (x : Step) :
    (s.act x).2.store.contents =
      Entry.perform past ⟨x, (s.act x).1⟩ s.store.contents := by
  cases course s x with
  | refused e act => rw [act, perform_error]
  | opened t quiet commits new act => rw [act, perform_ok_of_quiet past commits quiet.2]
  | staged k u changes checks stages at_ live guarded distinct act =>
    have hx := Step.direct?_of_staging stages
    rw [act, perform_ok_of_quiet past hx.2 hx.1]
  | passed k stages act =>
    have hx := Step.direct?_of_staging stages
    rw [act, perform_ok_of_quiet past hx.2 hx.1]
  | committed k u commits at_ live checked act =>
    subst commits
    rw [act]
    simp only [Entry.perform, h.blocks k u at_ live]
  | dropped k t drops closed act =>
    subst drops
    rw [act]
    rfl
  | direct f changes act => rw [act, perform_ok_of_direct past changes]
  | switched r off switches act =>
    subst switches
    rw [act]
    cases off <;> rfl

/-- What a run makes of a store is what its record makes of the contents. -/
lemma Traced.contents_run (h : Traced s past) (xs : List Step) :
    (s.run xs).store.contents = serial past s.store.contents (s.record xs) := by
  induction xs generalizing s past with
  | nil => rfl
  | cons x xs ih =>
    rw [run_cons, ih (h.act x), record, serial, h.contents_act x]

/-- Runs keep open transactions holding their blocks. -/
lemma Traced.run (h : Traced s past) (xs : List Step) :
    Traced (s.run xs) (past ++ s.record xs) := by
  induction xs generalizing s past with
  | nil => simpa [record] using h
  | cons x xs ih => simpa [record] using ih (h.act x)

lemma traced_begin (crashed : List Repository) : Traced (begin crashed) [] where
  blocks k u hk := by simp [begin] at hk
  absent k _ := rfl

/-! ## Serialised runs -/

/-- What holds of a shared store with a record: what is stored is what the record makes of nothing,
and reads answer from just that; what is staged is not visible; a rollback changes nothing that is
stored, and what is refused changes nothing at all; and the commit of an open transaction goes
through exactly when none of the events in its block is in the log by then. -/
structure Serialised (s : Shared) (past : List Entry) : Prop where
  contents : s.store.contents = serial [] .empty past
  reads : backend.view s.store = view ⟨serial [] .empty past, s.store.crashed⟩
  invisible : ∀ x : Step, x.staging?.isSome → (s.act x).2.store = s.store
  dropped : ∀ k, (s.act (.rollback k)).2.store = s.store
  refused : ∀ x e, (s.act x).1 = .error e → (s.act x).2 = s
  commits : ∀ k u, s.handles[k]? = some (.own u) → u.active = true →
    ((s.act (.commit k)).1 = .ok () ↔
      ∀ i ∈ (block k past).filterMap eventOf?, s.store.contents.events.get? i = none)

/-- What is refused changes nothing. -/
lemma act_refused {x : Step} {e : Error} (h : (s.act x).1 = .error e) : (s.act x).2 = s := by
  cases course s x with
  | refused e act => rw [act]
  | _ => simp_all

/-- Staging and dropping leave the store as it is. -/
lemma store_act_of_quiet {x : Step} (hd : x.direct? = none) (hc : ∀ k, x ≠ .commit k)
    (hs : ∀ r off, x ≠ .switch r off) : (s.act x).2.store = s.store := by
  cases course s x with
  | committed k u commits at_ live checked act => exact absurd commits (hc k)
  | direct f changes act => simp [hd] at changes
  | switched r off switches act => exact absurd switches (hs r off)
  | _ => simp_all

/-- The commit of an open transaction goes through exactly when none of the events that it logs is
in the log. -/
lemma commit_eq_ok_iff {k : Nat} {u : Transaction} (hk : s.handles[k]? = some (.own u))
    (hu : u.active = true) (hg : Guarded u) :
    (s.act (.commit k)).1 = .ok () ↔
      ∀ i ∈ u.changes.filterMap eventOf?, s.store.contents.events.get? i = none := by
  have hact : (s.act (.commit k)).1 = runChecks s.store.contents u.checks := by
    simp only [act, use, hk, backend, commit, hu, ↓reduceIte]
    cases hr : runChecks s.store.contents u.checks <;> rfl
  rw [hact]
  rcases hg.runChecks_cases s.store.contents with ⟨hr, hall⟩ | ⟨⟨old, hr⟩, i, hi, hne⟩
  · exact iff_of_true hr hall
  · exact iff_of_false (by simp [hr]) fun hall => hne (hall i hi)

/-- **Units of work are atomic, isolated, and serialised in the order of their commits**: this
holds after any operations on any number of transactions, in any order, on a store that begins
empty. -/
theorem serialised_run (crashed : List Repository) (xs : List Step) :
    Serialised ((begin crashed).run xs) ((begin crashed).record xs) := by
  have traced : Traced ((begin crashed).run xs) ((begin crashed).record xs) :=
    (traced_begin crashed).run xs
  have contents : ((begin crashed).run xs).store.contents =
      serial [] .empty ((begin crashed).record xs) := (traced_begin crashed).contents_run xs
  constructor
  case contents => exact contents
  case reads =>
    rw [← contents]
    rfl
  case invisible =>
    intro x hx
    obtain ⟨p, hp⟩ := Option.isSome_iff_exists.mp hx
    have quiet := Step.direct?_of_staging hp
    refine store_act_of_quiet quiet.1 quiet.2 fun r off h => ?_
    rw [h] at hp
    cases hp
  case dropped =>
    exact fun k => store_act_of_quiet rfl (fun _ => Step.noConfusion) fun _ _ => Step.noConfusion
  case refused => exact fun x e => act_refused
  case commits =>
    intro k u hk hu
    rw [← traced.blocks k u hk hu]
    exact commit_eq_ok_iff hk hu (allGuarded_run crashed xs k u hk)

end CommonPurse.Store.Memory.Shared
