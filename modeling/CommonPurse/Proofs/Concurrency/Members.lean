import CommonPurse.Proofs.Concurrency.Shown
import CommonPurse.Proofs.Relational.Roster

/-!
# Members and colours when calls overlap

A call that joins a group or changes a colour reads the whole group and saves the whole group later.
What others have changed in between is written over: a store in memory keeps the saved copy alone,
and loses members as well as colours; a relational store keeps the members that the copy lacks, but
takes the colours that the copy has. The log and the stored groups agree exactly in the runs in which
every copy that is committed is up to date about everybody but the member who acts.

## Main definitions

* `CommonPurse.Overlap.KeepsMembers` — stored groups are what the log tells of, throughout a run.
* `CommonPurse.Overlap.UpToDate` — a step that commits no copy which is out of date.
* `CommonPurse.Store.Memory.replaced` — what a store in memory makes of a saved copy.

## Main results

* `CommonPurse.Overlap.keepsMembers_iff_upToDate` — when stored groups are what the log tells of.
-/

namespace CommonPurse

open CommonPurse.Store
open CommonPurse.Interleaved (sampleOccasion)

/-! ## Rosters in a store in memory -/

namespace Store.Memory

/-- The colour that a saved copy gives a member, whatever is stored. -/
def replaced (new _stored : Option Color) : Option Color := new

lemma roster_of_up {m : Memory} (up : m.isCrashed .groups = false) (i user : Id) :
    m.view.roster i user = (m.contents.groups.get? i).bind (·.roster user) := by
  cases hg : m.contents.groups.get? i <;> simp [View.roster, view, reading, up, hg]

/-- A write changes rosters as it should. -/
lemma roster_write (m : Memory) (w : Write) (up : m.isCrashed w.repository = false) :
    (Memory.view { m with contents := m.contents.write w }).roster =
      Write.enroll replaced m.view.roster w := by
  by_cases other : w.repository ≠ .groups
  · cases w <;> first | rfl | exact absurd rfl other
  · rw [not_not] at other
    rw [other] at up
    funext i user
    have before := m.roster_of_up up i user
    have after := roster_of_up (m := { m with contents := m.contents.write w }) up i user
    rw [after]
    cases w with
    | saveGroup g =>
      show ((m.contents.groups.put g.id g).get? i).bind (·.roster user) =
        if i = g.id then g.roster user else m.view.roster i user
      rw [Table.get?_put]
      by_cases hi : i = g.id
      · simp [hi]
      · simp [hi, Ne.symm hi, before]
    | deleteGroup j =>
      show ((m.contents.groups.erase j).get? i).bind (·.roster user) =
        if i = j then none else m.view.roster i user
      rw [Table.get?_erase]
      by_cases hi : i = j
      · simp [hi]
      · simp [hi, Ne.symm hi, before]
    | _ => cases other

end Store.Memory

namespace Overlap

variable {σ τ : Type}

/-! ## What is wanted -/

/-- The log does not tell of the end of a group. -/
def Standing (d : Overlap σ) (group : Id) : Prop := ∀ e ∈ d.log, e.closes group = false

instance (d : Overlap σ) (group : Id) : Decidable (d.Standing group) :=
  inferInstanceAs (Decidable (∀ e ∈ d.log, e.closes group = false))

/-- Everybody of whom the log tells as a member of a group is one. -/
def KeepsJoined (b : Backend σ τ) (d : Overlap σ) : Prop :=
  ∀ group, d.Standing group → ∀ user, (toldColor d.log group user).isSome = true →
    ((b.view d.store).roster group user).isSome = true

/-- **Stored groups are what the log tells of** throughout a run, as long as they are not closed: in
every state all those are members of whom the log tells, and the colour of each member is the last
one of which it tells. -/
structure KeepsMembers (b : Backend σ τ) (d : Overlap σ) (steps : List Step) : Prop where
  joined : ∀ x ∈ d.states b steps, x.KeepsJoined b
  colors : ∀ x ∈ d.states b steps, ∀ group, x.Standing group → ∀ user c,
    (b.view x.store).roster group user = some c → toldColor x.log group user = some c

/-- Copies of groups that a step commits are up to date: what comes of one, for everybody whom the
event of its plan does not tell of, is what is stored. -/
def UpToDate (combine : Option Color → Option Color → Option Color) (b : Backend σ τ) (d : Overlap σ)
    (s : Step) : Prop :=
  ∀ p, d.attempted? s = some p → d.answer? b s = some (.ok p.product) →
    ∀ g, .saveGroup g ∈ p.writes → d.Standing g.id →
      ∀ user, (∀ e ∈ p.events, e.color? g.id user = none) →
        combine (g.roster user) ((b.view d.store).roster g.id user) =
          (b.view d.store).roster g.id user

/-- The rosters of a state are those of which its log tells. -/
def TrueToLog (b : Backend σ τ) (d : Overlap σ) : Prop :=
  ∀ group, d.Standing group → ∀ user,
    (b.view d.store).roster group user = toldColor d.log group user

lemma keepsMembers_iff_trueToLog {b : Backend σ τ} {d : Overlap σ} {steps : List Step} :
    d.KeepsMembers b steps ↔ ∀ x ∈ d.states b steps, x.TrueToLog b := by
  constructor
  · intro h x hx group standing user
    cases hc : (b.view x.store).roster group user with
    | some c => exact (h.colors x hx group standing user c hc).symm
    | none =>
      cases ht : toldColor x.log group user with
      | none => rfl
      | some c =>
        have member := h.joined x hx group standing user (by rw [ht]; rfl)
        rw [hc] at member
        cases member
  · intro h
    constructor
    · intro x hx group standing user told
      rw [h x hx group standing user]
      exact told
    · intro x hx group standing user c hc
      rw [← h x hx group standing user]
      exact hc

/-! ## Steps -/

/-- What is needed of a store, given what its steps keep: rosters change by the writes of plans, and
the colour that a saved copy has goes before the one that is stored. -/
structure ShowsRosters (b : Backend σ τ) (combine : Option Color → Option Color → Option Color)
    (keeps : Overlap σ → Prop) : Prop where
  step : ∀ d s, keeps d → keeps (d.step b s)
  grounded : ∀ d, keeps d → ∀ p ∈ d.waiting, p.Grounded
  shows : ∀ d s, keeps d → d.Shows b View.roster (Write.enroll combine) s
  combine_some : ∀ c stored, combine (some c) stored = some c

variable {b : Backend σ τ} {combine : Option Color → Option Color → Option Color}
  {keeps : Overlap σ → Prop} {d : Overlap σ} {s : Step}

/-- What a step changes for one member of a group that is not closed: nothing, or both the stored
colour and the one that the log tells of are the same new one, or a copy is laid over what is stored,
and the log tells nothing new. -/
inductive Recolors (b : Backend σ τ) (combine : Option Color → Option Color → Option Color)
    (d : Overlap σ) (s : Step) (group user : Id) : Prop
  | same (roster : (b.view (d.step b s).store).roster group user =
        (b.view d.store).roster group user)
      (told : toldColor (d.step b s).log group user = toldColor d.log group user)
  | new (c : Color) (roster : (b.view (d.step b s).store).roster group user = some c)
      (told : toldColor (d.step b s).log group user = some c)
  | copied (p : Plan) (g : Group) (attempts : d.attempted? s = some p)
      (answer : d.answer? b s = some (.ok p.product)) (saves : .saveGroup g ∈ p.writes)
      (own : group = g.id) (silent : ∀ e ∈ p.events, e.color? group user = none)
      (roster : (b.view (d.step b s).store).roster group user =
        combine (g.roster user) ((b.view d.store).roster group user))
      (told : toldColor (d.step b s).log group user = toldColor d.log group user)

/-- A group that is not closed after a step has not been closed before. -/
lemma standing_before (h : ShowsRosters b combine keeps) (hd : keeps d) {group : Id}
    (standing : (d.step b s).Standing group) : d.Standing group := by
  intro e he
  cases h.shows d s hd with
  | same stays log answer => exact standing e (log ▸ he)
  | done p attempts becomes log answer => exact standing e (log ▸ List.mem_append_left _ he)

/-- This is all that a step changes. -/
lemma ShowsRosters.recolors (h : ShowsRosters b combine keeps) (hd : keeps d) {group : Id}
    (standing : (d.step b s).Standing group) (user : Id) : d.Recolors b combine s group user := by
  cases h.shows d s hd with
  | same stays log answer => exact .same (by rw [stays]) (by rw [log])
  | done p attempts becomes log answer =>
    obtain ⟨v, o, c, hv, planned⟩ := h.grounded d hd p (mem_of_attempted? attempts)
    obtain ⟨e, he, enrolling⟩ := planned.enrolling hv
    have told : toldColor (d.step b s).log group user =
        (e.color? group user).or (toldColor d.log group user) := by
      rw [log, he, toldColor_append_singleton]
    cases enrolling with
    | elsewhere others silent open_ =>
      refine .same ?_ ?_
      · rw [becomes, Write.foldl_enroll others]
      · rw [told, silent, Option.none_or]
    | saved g writes tells open_ =>
      have after : (b.view (d.step b s).store).roster group user =
          if group = g.id then combine (g.roster user) ((b.view d.store).roster group user)
          else (b.view d.store).roster group user := by
        rw [becomes, writes]
        rfl
      cases hc : e.color? group user with
      | some c =>
        obtain ⟨own, colored⟩ := tells group user c hc
        refine .new c ?_ ?_
        · rw [after, if_pos own, colored, h.combine_some]
        · rw [told, hc, Option.some_or]
      | none =>
        rw [hc, Option.none_or] at told
        by_cases own : group = g.id
        · refine .copied p g attempts answer (writes ▸ List.mem_singleton_self _) own ?_ ?_ told
          · intro x hx
            rw [he, List.mem_singleton] at hx
            rw [hx, hc]
          · rw [after, if_pos own]
        · exact .same (by rw [after, if_neg own]) told
    | closed j writes silent closes =>
      have other : group ≠ j := by
        rintro rfl
        have open_ := standing e (by rw [log, he]; exact List.mem_append_right _ (by simp))
        rw [closes] at open_
        cases open_
      refine .same ?_ ?_
      · rw [becomes, writes]
        exact if_neg other
      · rw [told, silent, Option.none_or]

/-- A commit of a copy that is up to date keeps rosters what the log tells of. -/
lemma ShowsRosters.trueToLog_step (h : ShowsRosters b combine keeps) (hd : keeps d)
    (fresh : d.UpToDate combine b s) (told : d.TrueToLog b) : (d.step b s).TrueToLog b := by
  intro group standing user
  have before := standing_before h hd standing
  cases h.recolors hd standing user with
  | same roster log => rw [roster, log, told group before user]
  | new c roster log => rw [roster, log]
  | copied p g attempts answer saves own silent roster log =>
    subst own
    rw [roster, log, fresh p attempts answer g saves before user silent, told _ before user]

/-- When rosters are what the log tells of before and after a step, it commits no copy that is out of
date. -/
lemma ShowsRosters.upToDate_of_trueToLog (h : ShowsRosters b combine keeps) (hd : keeps d)
    (before : d.TrueToLog b) (after : (d.step b s).TrueToLog b) : d.UpToDate combine b s := by
  intro p attempts answer g saves standing user silent
  cases h.shows d s hd with
  | same stays log failed =>
    rw [failed p attempts] at answer
    cases answer
  | done q attempts' becomes log _ =>
    obtain rfl := Option.some.inj (attempts.symm.trans attempts')
    obtain ⟨v, o, c, hv, planned⟩ := h.grounded d hd p (mem_of_attempted? attempts)
    obtain ⟨e, he, enrolling⟩ := planned.enrolling hv
    cases enrolling with
    | elsewhere others silent open_ => exact absurd rfl (others _ saves)
    | closed j writes silent closes => simp [writes] at saves
    | saved g' writes tells open_ =>
      obtain rfl : g = g' := by simpa [writes] using saves
      have still : (d.step b s).Standing g.id := by
        intro x hx
        rw [log, he] at hx
        rcases List.mem_append.mp hx with hx | hx
        · exact standing x hx
        · rw [List.mem_singleton.mp hx, open_]
      have told : toldColor (d.step b s).log g.id user = toldColor d.log g.id user := by
        rw [log, he, toldColor_append_singleton, silent e (by simp [he]), Option.none_or]
      calc combine (g.roster user) ((b.view d.store).roster g.id user)
          = (b.view (d.step b s).store).roster g.id user := by
            rw [becomes, writes]
            exact (if_pos rfl).symm
        _ = toldColor (d.step b s).log g.id user := after g.id still user
        _ = toldColor d.log g.id user := told
        _ = (b.view d.store).roster g.id user := (before g.id standing user).symm

/-! ## Runs -/

/-- On a store of either kind stored groups are what the log tells of exactly when every copy that is
committed is up to date. -/
lemma ShowsRosters.keepsMembers_iff (h : ShowsRosters b combine keeps) (first : keeps d)
    (told : d.TrueToLog b) (steps : List Step) :
    d.KeepsMembers b steps ↔ d.Along b (UpToDate combine b) steps := by
  rw [keepsMembers_iff_trueToLog]
  constructor
  · intro states
    refine (along_of_forall fun _ _ => trivial).of_states (P := fun _ _ => True) h.step ?_ states
      first
    exact fun d s hd before after _ => h.upToDate_of_trueToLog hd before after
  · intro fresh
    have states : ∀ x ∈ d.states b steps, keeps x ∧ x.TrueToLog b := by
      refine forall_states (fun d s fresh hd => ⟨h.step d s hd.1, ?_⟩) fresh ⟨first, told⟩
      exact h.trueToLog_step hd.1 fresh hd.2
    exact fun x hx => (states x hx).2

/-- The store in memory shows rosters. -/
lemma showsRosters_memory : ShowsRosters Memory.backend Memory.replaced Orderly where
  step _ s hd := hd.step s
  grounded _ hd := hd.waiting
  shows d s _ := memory_shows Memory.roster_write (fun _ _ _ => rfl) d s
  combine_some _ _ := rfl

/-- So does the relational store. -/
lemma showsRosters_relational : ShowsRosters Relational.backend Relational.merged
    fun d => d.Tidy ∧ d.store.database.Peopled where
  step d s hd := by
    refine ⟨hd.1.step s, ?_⟩
    rcases relational_step hd.1 s with ⟨same, -⟩ | ⟨p, e, -, -, written, -⟩
    · rw [same]
      exact hd.2
    · exact hd.2.written written
  grounded _ hd := hd.1.waiting
  shows d s hd := by
    apply relational_shows hd.1 s
    rintro p e r' ⟨v, o, c, hv, planned⟩ he written
    obtain ⟨e', he', enrolling⟩ := planned.enrolling hv
    obtain rfl : e = e' := by simpa [he] using he'
    exact written.roster enrolling hd.1.tables hd.2
  combine_some _ _ := rfl

/-- A relational store loses no members, whatever has been committed. -/
lemma keepsJoined_relational (r : World Relational) (steps : List Step) :
    ∀ x ∈ (startOn r .empty).states Relational.backend steps, x.KeepsJoined Relational.backend := by
  have shows := showsRosters_relational
  have states : ∀ x ∈ (startOn r .empty).states Relational.backend steps,
      (x.Tidy ∧ x.store.database.Peopled) ∧ x.KeepsJoined Relational.backend := by
    refine forall_states_of_step (fun d s hd => ⟨shows.step d s hd.1, ?_⟩)
      ⟨⟨tidy_startOn r, Relational.Database.peopled_empty⟩, nofun⟩ steps
    intro group standing user told
    have before := hd.2 group (standing_before shows hd.1 standing) user
    cases shows.recolors hd.1 standing user with
    | same roster log =>
      rw [log] at told
      rw [roster, before told]
    | new c roster log => rw [roster, Option.isSome_some]
    | copied p g attempts answer saves own silent roster log =>
      rw [log] at told
      rw [roster, Relational.merged, Option.isSome_or, before told, Bool.or_true]
  exact fun x hx => (states x hx).2

/-- The log of a run on a store in memory is what the store has logged. -/
lemma recorded_of_mem_states (m : World Memory) (crashed : List Repository) (steps : List Step) :
    ∀ x ∈ (startOn m (.empty crashed)).states Memory.backend steps, x.Recorded := by
  have states : ∀ x ∈ (startOn m (.empty crashed)).states Memory.backend steps,
      x.Orderly ∧ x.Recorded :=
    forall_states_of_step (fun _ s hd => ⟨hd.1.step s, hd.2.step hd.1 s⟩)
      ⟨orderly_startOn m crashed, rfl⟩ steps
  exact fun x hx => (states x hx).2

/-- So is the log of a run on a relational store. -/
lemma recordedInRows_of_mem_states (r : World Relational) (steps : List Step) :
    ∀ x ∈ (startOn r .empty).states Relational.backend steps, x.RecordedInRows := by
  have states : ∀ x ∈ (startOn r .empty).states Relational.backend steps,
      x.Tidy ∧ x.RecordedInRows :=
    forall_states_of_step (fun _ s hd => ⟨hd.1.step s, hd.2.step hd.1 s⟩) ⟨tidy_startOn r, rfl⟩
      steps
  exact fun x hx => (states x hx).2

/-- **Stored groups are what the log tells of**, exactly when every copy that is committed is up to
date. Calls overlap in any order on a store that is empty at first, and the log is the one in the
store. On either kind of store everybody of whom the log tells is a member and has the colour of which
it tells last, if and only if no commit changes anything about others than the member who acts: the
copy that a store in memory is given agrees with what is stored about all others, and the copy that a
relational store is given about all others who are in it. A relational store loses no members in any
case.

**Proof sketch.** The event of a plan tells of the colour of one member at most, who has it in the
copy that the plan saves (`Command.Planned.enrolling`). A store in memory shows the copy afterwards
(`Memory.roster_write`), and a relational store the copy laid over what was stored
(`Relational.Written.roster`). So what a commit makes of the others is what the log tells of them
exactly if it is what was stored. -/
theorem keepsMembers_iff_upToDate (m : World Memory) (crashed : List Repository)
    (r : World Relational) (steps : List Step) :
    (((startOn m (.empty crashed)).KeepsMembers Memory.backend steps ↔
        (startOn m (.empty crashed)).Along Memory.backend
          (UpToDate Memory.replaced Memory.backend) steps) ∧
      ∀ x ∈ (startOn m (.empty crashed)).states Memory.backend steps, x.Recorded) ∧
    ((startOn r .empty).KeepsMembers Relational.backend steps ↔
        (startOn r .empty).Along Relational.backend
          (UpToDate Relational.merged Relational.backend) steps) ∧
      ∀ x ∈ (startOn r .empty).states Relational.backend steps,
        x.RecordedInRows ∧ x.KeepsJoined Relational.backend := by
  refine ⟨⟨?_, recorded_of_mem_states m crashed steps⟩, ?_, fun x hx => ⟨?_, ?_⟩⟩
  · apply showsRosters_memory.keepsMembers_iff (orderly_startOn m crashed)
    intro group standing user
    cases hc : Memory.isCrashed (.empty crashed) .groups with
    | false => exact Memory.roster_of_up hc group user
    | true =>
      show View.roster (Memory.view (.empty crashed)) group user = none
      simp [View.roster, Memory.view, Memory.reading, hc]
  · apply showsRosters_relational.keepsMembers_iff
      ⟨tidy_startOn r, Relational.Database.peopled_empty⟩
    exact fun group standing user => rfl
  · exact recordedInRows_of_mem_states r steps x hx
  · exact keepsJoined_relational r steps x hx

/-! ## A run -/

/-- Ada founds a group. Ben and Cem are joining it while she changes her colour: all three have read
the group before the first of them commits. -/
def sampleCrowd : List Step :=
  [.read (sampleOccasion 1) (.register (some "Ada") (some "ada@mail.org") none), .commit 0,
    .read (sampleOccasion 2) (.register (some "Ben") (some "ben@mail.org") none), .commit 0,
    .read (sampleOccasion 3) (.register (some "Cem") (some "cem@mail.org") none), .commit 0,
    .read (sampleOccasion 4) (.createGroup (.ofNat 16) "Trip" none), .commit 0,
    .read (sampleOccasion 5) (.joinGroup (.ofNat 32) (.ofNat 64) none),
    .read (sampleOccasion 6) (.changeColor (.ofNat 16) (.ofNat 64) (some "255,0,0")),
    .read (sampleOccasion 7) (.joinGroup (.ofNat 48) (.ofNat 64) none),
    .commit 0, .commit 0, .commit 0]

/-- In the end of `sampleCrowd` Ben is no member any more, though the log tells that he has joined:
Cem's copy of the group is older. -/
theorem not_keepsMembers_sampleCrowd :
    ¬ (startOn (sampleWorld (Memory.empty [])) (.empty [])).KeepsMembers Memory.backend
      sampleCrowd := by
  intro h
  have last := foldl_step_mem_states Memory.backend
    (startOn (sampleWorld (Memory.empty [])) (.empty [])) sampleCrowd
  have ben := h.joined _ last (.ofNat 64) (by decide +kernel) (.ofNat 32) (by decide +kernel)
  exact absurd ben (by decide +kernel)

end Overlap

end CommonPurse
