import CommonPurse.Proofs.Concurrency.Overlap
import CommonPurse.Proofs.Group.WellFormed

/-!
# Groups stay as they should be when calls overlap

A unit of work that saves a group saves the copy that its call has read, changed in one place. The
copy can be out of date by then, and the group may even be gone. But every version of a group that
is ever stored, or waits to be stored, comes from the version that was founded, by changes that keep
groups as they should be and leave the administrator alone. So it does not matter which version
prevails.

## Main definitions

* `CommonPurse.Overlap.Step.founded?` — the identifier that a step gives to a group.
* `CommonPurse.Overlap.FreshGroups` — no two groups are founded under one identifier.
* `CommonPurse.Overlap.KeepsGroups` — groups are as they should be throughout a run.

## Main results

* `CommonPurse.Overlap.keepsGroups` — in every run they are.
-/

namespace CommonPurse

open CommonPurse.Store
open CommonPurse.Interleaved (sampleOccasion)

/-! ## Versions of groups -/

/-- A version of a group that is as it should be, and that names the administrator whom a function
gives to its identifier. -/
structure Group.VersionBy (f : Id → Id) (g : Group) : Prop where
  wellFormed : g.WellFormed
  admin : g.adminId = f g.id

namespace Store.Memory.Contents

/-- Users and groups stand under their own identifiers, and all groups are versions that name the
administrators whom a function gives. -/
structure VersionsBy (f : Id → Id) (c : Contents) : Prop where
  userKeys : ∀ r ∈ c.users.rows, r.1 = r.2.id
  groupKeys : ∀ r ∈ c.groups.rows, r.1 = r.2.id
  groups : ∀ r ∈ c.groups.rows, r.2.VersionBy f

variable {f : Id → Id} {c : Contents}

lemma versionsBy_empty (f : Id → Id) : Contents.empty.VersionsBy f := by
  constructor <;> exact fun _ h => nomatch h

lemma VersionsBy.write (h : c.VersionsBy f) {w : Write}
    (saved : ∀ g, w = .saveGroup g → g.VersionBy f) : (c.write w).VersionsBy f := by
  cases w with
  | saveUser u => exact { h with userKeys := forall_rows_put h.userKeys rfl }
  | deleteUser i => exact { h with userKeys := forall_rows_erase h.userKeys i }
  | saveGroup g =>
    exact { h with
      groupKeys := forall_rows_put h.groupKeys rfl
      groups := forall_rows_put h.groups (saved g rfl) }
  | deleteGroup i =>
    exact { h with
      groupKeys := forall_rows_erase h.groupKeys i
      groups := forall_rows_erase h.groups i }
  | _ => exact { h with }

lemma VersionsBy.writeAll (h : c.VersionsBy f) {ws : List Write}
    (saved : ∀ g, .saveGroup g ∈ ws → g.VersionBy f) : (c.writeAll ws).VersionsBy f := by
  induction ws generalizing c with
  | nil => exact h
  | cons w ws ih =>
    rw [writeAll_cons]
    apply ih
    · exact h.write fun g hg => saved g (hg ▸ List.mem_cons_self)
    · exact fun g hg => saved g (List.mem_cons_of_mem _ hg)

lemma VersionsBy.get? (h : c.VersionsBy f) {i : Id} {g : Group}
    (hg : c.groups.get? i = some g) : g.id = i ∧ g.VersionBy f := by
  have mem := Table.mem_of_get? hg
  exact ⟨(h.groupKeys _ mem).symm, h.groups _ mem⟩

end Store.Memory.Contents

/-- What a command saves is a version again, given that what is stored is. A new group has to name the
administrator whom the function gives to its identifier. -/
lemma Command.Planned.versionBy {f : Id → Id} {m : Memory} {o : Occasion} {c : Command} {p : Plan}
    (h : Command.Planned m.view o c p) (hm : m.contents.VersionsBy f)
    (founder : ∀ user name color, c = .createGroup user name color → f (o.ids 0) = user) {g : Group}
    (hg : .saveGroup g ∈ p.writes) : g.VersionBy f := by
  cases h with
  | @register name email hash u created new =>
    rcases credentialWrites_cases u.email hash with h | ⟨x, h⟩ <;> simp [h] at hg
  | @createGroup user name color picked u n hc found named =>
    obtain rfl := Write.saveGroup.inj (List.mem_singleton.mp hg)
    have stored := ((Memory.view_user_eq_ok_iff ..).mp found).2
    have key : user = u.id := hm.userKeys _ (Table.mem_of_get? stored)
    refine ⟨Group.wellFormed_founded .., ?_⟩
    show u.id = f (o.ids 0)
    rw [founder user name color rfl, key]
  | @joinGroup user group color c u g' picked found loaded outside =>
    obtain rfl := Write.saveGroup.inj (List.mem_singleton.mp hg)
    have version := (hm.get? ((Memory.view_group_eq_ok_iff ..).mp loaded).2).2
    exact ⟨version.wellFormed.withMember outside c o.now, version.admin⟩
  | @changeColor user group color c g' x picked loaded member =>
    obtain rfl := Write.saveGroup.inj (List.mem_singleton.mp hg)
    have version := (hm.get? ((Memory.view_group_eq_ok_iff ..).mp loaded).2).2
    exact ⟨version.wellFormed.withColor user c, version.admin⟩
  | _ => simp at hg

namespace Overlap

/-! ## Founders -/

/-- The identifier that a step gives to a new group, unless the call is refused. -/
def Step.founded? : Step → Option Id
  | .read o (.createGroup _ _ _) => some (o.ids 0)
  | _ => none

/-- No two groups are founded under one identifier. -/
def FreshGroups (steps : List Step) : Prop := (steps.filterMap Step.founded?).Nodup

instance (steps : List Step) : Decidable (FreshGroups steps) :=
  inferInstanceAs (Decidable (steps.filterMap Step.founded?).Nodup)

/-- A function gives the founder to the identifier of the group that a step founds. -/
def Step.FoundedBy (f : Id → Id) (s : Step) : Prop :=
  ∀ o user name color, s = .read o (.createGroup user name color) → f (o.ids 0) = user

/-- Where identifiers are fresh, some function gives all founders. -/
lemma exists_founders {steps : List Step} (fresh : FreshGroups steps) :
    ∃ f, ∀ s ∈ steps, s.FoundedBy f := by
  induction steps with
  | nil => exact ⟨id, fun _ h => nomatch h⟩
  | cons s ss ih =>
    by_cases founds : ∃ o user name color, s = .read o (.createGroup user name color)
    · obtain ⟨o, user, name, color, rfl⟩ := founds
      obtain ⟨new, rest⟩ := List.nodup_cons.mp fresh
      obtain ⟨f, hf⟩ := ih rest
      refine ⟨fun i => if i = o.ids 0 then user else f i, fun s hs => ?_⟩
      rintro o' user' name' color' rfl
      rcases List.mem_cons.mp hs with heq | hs
      · cases heq
        exact if_pos rfl
      · have other : o'.ids 0 ≠ o.ids 0 := by
          intro heq
          exact new (List.mem_filterMap.mpr ⟨_, hs, congrArg some heq⟩)
        show (if o'.ids 0 = o.ids 0 then user else f (o'.ids 0)) = user'
        rw [if_neg other]
        exact hf _ hs o' user' name' color' rfl
    · have none_ : s.founded? = none := by
        unfold Step.founded?
        split
        · next o user name color => exact absurd ⟨o, user, name, color, rfl⟩ founds
        · rfl
      have rest : FreshGroups ss := by
        unfold FreshGroups at fresh
        rwa [List.filterMap_cons_none none_] at fresh
      obtain ⟨f, hf⟩ := ih rest
      refine ⟨f, fun x hx => ?_⟩
      rcases List.mem_cons.mp hx with rfl | hx
      · exact fun o user name color heq => absurd ⟨o, user, name, color, heq⟩ founds
      · exact hf x hx

/-! ## Runs -/

/-- Every version of a group, be it stored or still to be saved, is as it should be and names the
administrator whom a function gives. -/
structure VersionsBy (f : Id → Id) (d : Overlap Memory) : Prop where
  stored : d.contents.VersionsBy f
  waiting : ∀ p ∈ d.waiting, ∀ g, .saveGroup g ∈ p.writes → g.VersionBy f

/-- Steps keep all versions as they should be. -/
lemma VersionsBy.step {f : Id → Id} (d : Overlap Memory) (s : Step) (founded : s.FoundedBy f)
    (h : d.VersionsBy f) : (d.step Memory.backend s).VersionsBy f where
  stored := by
    rcases d.memory_step s with ⟨store, -⟩ | ⟨p, devices, attempts, -, store, -⟩
    · rw [contents, store]
      exact h.stored
    · have written := h.stored.writeAll (h.waiting p (mem_of_attempted? attempts))
      rw [contents, store]
      exact { written with }
  waiting := by
    apply forall_waiting_step h.waiting
    intro o c p hs planned g hg
    refine planned.versionBy h.stored (fun user name color hc => ?_) hg
    exact founded o user name color (hc ▸ hs)

/-- **Groups are as they should be throughout a run**: in every state each group stands under its
identifier, nobody is a member twice, all members belong to the group, and the one of them who is
marked as administrator is the one that the group names; the administrator of a group is the same in
all states that store it; and who is a member can be asked in any of the three ways. -/
structure KeepsGroups (d : Overlap Memory) (steps : List Step) : Prop where
  shape : ∀ x ∈ d.states Memory.backend steps, ∀ i g, x.contents.groups.get? i = some g →
    g.id = i ∧ g.WellFormed
  admin : ∀ x ∈ d.states Memory.backend steps, ∀ y ∈ d.states Memory.backend steps, ∀ i g g',
    x.contents.groups.get? i = some g → y.contents.groups.get? i = some g' → g.adminId = g'.adminId
  members : ∀ x ∈ d.states Memory.backend steps, ∀ i g, x.contents.groups.get? i = some g →
    ∀ user, (g.isMember user = true ↔ (g.member? user).isSome = true) ∧
      ((g.member? user).isSome = true ↔ ∃ m, g.requireMember user = .ok m)

/-- **Groups stay as they should be.** Calls overlap in any order on a store in memory that is empty
at first, and no two groups are founded under one identifier. Then every group in every state is as
it should be, and its administrator never changes.

**Proof sketch.** Fresh identifiers have one founder each. What a command saves is either a new group
of its founder, or a stored version with one member more or another colour
(`Command.Planned.versionBy`). So steps keep all versions as they should be, those that wait as well
as those that are stored, and a commit only replaces one such version by another. -/
theorem keepsGroups (w : World Memory) (crashed : List Repository) (steps : List Step)
    (fresh : FreshGroups steps) : (startOn w (.empty crashed)).KeepsGroups steps := by
  obtain ⟨f, hf⟩ := exists_founders fresh
  have first : (startOn w (.empty crashed)).VersionsBy f :=
    ⟨Memory.Contents.versionsBy_empty f, fun _ h => nomatch h⟩
  have all : ∀ x ∈ (startOn w (.empty crashed)).states Memory.backend steps, x.VersionsBy f :=
    forall_states VersionsBy.step (along_of_forall hf) first
  refine ⟨fun x hx i g hg => ?_, fun x hx y hy i g g' hg hg' => ?_, fun x hx i g hg user => ?_⟩
  · obtain ⟨key, version⟩ := (all x hx).stored.get? hg
    exact ⟨key, version.wellFormed⟩
  · obtain ⟨key, version⟩ := (all x hx).stored.get? hg
    obtain ⟨key', version'⟩ := (all y hy).stored.get? hg'
    rw [version.admin, version'.admin, key, key']
  · exact ((all x hx).stored.get? hg).2.wellFormed.isMember_iff user

/-! ## A run -/

/-- Somebody founds a group and closes it while somebody else is joining: the stale copy brings the
group back. -/
def sampleRevival : List Step :=
  [.read (sampleOccasion 1) (.register (some "Ada") (some "ada@mail.org") none),
    .commit 0,
    .read (sampleOccasion 2) (.register (some "Ben") (some "ben@mail.org") none),
    .commit 0,
    .read (sampleOccasion 3) (.createGroup (.ofNat 16) "Trip" none), .commit 0,
    .read (sampleOccasion 4) (.joinGroup (.ofNat 32) (.ofNat 48) none),
    .read (sampleOccasion 5) (.deleteGroup (.ofNat 16) (.ofNat 48)),
    .commit 1, .commit 0, .ask (.group (.ofNat 32) (.ofNat 48))]

/-- The group that is brought back in `sampleRevival` is as it should be. -/
theorem keepsGroups_sampleRevival :
    FreshGroups sampleRevival ∧
      (startOn (sampleWorld (Memory.empty [])) (.empty [])).KeepsGroups sampleRevival :=
  have fresh : FreshGroups sampleRevival := by decide
  ⟨fresh, keepsGroups (sampleWorld (.empty [])) [] sampleRevival fresh⟩

/-- In the end of `sampleRevival` the group is stored, with two members. -/
example :
    (sampleRevival.foldl (step Memory.backend)
      (startOn (sampleWorld (Memory.empty [])) (.empty []))).contents.groups.values.map
        (fun g => (g.id, g.adminId, g.members.map (·.id))) =
      [(.ofNat 48, .ofNat 16, [.ofNat 16, .ofNat 32])] := by
  decide

end Overlap

end CommonPurse
