import CommonPurse.Proofs.Group.WellFormed
import CommonPurse.Proofs.History.Settlements
import CommonPurse.Proofs.Relational.Reading
import CommonPurse.Proofs.Text.Letter

/-!
# The units of work of commands on both stores

What a command writes can be kept in rows, and nothing is in the way of its rows. So its unit of
work is carried out on a store in memory and on a relational store that mirrors it, and afterwards
the one mirrors the other again.

## Main definitions

* `CommonPurse.Command.isModerate` — the amounts that a command enters are below the limit.
* `CommonPurse.Store.Memory.Contents.JoinedBy` — nobody has joined a group after a time.
* `CommonPurse.Store.Relational.Matches` — the two stores hold the same.

## Main results

* `CommonPurse.Command.Planned.storable_writes` — what commands write can be kept in rows.
* `CommonPurse.Command.Planned.ready` — nothing is in the way of the rows of a command.
* `CommonPurse.Store.Relational.Matches.carryOut` — units of work on both stores.
-/

namespace CommonPurse

open CommonPurse.Store

/-! ## What is entered -/

/-- Whether what is entered as an amount is below the limit, if it is an amount at all. -/
def Entry.isModerate (text : String) : Bool :=
  match amount text with
  | .error _ => true
  | .ok a =>
    match a.less? .limit with
    | .error _ => false
    | .ok small => small

lemma Entry.storable_of_isModerate {text : String} {a : Decimal} (h : amount text = .ok a)
    (moderate : isModerate text = true) : a.Storable := by
  refine storable_of_amount h ?_
  rw [isModerate, h] at moderate
  cases hl : a.less? .limit with
  | error f => simp [hl] at moderate
  | ok small => simpa [hl] using moderate

/-- Whether the amounts that a command enters are below the limit. -/
def Command.isModerate : Command → Bool
  | .createExpense _ _ _ amount => Entry.isModerate amount
  | .updateExpense _ _ _ _ amount => Entry.isModerate amount
  | _ => true

/-- An address that is accepted is in lower case. -/
lemma Entry.lower_of_email {value : Option String} {e : String} (h : email value = .ok e) :
    Text.lower e = e := by
  unfold email at h
  cases value with
  | none => cases h
  | some v =>
    dsimp only at h
    split at h
    · cases h
    · rw [← Except.ok.inj h, Text.lower_lower]

/-! ## Groups -/

/-- One more member, who joins after the others. -/
lemma Group.Storable.withMember {g : Group} (h : g.Storable) {m : Member}
    (own : m.groupId = g.id) (universal : m.joinedAt.offset = some 0)
    (last : ∀ x ∈ g.members, x.joinedAt.wall < m.joinedAt.wall) : (g.withMember m).Storable where
  created := h.created
  own x hx := by
    rcases List.mem_append.mp hx with hx | hx
    · exact h.own x hx
    · rw [List.mem_singleton.mp hx, own]
      rfl
  joined x hx := by
    rcases List.mem_append.mp hx with hx | hx
    · exact h.joined x hx
    · rw [List.mem_singleton.mp hx, universal]
  ordered := by
    refine List.pairwise_append.mpr ⟨h.ordered, List.pairwise_singleton _ _, ?_⟩
    intro x hx y hy
    rw [List.mem_singleton.mp hy]
    exact last x hx

/-- Colours have nothing to do with times. -/
lemma Group.map_joinedAt_withColor (g : Group) (user : Id) (color : Color) :
    (g.withColor user color).members.map (·.joinedAt) = g.members.map (·.joinedAt) :=
  map_setColor user color (fun _ => rfl) g.members

lemma Group.Storable.withColor {g : Group} (h : g.Storable) (user : Id) (color : Color) :
    (g.withColor user color).Storable where
  created := h.created
  own := own_withColor h.own user color
  joined := by
    have times : ∀ t ∈ g.members.map (·.joinedAt), t.offset = some 0 :=
      List.forall_mem_map.mpr h.joined
    rw [← g.map_joinedAt_withColor user color] at times
    exact fun m hm => times _ (List.mem_map_of_mem hm)
  ordered := by
    have times : (g.members.map (·.joinedAt)).Pairwise fun a b => a.wall < b.wall :=
      List.pairwise_map.mpr h.ordered
    rw [← g.map_joinedAt_withColor user color, List.pairwise_map] at times
    exact times

/-- A member who is looked for among the members of a group with one more. -/
lemma Group.member?_withMember_eq_none {g : Group} {m : Member} {user : Id}
    (h : (g.withMember m).member? user = none) : g.member? user = none := by
  rw [Group.member?, Group.withMember, List.find?_append, Option.or_eq_none_iff] at h
  exact h.1

lemma Group.member?_withColor_eq_none {g : Group} {color : Color} {user other : Id}
    (h : (g.withColor other color).member? user = none) : g.member? user = none := by
  have ids := Group.ids_setColor other color g.members
  rw [Group.member?, List.find?_eq_none] at h ⊢
  intro m hm heq
  have mem : m.id ∈ (Group.setColor other color g.members).map (·.id) :=
    ids ▸ List.mem_map_of_mem hm
  obtain ⟨x, hx, hid⟩ := List.mem_map.mp mem
  exact h x hx (by simpa [hid] using heq)

/-- A settled expense is kept in its row like an open one. -/
lemma Expense.Storable.settle {e : Expense} (h : e.Storable) : e.settle.Storable :=
  ⟨h.amount, h.created, h.modified⟩

/-! ## When members joined -/

namespace Store

/-- A write under which nobody has joined a group after a time. -/
def Write.JoinedBy (t : Int) : Write → Prop
  | .saveGroup g => ∀ m ∈ g.members, m.joinedAt.wall ≤ t
  | _ => True

namespace Memory.Contents

/-- Nobody has joined a group after a time. -/
def JoinedBy (c : Contents) (t : Int) : Prop :=
  ∀ r ∈ c.groups.rows, ∀ m ∈ r.2.members, m.joinedAt.wall ≤ t

variable {c : Contents} {t : Int}

lemma joinedBy_empty (t : Int) : Contents.empty.JoinedBy t := fun _ h => nomatch h

lemma JoinedBy.mono (h : c.JoinedBy t) {t' : Int} (ht : t ≤ t') : c.JoinedBy t' :=
  fun r hr m hm => Int.le_trans (h r hr m hm) ht

lemma JoinedBy.write (h : c.JoinedBy t) {w : Write} (hw : w.JoinedBy t) :
    (c.write w).JoinedBy t := by
  cases w with
  | saveGroup g => exact forall_rows_put h hw
  | deleteGroup i => exact forall_rows_erase h i
  | _ => exact h

lemma JoinedBy.writeAll (h : c.JoinedBy t) {ws : List Write} (hws : ∀ w ∈ ws, w.JoinedBy t) :
    (c.writeAll ws).JoinedBy t := by
  induction ws generalizing c with
  | nil => exact h
  | cons w ws ih =>
    rw [writeAll_cons]
    exact ih (h.write (hws w List.mem_cons_self)) fun x hx => hws x (List.mem_cons_of_mem _ hx)

end Memory.Contents

end Store

/-! ## What commands write -/

namespace Command

variable {m : Memory} {o : Occasion} {c : Command} {p : Plan} {t : Int}

/-- Nobody joins a group later than when the command is given. -/
lemma Planned.joinedBy_writes (h : Planned m.view o c p) (joined : m.contents.JoinedBy t)
    (later : t ≤ o.now.wall) : ∀ w ∈ p.writes, w.JoinedBy o.now.wall := by
  have earlier := joined.mono later
  rcases h.saveGroup_cases with no | ⟨g, hg, saved⟩
  · intro w hw
    cases w with
    | saveGroup g => exact absurd hw (no g)
    | _ => trivial
  · intro w hw
    rw [hg] at hw
    obtain rfl := List.mem_singleton.mp hw
    intro x hx
    cases saved with
    | founded u name color => rw [List.mem_singleton.mp hx, Member.ofUser]
    | @joined group g loaded u outside color =>
      have stored := ((Memory.view_group_eq_ok_iff ..).mp loaded).2
      rcases List.mem_append.mp hx with hx | hx
      · exact earlier _ (Table.mem_of_get? stored) x hx
      · rw [List.mem_singleton.mp hx, Member.ofUser]
    | @recolored group g loaded user color =>
      have stored := ((Memory.view_group_eq_ok_iff ..).mp loaded).2
      have times : ∀ t ∈ g.members.map (·.joinedAt), t.wall ≤ o.now.wall :=
        List.forall_mem_map.mpr (earlier _ (Table.mem_of_get? stored))
      rw [← g.map_joinedAt_withColor user color] at times
      exact times _ (List.mem_map_of_mem hx)

/-- Nobody leaves a group when a command saves it again. -/
lemma Planned.keeping (h : Planned m.view o c p) (hm : m.contents.Orderly)
    (fresh : m.contents.Unused (o.ids 0)) : Write.Keeping m.contents p.writes := by
  rcases h.saveGroup_cases with no | ⟨g, hg, saved⟩
  · have others : ∀ (ws : List Write) (c : Memory.Contents), (∀ g, .saveGroup g ∉ ws) →
        Write.Keeping c ws := by
      intro ws
      induction ws with
      | nil => exact fun _ _ => trivial
      | cons w ws ih =>
        intro c hws
        refine ⟨?_, ih _ fun g hg => hws g (List.mem_cons_of_mem _ hg)⟩
        cases w with
        | saveGroup g => exact absurd List.mem_cons_self (hws g)
        | _ => trivial
    exact others _ _ no
  · rw [hg]
    refine ⟨fun old stays user gone => ?_, trivial⟩
    cases saved with
    | founded u name color => simp [fresh.2.1] at stays
    | @joined group g loaded u outside color =>
      have stored := ((Memory.view_group_eq_ok_iff ..).mp loaded).2
      obtain rfl := hm.group_id stored
      obtain rfl : g = old := Option.some.inj (stored.symm.trans stays)
      exact Group.member?_withMember_eq_none gone
    | @recolored group g loaded u color =>
      have stored := ((Memory.view_group_eq_ok_iff ..).mp loaded).2
      obtain rfl := hm.group_id stored
      obtain rfl : g = old := Option.some.inj (stored.symm.trans stays)
      exact Group.member?_withColor_eq_none gone

/-- The groups that commands save can be kept in rows. -/
lemma SavedGroup.storable {g : Group} (h : SavedGroup m.view o g) (hs : m.contents.Storable)
    (universal : o.now.offset = some 0) (joined : m.contents.JoinedBy t)
    (later : t < o.now.wall) : g.Storable := by
  cases h with
  | founded u name color =>
    refine ⟨universal, fun x hx => ?_, fun x hx => ?_, List.pairwise_singleton _ _⟩
    · rw [List.mem_singleton.mp hx, Member.ofUser]
    · rw [List.mem_singleton.mp hx, Member.ofUser, universal]
  | @joined group g loaded u outside color =>
    have stored := Table.mem_of_get? ((Memory.view_group_eq_ok_iff ..).mp loaded).2
    exact (hs.groups _ stored).withMember rfl universal fun x hx =>
      Int.lt_of_le_of_lt (joined _ stored x hx) later
  | recolored loaded user color =>
    have stored := Table.mem_of_get? ((Memory.view_group_eq_ok_iff ..).mp loaded).2
    exact (hs.groups _ stored).withColor user color

/-- **What commands write can be kept in rows**, as long as amounts are below the limit and the
clock shows universal time and goes forward. -/
theorem Planned.storable_writes (h : Planned m.view o c p) (hs : m.contents.Storable)
    (universal : o.now.offset = some 0) (joined : m.contents.JoinedBy t) (later : t < o.now.wall)
    (moderate : c.isModerate = true) : ∀ w ∈ p.writes, w.Storable := by
  intro w hw
  rcases h.saveGroup_cases with no | ⟨g, hg, saved⟩
  · cases h with
    | @register name email hash u created new =>
      rcases List.mem_cons.mp hw with rfl | hw
      · obtain ⟨n, e, -, -, rfl⟩ := (User.create_eq_ok_iff ..).mp created
        exact universal
      · rcases credentialWrites_cases u.email hash with none_ | ⟨x, one⟩
        · simp [none_] at hw
        · rw [one] at hw
          obtain rfl := List.mem_singleton.mp hw
          trivial
    | createExpense loaded member created =>
      obtain ⟨t, a, -, ha, rfl⟩ := (Expense.create_eq_ok_iff ..).mp created
      obtain rfl := List.mem_singleton.mp hw
      exact ⟨Entry.storable_of_isModerate ha moderate, universal, fun _ h => nomatch h⟩
    | updateExpense loaded found editable titled priced =>
      have stored := Table.mem_of_get? ((Memory.view_expense_eq_ok_iff ..).mp found).2
      obtain rfl := List.mem_singleton.mp hw
      refine ⟨Entry.storable_of_isModerate priced moderate, (hs.expenses _ stored).created, ?_⟩
      intro x hx
      rw [← Option.some.inj hx]
      exact universal
    | @settle user group g es last ts loaded opened latest admin balanced =>
      rcases List.mem_cons.mp hw with rfl | hw
      · refine ⟨fun t ht => ?_, universal, Balance.sound_of_transfers balanced⟩
        obtain ⟨s, rfl, rfl⟩ := Option.map_eq_some_iff.mp ht
        obtain ⟨r, hr, rfl⟩ := List.mem_map.mp (Memory.mem_of_view_lastSettlement latest)
        exact (hs.settlements r hr).finish
      · obtain ⟨e', he', rfl⟩ := List.mem_map.mp hw
        obtain ⟨e, he, rfl⟩ := List.mem_map.mp he'
        obtain ⟨r, hr, rfl⟩ := List.mem_map.mp ((Memory.mem_of_view_unsettled opened e).mp he).1
        exact (hs.expenses r hr).settle
    | _ =>
      cases w with
      | saveGroup g => exact absurd hw (no g)
      | _ => simp_all [Write.Storable]
  · rw [hg] at hw
    obtain rfl := List.mem_singleton.mp hw
    exact saved.storable hs universal joined later

/-! ## The rows of commands -/

/-- A command deletes, or it saves. -/
lemma Planned.isSave_cases {v : View} (h : Planned v o c p) :
    (∀ w ∈ p.writes, w.isSave = false) ∨ ∀ w ∈ p.writes, w.isSave = true := by
  cases h with
  | deleteUser found => exact .inl (by simp [Write.isSave])
  | deleteExpense loaded found editable => exact .inl (by simp [Write.isSave])
  | deleteGroup loaded admin => exact .inl (by simp [Write.isSave])
  | @register name email hash u created new =>
    rcases credentialWrites_cases u.email hash with h | ⟨x, h⟩ <;>
      exact .inr (by simp [h, Write.isSave])
  | _ => exact .inr (by simp [Write.isSave])

end Command

namespace Store.Relational

variable {d : Database} {rows : List Row}

lemma isUser_of_mem_rowsOf {w : Write} (h : ∀ u, w ≠ .saveUser u) :
    ∀ row ∈ rowsOf w, row.isUser = false := by
  intro row hr
  cases w with
  | saveUser u => exact absurd rfl (h u)
  | saveGroup g =>
    rcases List.mem_cons.mp hr with rfl | hr
    · rfl
    · obtain ⟨m, -, rfl⟩ := List.mem_map.mp hr
      rfl
  | saveCredential email hash => rw [List.mem_singleton.mp hr]; rfl
  | saveExpense e => rw [List.mem_singleton.mp hr]; rfl
  | saveSettlement s => rw [List.mem_singleton.mp hr]; rfl
  | _ => cases hr

/-- No write saves the row of an event or of a device. -/
lemma key_ne_of_mem_rowsOf {w : Write} {row : Row} (hr : row ∈ rowsOf w) (i : Id) :
    row.key ≠ .event i ∧ row.key ≠ .device i := by
  cases w with
  | saveGroup g =>
    rcases List.mem_cons.mp hr with rfl | hr
    · exact ⟨nofun, nofun⟩
    · obtain ⟨m, -, rfl⟩ := List.mem_map.mp hr
      exact ⟨nofun, nofun⟩
  | saveUser u => rw [List.mem_singleton.mp hr]; exact ⟨nofun, nofun⟩
  | saveCredential email hash => rw [List.mem_singleton.mp hr]; exact ⟨nofun, nofun⟩
  | saveExpense e => rw [List.mem_singleton.mp hr]; exact ⟨nofun, nofun⟩
  | saveSettlement s => rw [List.mem_singleton.mp hr]; exact ⟨nofun, nofun⟩
  | _ => cases hr

/-- The keys of the rows of one entity differ. -/
lemma nodup_keys_rowsOf {w : Write} (h : w.Proper) : ((rowsOf w).map Row.key).Nodup := by
  cases w with
  | saveGroup g =>
    rw [rowsOf, groupRows, List.map_cons, List.map_map, List.nodup_cons]
    constructor
    · intro hk
      obtain ⟨m, -, hm⟩ := List.mem_map.mp hk
      cases hm
    · have ids : (g.members.map (·.id)).Nodup := h
      refine List.pairwise_map.mpr ((List.pairwise_map.mp ids).imp fun hne heq => hne ?_)
      exact (Key.member.inj heq).2
  | _ => simp [rowsOf]

/-- Where there is no account, there is at most one. -/
lemma single_of_others (others : ∀ row ∈ rows, row.isUser = false) :
    rows.Pairwise fun a b => a.isUser = true → b.isUser = false :=
  List.pairwise_iff_forall_sublist.mpr fun {_ b} hab _ =>
    others b (hab.subset (List.mem_cons_of_mem _ List.mem_cons_self))

/-- Nothing that is not in the way of some rows is in the way of the row of an event behind them. -/
lemma Ready.event (h : Ready d rows) {e : Event} (apart : ∀ row ∈ rows, row.key ≠ .event e.id)
    (universal : e.occurredAt.offset = some 0) : Ready d (rows ++ [eventRow e]) where
  keys := by
    rw [List.map_append]
    refine h.keys.append (List.nodup_singleton _) fun k hk hk' => ?_
    obtain ⟨row, hr, rfl⟩ := List.mem_map.mp hk
    exact apart row hr (List.mem_singleton.mp hk')
  kept row hr := by
    rcases List.mem_append.mp hr with hr | hr
    · exact h.kept row hr
    · rw [List.mem_singleton.mp hr, kept?_eventRow universal]
  accounts row hr hu := by
    rcases List.mem_append.mp hr with hr | hr
    · exact h.accounts row hr hu
    · rw [List.mem_singleton.mp hr] at hu
      cases hu
  single := by
    refine List.pairwise_append.mpr ⟨h.single, List.pairwise_singleton _ _, ?_⟩
    intro a _ b hb _
    rw [List.mem_singleton.mp hb]
    rfl

/-- A new account with a new address is not in the way either. -/
lemma Mirrors.accountFree {c : Memory.Contents} (h : Mirrors c d) {u : User}
    (new : c.users.get? u.id = none) (unknown : ∀ v ∈ c.users.values, v.email ≠ u.email) :
    d.row? (.user u.id) = some none ∧ d.addressFree (.user u) = true := by
  constructor
  · simp [Database.row?, h.users, new]
  · simpa [Database.addressFree, h.users] using fun v hv => .inr (unknown v hv)

end Store.Relational

namespace Command

open CommonPurse.Store.Relational

variable {m : Memory} {o : Occasion} {c : Command} {p : Plan} {t : Int}

/-- The keys of the rows of a command differ. -/
lemma Planned.nodup_keys {v : View} (h : Planned v o c p) (hv : v.Orderly) :
    ((p.writes.flatMap rowsOf).map Row.key).Nodup := by
  have single : ∀ w, p.writes = [w] → ((p.writes.flatMap rowsOf).map Row.key).Nodup := by
    intro w hw
    have proper := h.proper_of_view hv w (hw ▸ List.mem_singleton_self w)
    simpa [hw] using nodup_keys_rowsOf proper
  cases h with
  | @register name email hash u created new =>
    rcases credentialWrites_cases u.email hash with h | ⟨x, h⟩ <;> simp [h, rowsOf, Row.key]
  | login valid credential found same => exact List.nodup_nil
  | logout found => exact List.nodup_nil
  | deleteUser found => exact List.nodup_nil
  | @settle user group g es last ts loaded opened latest admin balanced =>
    have ids := hv.expenses _ _ opened
    have rows : (((es.map (·.settle)).map Write.saveExpense).flatMap rowsOf).map Row.key =
        (es.map (·.id)).map Key.expense := by
      simp only [List.flatMap_map, rowsOf, List.map_flatMap, List.map_map]
      exact List.map_eq_flatMap.symm
    rw [List.flatMap_cons, List.map_append, rows]
    refine List.Nodup.append (List.nodup_singleton _) (ids.map fun a b => Key.expense.inj) ?_
    intro k hk hk'
    obtain ⟨i, -, rfl⟩ := List.mem_map.mp hk'
    cases List.mem_singleton.mp hk
  | _ => exact single _ rfl

/-- A new account has a new identifier and a new address. -/
lemma accountFree_of_created {d : Database} (mirrors : Mirrors m.contents d)
    {name email : Option String} {u : User} (created : User.create o name email = .ok u)
    (fresh : m.contents.Unused (o.ids 0)) (new : m.view.userByEmail u.email = .ok none) :
    d.row? (.user u.id) = some none ∧ d.addressFree (.user u) = true := by
  obtain ⟨n, e, -, valid, rfl⟩ := (User.create_eq_ok_iff ..).mp created
  refine mirrors.accountFree fresh.1 fun v hv same => ?_
  have absent := List.find?_eq_none.mp ((Memory.reading_eq_ok_iff ..).mp new).2 v hv
  rw [same, Entry.lower_of_email valid] at absent
  exact absent (by simp)

/-- There is at most one account among the rows of a command. -/
lemma Planned.single {v : View} (h : Planned v o c p) :
    (p.writes.flatMap rowsOf).Pairwise fun a b => a.isUser = true → b.isUser = false := by
  by_cases saves : ∃ u, .saveUser u ∈ p.writes
  · obtain ⟨x, hx⟩ := saves
    cases h with
    | @register name email hash u created new =>
      have others : ∀ row ∈ (credentialWrites u.email hash).flatMap rowsOf, row.isUser = false := by
        rcases credentialWrites_cases u.email hash with h | ⟨x, h⟩ <;> simp [h, rowsOf, Row.isUser]
      exact List.pairwise_cons.mpr ⟨fun row hr _ => others row hr, single_of_others others⟩
    | _ => simp at hx
  · refine single_of_others fun row hr => ?_
    obtain ⟨w, hw, hr⟩ := List.mem_flatMap.mp hr
    exact isUser_of_mem_rowsOf (fun u hu => saves ⟨u, hu ▸ hw⟩) row hr

/-- **Nothing is in the way of the rows of a command.** -/
theorem Planned.ready {d : Database} (h : Planned m.view o c p) (mirrors : Mirrors m.contents d)
    (hm : m.contents.Orderly) (fresh : m.contents.Unused (o.ids 0))
    (storable : ∀ w ∈ p.writes, w.Storable) : Ready d (p.writes.flatMap rowsOf) where
  keys := h.nodup_keys hm.view
  kept row hr := by
    obtain ⟨w, hw, hr⟩ := List.mem_flatMap.mp hr
    exact kept?_of_storable (storable w hw) row hr
  accounts row hr hu := by
    obtain ⟨w, hw, hr⟩ := List.mem_flatMap.mp hr
    have saves : ∃ u, w = .saveUser u := by
      by_contra none
      rw [isUser_of_mem_rowsOf (fun u hw => none ⟨u, hw⟩) row hr] at hu
      cases hu
    obtain ⟨x, rfl⟩ := saves
    obtain rfl := List.mem_singleton.mp hr
    cases h with
    | @register name email hash u created new =>
      have account : x = u := by
        rcases credentialWrites_cases u.email hash with h | ⟨y, h⟩ <;> simpa [h] using hw
      rw [account]
      exact accountFree_of_created mirrors created fresh new
    | _ => simp at hw
  single := h.single

/-- The identifier of a command's event is one that the command draws. -/
lemma Planned.event_drawn {v : View} (h : Planned v o c p) :
    ∃ e : Event, p.events = [e] ∧ ∃ n < p.drawn, e.id = o.ids n := by
  cases h with
  | register created new => exact ⟨_, rfl, 1, by simp, rfl⟩
  | createGroup picked found named => exact ⟨_, rfl, 1, by simp, rfl⟩
  | createExpense loaded member created => exact ⟨_, rfl, 1, by simp, rfl⟩
  | settle loaded opened latest admin balanced => exact ⟨_, rfl, 1, by simp, rfl⟩
  | _ => exact ⟨_, rfl, 0, by simp, rfl⟩

end Command

/-! ## Stores that hold the same -/

namespace Store.Relational

open CommonPurse.Store.Memory (Contents)

/-- A store in memory in which nothing is switched off and a relational store to which nobody writes
hold the same, all of which can be kept in rows, and nobody has joined a group after a time. -/
structure Matches (t : Int) (m : Memory) (r : Relational) : Prop where
  up : m.crashed = []
  idle : r.writer = none
  mirrors : Mirrors m.contents r.database
  orderly : m.contents.Orderly
  sound : m.contents.Sound
  storable : m.contents.Storable
  joined : m.contents.JoinedBy t

lemma matches_empty (t : Int) : Matches t (.empty []) .empty where
  up := rfl
  idle := rfl
  mirrors := mirrors_empty
  orderly := Memory.Contents.orderly_empty
  sound := Memory.Contents.sound_empty
  storable := Memory.Contents.storable_empty
  joined := Memory.Contents.joinedBy_empty t

variable {t : Int} {m : Memory} {r : Relational} {c : Contents} {d : Database}

lemma Matches.mono (h : Matches t m r) {t' : Int} (ht : t ≤ t') : Matches t' m r :=
  { h with joined := h.joined.mono ht }

/-- Stores that hold the same answer alike. -/
lemma Matches.agrees (h : Matches t m r) : m.view.Agrees (view r) :=
  h.mirrors.agrees h.up h.orderly h.storable

lemma Mirrors.row?_event (h : Mirrors c d) {i : Id} (new : c.events.get? i = none) :
    d.row? (.event i) = some none := by
  obtain ⟨l, hl, hget⟩ := h.events
  have absent := hget i
  rw [new] at absent
  cases hi : l.get? i with
  | none => simp [Database.row?, hl, hi]
  | some row =>
    rw [hi] at absent
    cases absent

/-- A command is carried out by the relational store as well: its tables mirror what is stored once
the writes and the event have been. -/
lemma Matches.carryOut_relational (h : Matches t m r) {o : Occasion} {cmd : Command} {p : Plan}
    (plan : Command.Planned m.view o cmd p) (storable : ∀ w ∈ p.writes, w.Storable)
    (fresh : m.contents.Unused (o.ids 0)) {e : Event} (he : p.events = [e])
    (new : m.contents.events.get? e.id = none) (sound : e.Sound) :
    ∃ d, backend.carryOut p.writes p.events r = (.ok (), ⟨d, none, r.opened + 1⟩) ∧
      Mirrors { m.contents.writeAll p.writes with
        events := m.contents.events.put e.id (Memory.recordOf e) } d := by
  have proper := plan.proper h.orderly
  have universal := sound.occurredAt.universal
  have logged : ∀ d, Mirrors (m.contents.writeAll p.writes) d →
      Mirrors { m.contents.writeAll p.writes with
        events := m.contents.events.put e.id (Memory.recordOf e) } (d.place (eventRow e)) := by
    intro d hd
    simpa using hd.log sound
  rw [he]
  rcases plan.isSave_cases with deletes | saves
  · obtain ⟨d, hd, after⟩ := h.mirrors.deletions deletes
    have ready : Ready d [] :=
      ⟨List.nodup_nil, List.forall_mem_nil _, List.forall_mem_nil _, List.Pairwise.nil⟩
    have noSaves : ∀ w ∈ ([] : List Write), w.isSave = true := List.forall_mem_nil _
    have done := carryOut_eq h.idle deletes noSaves hd
      (after.whole (h.orderly.writeAll proper)) (after.row?_event (by simpa using new))
      (ready.event (List.forall_mem_nil _) universal)
    rw [List.append_nil] at done
    exact ⟨_, done, logged d after⟩
  · have apart : ∀ row ∈ p.writes.flatMap rowsOf, row.key ≠ .event e.id := by
      intro row hr
      obtain ⟨w, -, hr⟩ := List.mem_flatMap.mp hr
      exact (key_ne_of_mem_rowsOf hr e.id).1
    have ready := plan.ready h.mirrors h.orderly fresh storable
    have noDeletes : ∀ w ∈ ([] : List Write), w.isSave = false := List.forall_mem_nil _
    have done := carryOut_eq h.idle noDeletes saves rfl (h.mirrors.whole h.orderly)
      (h.mirrors.row?_event new) (ready.event apart universal)
    have after := h.mirrors.writeAll saves proper (plan.keeping h.orderly fresh)
    rw [Database.placeAll_append] at done
    exact ⟨_, done, logged _ after⟩

/-- **Units of work on both stores.** What a command leads to is carried out on either one, and then
they hold the same again. -/
theorem Matches.carryOut (h : Matches t m r) {o : Occasion} {cmd : Command} {p : Plan}
    (plan : Command.Planned m.view o cmd p) (moderate : cmd.isModerate = true)
    (clock : o.now.Sound) (later : t < o.now.wall)
    (fresh : ∀ n < p.drawn, m.contents.Unused (o.ids n)) :
    ∃ m' r', Memory.backend.carryOut p.writes p.events m = (.ok (), m') ∧
      backend.carryOut p.writes p.events r = (.ok (), r') ∧ Matches o.now.wall m' r' := by
  obtain ⟨e, he, n, hn, hid⟩ := plan.event_drawn
  have first := fresh 0 (Nat.zero_lt_of_lt hn)
  have new : m.contents.events.get? e.id = none := hid ▸ (fresh n hn).2.2.2.2
  have storable := plan.storable_writes h.storable clock.universal h.joined later moderate
  have sound : e.Sound := plan.sound_events h.sound clock e (by simp [he])
  obtain ⟨d, done, mirrors⟩ := h.carryOut_relational plan storable first he new sound
  have admitted : m.vet p.writes p.events = .ok () := by
    refine (Memory.vet_eq_ok_iff ..).mpr ⟨fun w _ => ?_, ?_, ?_⟩
    · simp [Memory.isCrashed, h.up]
    · simp [Memory.isCrashed, h.up]
    · exact (Memory.checkNew_eq_ok_iff ..).mpr ⟨by simpa [he] using new, by simp [he]⟩
  have stored : m.contents.applyAll (Memory.changesOf p.writes p.events) =
      { m.contents.writeAll p.writes with
        events := m.contents.events.put e.id (Memory.recordOf e) } := by
    rw [Memory.Contents.applyAll_changesOf, he]
    rfl
  refine ⟨⟨_, m.crashed⟩, _, by rw [Memory.carryOut_eq, admitted], done, ?_⟩
  rw [stored]
  exact {
    up := h.up
    idle := rfl
    mirrors := mirrors
    orderly := { h.orderly.writeAll (plan.proper h.orderly) with }
    sound := { h.sound.writeAll (plan.sound_writes h.sound clock) with }
    storable := { h.storable.writeAll storable with }
    joined := (h.joined.mono (Int.le_of_lt later)).writeAll
      (plan.joinedBy_writes h.joined (Int.le_of_lt later)) }

end Store.Relational

end CommonPurse
