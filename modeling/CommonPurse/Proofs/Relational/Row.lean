import CommonPurse.Proofs.Event.Recorded
import CommonPurse.Proofs.Number.Binary64
import CommonPurse.Proofs.Store.Table
import CommonPurse.Proofs.Text.Numeral
import CommonPurse.Store.Relational.Database
import Mathlib.Data.List.Perm.Basic
import Mathlib.Data.List.Sort

/-!
# Rows keep what is stored

The columns of the relational store keep what is written to them, provided that times show universal
time and amounts are below `10 ^ 10`, and the entities are read back from their rows. The members of
a group come back in the order in which they joined, provided that no two joined at the same time.

## Main definitions

* `CommonPurse.Decimal.Storable` — the amounts that a column keeps.
* `CommonPurse.Group.Storable`, `Expense.Storable`, `Settlement.Storable` — the entities that are
  read back.
* `CommonPurse.Store.Write.Storable` — the writes that save such entities.

## Main results

* `CommonPurse.Entry.storable_of_amount` — what is entered and below the limit can be stored.
* `CommonPurse.Store.Relational.kept?_of_storable` — columns keep what is written to them.
* `CommonPurse.Store.Relational.groupOf_membersOf`, `settlementOf_settlementRow` — groups and
  settlements are read back.
-/

namespace CommonPurse

open CommonPurse.Store

/-! ## Amounts -/

namespace Decimal

/-- An amount above zero in hundredths, and below `10 ^ 10`. -/
def Storable (a : Decimal) : Prop := ∃ c : Nat, 0 < c ∧ c < 10 ^ 12 ∧ a = .finite false c (-2)

/-- What amounts have to be below, `10 ^ 10`. -/
def limit : Decimal := ofNat (10 ^ 10)

/-- Hundredths below the limit have few digits. -/
lemma lt_of_less?_limit {c : Nat} (h : (finite false c (-2)).less? limit = .ok true) :
    c < 10 ^ 12 := by
  rw [limit, ofNat, less?_finite] at h
  have less := of_decide_eq_true (Except.ok.inj h)
  have amount : (finite false c (-2)).value = c / 100 := size_hundredths c
  have bound : (finite false (10 ^ 10) 0).value = 10 ^ 10 := by norm_num [value, size]
  rw [amount, bound, div_lt_iff₀ (by norm_num)] at less
  norm_num at less
  exact_mod_cast less

end Decimal

/-- **What is entered as an amount below the limit can be stored.** -/
theorem Entry.storable_of_amount {value : String} {a : Decimal} (h : amount value = .ok a)
    (small : a.less? .limit = .ok true) : a.Storable := by
  obtain ⟨c, hc, -, rfl⟩ := exists_of_amount h
  exact ⟨c, hc, Decimal.lt_of_less?_limit small, rfl⟩

/-! ## Entities -/

/-- A group whose times are universal, and whose members are its own and joined one after the
other. -/
structure Group.Storable (g : Group) : Prop where
  created : g.createdAt.offset = some 0
  own : ∀ m ∈ g.members, m.groupId = g.id
  joined : ∀ m ∈ g.members, m.joinedAt.offset = some 0
  ordered : g.members.Pairwise fun a b => a.joinedAt.wall < b.joinedAt.wall

/-- An expense whose times are universal, and whose amount a column keeps. -/
structure Expense.Storable (e : Expense) : Prop where
  amount : e.amount.Storable
  created : e.createdAt.offset = some 0
  modified : ∀ t ∈ e.modifiedAt, t.offset = some 0

/-- A settlement whose times are universal, and whose amounts a text can name. -/
structure Settlement.Storable (s : Settlement) : Prop where
  start : ∀ t ∈ s.start, t.offset = some 0
  finish : s.finish.offset = some 0
  transfers : ∀ t ∈ s.transfers, t.amount.Sound

/-- A write of an entity that is read back. -/
def Store.Write.Storable : Write → Prop
  | .saveUser u => u.createdAt.offset = some 0
  | .saveGroup g => g.Storable
  | .saveExpense e => e.Storable
  | .saveSettlement s => s.Storable
  | .saveCredential _ _ => True
  | .deleteUser _ => True
  | .deleteCredential _ => True
  | .deleteGroup _ => True
  | .deleteExpense _ => True

/-- The member with an identifier, when nobody is a member twice. -/
lemma Group.find?_members_eq_some_iff {members : List Member} (h : (members.map (·.id)).Nodup)
    (user : Id) (m : Member) :
    members.find? (·.id = user) = some m ↔ m ∈ members ∧ m.id = user := by
  constructor
  · intro hm
    exact ⟨List.mem_of_find?_eq_some hm, by simpa using List.find?_some hm⟩
  · rintro ⟨hm, rfl⟩
    cases hx : members.find? (·.id = m.id) with
    | none => exact absurd (List.find?_eq_none.mp hx m hm) (by simp)
    | some x =>
      have same : x.id = m.id := by simpa using List.find?_some hx
      rw [List.inj_on_of_nodup_map h (List.mem_of_find?_eq_some hx) hm same]

namespace Store.Relational

/-! ## Columns -/

lemma storedTime_of_universal {t : Timestamp} (h : t.offset = some 0) : storedTime t = t := by
  obtain ⟨wall, offset⟩ := t
  subst h
  rfl

lemma map_storedTime_of_universal {t : Option Timestamp} (h : ∀ x ∈ t, x.offset = some 0) :
    t.map storedTime = t := by
  cases t with
  | none => rfl
  | some x => rw [Option.map_some, storedTime_of_universal (h x rfl)]

/-- **A column keeps an amount below the limit.** -/
theorem storedAmount?_of_storable {a : Decimal} (h : a.Storable) : storedAmount? a = some a := by
  obtain ⟨c, hc, small, rfl⟩ := h
  obtain ⟨nonzero, text⟩ := Binary64.fixedText_ofDecimal hc small
  have within : (Decimal.finite false c (-2)).Sound :=
    Decimal.sound_hundredths false (small.trans (by decide))
  have read : Decimal.parse? (String.ofList (Binary64.fixedDigits 2 c)) =
      some (.finite false c (-2)) := Decimal.parse?_fixedDigits (by decide) within
  simp only [storedAmount?, nonzero, Bool.false_eq_true, if_false, text, read]

/-- **Columns keep what is written to them.** -/
theorem kept?_of_storable {w : Write} (h : w.Storable) :
    ∀ row ∈ rowsOf w, Database.kept? row = some row := by
  cases w with
  | saveUser u =>
    intro row hr
    obtain rfl := List.mem_singleton.mp hr
    rw [Database.kept?, storedTime_of_universal h]
  | saveGroup g =>
    intro row hr
    rcases List.mem_cons.mp hr with rfl | hr
    · rw [Database.kept?, storedTime_of_universal h.created]
    · obtain ⟨m, hm, rfl⟩ := List.mem_map.mp hr
      have joined : storedTime (memberRow m).joinedAt = (memberRow m).joinedAt :=
        storedTime_of_universal (h.joined m hm)
      rw [Database.kept?, joined]
  | saveExpense e =>
    intro row hr
    obtain rfl := List.mem_singleton.mp hr
    rw [Database.kept?, storedAmount?_of_storable h.amount, storedTime_of_universal h.created,
      map_storedTime_of_universal h.modified]
    rfl
  | saveSettlement s =>
    intro row hr
    obtain rfl := List.mem_singleton.mp hr
    have start : (settlementRow s).start.map storedTime = (settlementRow s).start :=
      map_storedTime_of_universal h.start
    have finish : storedTime (settlementRow s).finish = (settlementRow s).finish :=
      storedTime_of_universal h.finish
    rw [Database.kept?, start, finish]
  | saveCredential email hash =>
    intro row hr
    obtain rfl := List.mem_singleton.mp hr
    rfl
  | _ => exact fun _ hr => nomatch hr

lemma kept?_eventRow {e : Event} (h : e.occurredAt.offset = some 0) :
    Database.kept? (eventRow e) = some (eventRow e) := by
  rw [eventRow, Database.kept?, storedTime_of_universal h]
  rfl

/-! ## Groups -/

/-- The row of a group, without its members. -/
def groupRow (g : Group) : GroupRow := ⟨g.name, g.adminId, g.createdAt⟩

lemma membersOf_map {group : Id} {ms : List Member} (own : ∀ m ∈ ms, m.groupId = group) :
    membersOf group (ms.map fun m => (m.id, memberRow m)) = .ok ms := by
  induction ms with
  | nil => rfl
  | cons m ms ih =>
    obtain ⟨rfl, rest⟩ := List.forall_mem_cons.mp own
    rw [List.map_cons, membersOf, memberOf, memberRow, Color.parse_text]
    simp only [ih rest]
    rfl

/-- The rows of the members of a group, in the order of the table. -/
def memberRows (t : Table (Id × Id) MemberRow) (group : Id) : List (Id × MemberRow) :=
  (t.rows.filter fun r => r.1.1 = group).map fun r => (r.1.2, r.2)

lemma perm_membersOf (t : Table (Id × Id) MemberRow) (group : Id) :
    (Database.membersOf t group).Perm (memberRows t group) :=
  (List.mergeSort_perm _ _).trans (List.mergeSort_perm _ _)

/-- No member of a group comes twice. -/
lemma nodup_memberRows {t : Table (Id × Id) MemberRow} (hd : t.Distinct) (group : Id) :
    ((memberRows t group).map (·.1)).Nodup := by
  rw [memberRows, List.map_map]
  have keys : t.rows.Pairwise fun a b => a.1 ≠ b.1 := List.pairwise_map.mp hd
  refine List.pairwise_map.mpr ((keys.filter _).imp_of_mem ?_)
  intro a b ha hb hne heq
  have hga : a.1.1 = group := by simpa using (List.mem_filter.mp ha).2
  have hgb : b.1.1 = group := by simpa using (List.mem_filter.mp hb).2
  exact hne (Prod.ext (hga.trans hgb.symm) heq)

lemma mem_memberRows_iff {t : Table (Id × Id) MemberRow} (hd : t.Distinct) (group user : Id)
    (r : MemberRow) : (user, r) ∈ memberRows t group ↔ t.get? (group, user) = some r := by
  constructor
  · intro hm
    obtain ⟨⟨⟨g, v⟩, s⟩, hs, heq⟩ := List.mem_map.mp hm
    obtain ⟨hmem, hg⟩ := List.mem_filter.mp hs
    obtain ⟨rfl, rfl⟩ := Prod.mk.inj heq
    obtain rfl : g = group := by simpa using hg
    exact Table.get?_of_mem hd hmem
  · intro hget
    exact List.mem_map.mpr
      ⟨((group, user), r), List.mem_filter.mpr ⟨Table.mem_of_get? hget, by simp⟩, rfl⟩

/-- The rows of the members of a group, in some order. -/
lemma perm_memberRows {t : Table (Id × Id) MemberRow} (hd : t.Distinct) {group : Id}
    {ms : List Member} (hn : (ms.map (·.id)).Nodup)
    (h : ∀ u, t.get? (group, u) = (ms.find? (·.id = u)).map memberRow) :
    (memberRows t group).Perm (ms.map fun m => (m.id, memberRow m)) := by
  have once : (memberRows t group).Nodup := (nodup_memberRows hd group).of_map
  have once' : (ms.map fun m => (m.id, memberRow m)).Nodup := by
    refine List.Nodup.of_map Prod.fst ?_
    rwa [List.map_map]
  refine (List.perm_ext_iff_of_nodup once once').mpr ?_
  rintro ⟨u, r⟩
  rw [mem_memberRows_iff hd, h, Option.map_eq_some_iff, List.mem_map]
  simp only [Group.find?_members_eq_some_iff hn, Prod.mk.injEq, and_assoc]

/-- **The members of a group come back in the order in which they joined.** -/
theorem membersOf_eq {t : Table (Id × Id) MemberRow} (hd : t.Distinct) {group : Id}
    {ms : List Member} (hn : (ms.map (·.id)).Nodup)
    (ordered : ms.Pairwise fun a b => a.joinedAt.wall < b.joinedAt.wall)
    (h : ∀ u, t.get? (group, u) = (ms.find? (·.id = u)).map memberRow) :
    Database.membersOf t group = ms.map fun m => (m.id, memberRow m) := by
  have perm : (Database.membersOf t group).Perm (ms.map fun m => (m.id, memberRow m)) :=
    (perm_membersOf t group).trans (perm_memberRows hd hn h)
  have sorted : (Database.membersOf t group).Pairwise
      fun a b => a.2.joinedAt.wall ≤ b.2.joinedAt.wall := by
    have le : ∀ l : List (Id × MemberRow),
        (l.mergeSort fun a b => a.2.joinedAt.wall ≤ b.2.joinedAt.wall).Pairwise
          fun a b => decide (a.2.joinedAt.wall ≤ b.2.joinedAt.wall) = true :=
      List.pairwise_mergeSort
        (fun a b c hab hbc => by simp only [decide_eq_true_eq] at *; omega)
        (fun a b => by simp only [Bool.or_eq_true, decide_eq_true_eq]; omega)
    exact (le _).imp fun h => by simpa using h
  have wanted : (ms.map fun m => (m.id, memberRow m)).Pairwise
      fun a b => a.2.joinedAt.wall < b.2.joinedAt.wall :=
    List.pairwise_map.mpr ordered
  have once : ((ms.map fun m => (m.id, memberRow m)).map fun r => r.2.joinedAt.wall).Nodup :=
    List.pairwise_map.mpr (wanted.imp fun hlt => Int.ne_of_lt hlt)
  refine perm.eq_of_pairwise ?_ sorted (wanted.imp Int.le_of_lt)
  intro a b ha hb hab hba
  exact List.inj_on_of_nodup_map once (perm.mem_iff.mp ha) hb (Int.le_antisymm hab hba)

/-- **A group is read back** from its row and the rows of its members. -/
theorem groupOf_membersOf {t : Table (Id × Id) MemberRow} (hd : t.Distinct) {g : Group}
    (hn : (g.members.map (·.id)).Nodup) (hs : g.Storable)
    (h : ∀ u, t.get? (g.id, u) = (g.member? u).map memberRow) :
    groupOf g.id (groupRow g) (Database.membersOf t g.id) = .ok g := by
  rw [groupOf, membersOf_eq hd hn hs.ordered h, membersOf_map hs.own]
  rfl

/-! ## Settlements -/

lemma idsOf?_map (ids : List Id) :
    idsOf? (.array (ids.map fun i => .text i.text)) = some ids := by
  simp only [idsOf?, listed?]
  induction ids with
  | nil => rfl
  | cons i ids ih =>
    rw [List.map_cons, List.mapM_cons, ih]
    simp [Json.text?, Announcement.read?_text]

lemma transfersOf?_map {ts : List Transfer} (h : ∀ t ∈ ts, t.amount.Sound) :
    transfersOf? (.array (ts.map Transfer.document)) = some ts := by
  simp only [transfersOf?, listed?]
  rw [Form.Checked.list_map fun t ht => Event.readTransfer_document .document (h t ht)]

/-- **A settlement is read back** from its row. -/
theorem settlementOf_settlementRow {s : Settlement} (h : s.Storable) :
    settlementOf s.id (settlementRow s) = .ok s := by
  rw [settlementOf, settlementRow]
  simp only [transfersOf?_map h.transfers, idsOf?_map]

end Store.Relational

end CommonPurse
