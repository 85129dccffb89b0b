import CommonPurse.Proofs.Command.Planned
import CommonPurse.Proofs.Store.Reading
import CommonPurse.Proofs.Store.UnitOfWork

/-!
# Orderly contents

Every entity is stored under its own identifier and once, and nobody is a member of a group twice.
This holds of a store without contents, and what commands write keeps it so.

## Main definitions

* `CommonPurse.Store.Memory.Contents.Orderly` — the contents are in order.
* `CommonPurse.Store.Write.Proper` — a write that keeps contents in order.

## Main results

* `CommonPurse.Store.Memory.Contents.Orderly.writeAll` — proper writes keep contents in order.
* `CommonPurse.Command.Planned.proper` — the writes of commands are proper.
-/

namespace CommonPurse

open CommonPurse.Store

/-! ## Members of groups -/

namespace Group

/-- A change of colour changes nothing else about the members. -/
lemma map_setColor {α : Type} {f : Member → α} (user : Id) (color : Color)
    (hf : ∀ m : Member, f { m with color := color } = f m) (members : List Member) :
    (setColor user color members).map f = members.map f := by
  induction members with
  | nil => rfl
  | cons m rest ih =>
    unfold setColor
    split
    · rw [List.map_cons, List.map_cons, hf]
    · rw [List.map_cons, List.map_cons, ih]

lemma ids_setColor (user : Id) (color : Color) (members : List Member) :
    (setColor user color members).map (·.id) = members.map (·.id) :=
  map_setColor user color (fun _ => rfl) members

/-- A change of colour concerns one member only when nobody is a member twice. -/
lemma setColor_eq_map (user : Id) (color : Color) {members : List Member}
    (h : (members.map (·.id)).Nodup) :
    setColor user color members =
      members.map fun m => if m.id = user then { m with color := color } else m := by
  induction members with
  | nil => rfl
  | cons m rest ih =>
    rw [List.map_cons, List.nodup_cons] at h
    unfold setColor
    by_cases hm : m.id = user
    · have hrest : ∀ x ∈ rest, (if x.id = user then { x with color := color } else x) = x := by
        intro x hx
        have hne : x.id ≠ user := fun hxu =>
          h.1 ((hm.trans hxu.symm) ▸ List.mem_map_of_mem hx)
        rw [if_neg hne]
      rw [if_pos hm, List.map_cons, if_pos hm, List.map_congr_left hrest, List.map_id']
    · rw [if_neg hm, List.map_cons, if_neg hm, ih h.2]

lemma notMem_ids_of_isMember_eq_false {g : Group} {user : Id} (h : g.isMember user = false) :
    user ∉ g.members.map (·.id) := by
  intro hmem
  obtain ⟨m, hm, rfl⟩ := List.mem_map.mp hmem
  have hfind : g.member? m.id = none := by
    unfold isMember at h
    cases hf : g.member? m.id with
    | none => rfl
    | some x => simp [hf] at h
  exact absurd (List.find?_eq_none.mp hfind m hm) (by simp)

end Group

/-! ## Contents in order -/

namespace Store

/-- A write that keeps contents in order: nobody is a member of a saved group twice. -/
def Write.Proper : Write → Prop
  | .saveGroup g => (g.members.map (·.id)).Nodup
  | _ => True

namespace Memory.Contents

/-- Every entity is stored once and under its own identifier, and nobody is a member of a group
twice. -/
structure Orderly (c : Contents) : Prop where
  users : c.users.Distinct
  groups : c.groups.Distinct
  expenses : c.expenses.Distinct
  settlements : c.settlements.Distinct
  userKeys : ∀ r ∈ c.users.rows, r.1 = r.2.id
  groupKeys : ∀ r ∈ c.groups.rows, r.1 = r.2.id
  expenseKeys : ∀ r ∈ c.expenses.rows, r.1 = r.2.id
  settlementKeys : ∀ r ∈ c.settlements.rows, r.1 = r.2.id
  members : ∀ r ∈ c.groups.rows, (r.2.members.map (·.id)).Nodup

variable {c : Contents}

lemma orderly_empty : Contents.empty.Orderly := by
  constructor <;> first | exact Table.distinct_empty | exact fun _ h => nomatch h

lemma Orderly.user_id (h : c.Orderly) {i : Id} {u : User} (hu : c.users.get? i = some u) :
    u.id = i :=
  (h.userKeys _ (Table.mem_of_get? hu)).symm

lemma Orderly.group_id (h : c.Orderly) {i : Id} {g : Group} (hg : c.groups.get? i = some g) :
    g.id = i :=
  (h.groupKeys _ (Table.mem_of_get? hg)).symm

lemma Orderly.expense_id (h : c.Orderly) {i : Id} {e : Expense}
    (he : c.expenses.get? i = some e) : e.id = i :=
  (h.expenseKeys _ (Table.mem_of_get? he)).symm

lemma Orderly.members_nodup (h : c.Orderly) {i : Id} {g : Group}
    (hg : c.groups.get? i = some g) : (g.members.map (·.id)).Nodup :=
  h.members _ (Table.mem_of_get? hg)

/-- No two of the expenses that are read as open have one identifier. -/
lemma Orderly.nodup_unsettled {m : Memory} (h : m.contents.Orderly) {group : Id}
    {es : List Expense} (read : m.view.unsettled group = .ok (some es)) :
    (es.map (·.id)).Nodup := by
  obtain ⟨-, -, rfl⟩ := (view_unsettled_eq_ok_iff ..).mp read
  have keys : m.contents.expenses.values.map (·.id) = m.contents.expenses.keys := by
    rw [Table.values, List.map_map]
    exact List.map_congr_left fun r hr => (h.expenseKeys r hr).symm
  have hsub : ((openExpenses m.contents group).map (·.id)).Sublist m.contents.expenses.keys :=
    keys ▸ (List.filter_sublist).map _
  exact ((sortByTime_perm _ _).map _).nodup_iff.mpr (h.expenses.sublist hsub)

/-- What holds of every row and of what is put in holds of every row afterwards. -/
lemma forall_rows_put {α : Type} {t : Table Id α} {P : Id × α → Prop} (h : ∀ r ∈ t.rows, P r)
    {k : Id} {a : α} (ha : P (k, a)) : ∀ r ∈ (t.put k a).rows, P r := by
  intro r hr
  rcases Table.mem_rows_put hr with rfl | hr
  · exact ha
  · exact h r hr

lemma forall_rows_erase {α : Type} {t : Table Id α} {P : Id × α → Prop} (h : ∀ r ∈ t.rows, P r)
    (k : Id) : ∀ r ∈ (t.erase k).rows, P r :=
  fun r hr => h r (Table.mem_rows_erase.mp hr).1

/-- A proper write keeps contents in order. -/
lemma Orderly.write (h : c.Orderly) {w : Write} (hw : w.Proper) : (c.write w).Orderly := by
  cases w with
  | saveUser u =>
    exact { h with users := h.users.put _ _, userKeys := forall_rows_put h.userKeys rfl }
  | deleteUser i =>
    exact { h with users := h.users.erase _, userKeys := forall_rows_erase h.userKeys i }
  | saveCredential email hash => exact { h with }
  | deleteCredential email => exact { h with }
  | saveGroup g =>
    exact { h with
      groups := h.groups.put _ _
      groupKeys := forall_rows_put h.groupKeys rfl
      members := forall_rows_put h.members hw }
  | deleteGroup i =>
    exact { h with
      groups := h.groups.erase _
      groupKeys := forall_rows_erase h.groupKeys i
      members := forall_rows_erase h.members i }
  | saveExpense e =>
    exact { h with
      expenses := h.expenses.put _ _, expenseKeys := forall_rows_put h.expenseKeys rfl }
  | deleteExpense i =>
    exact { h with
      expenses := h.expenses.erase _, expenseKeys := forall_rows_erase h.expenseKeys i }
  | saveSettlement s =>
    exact { h with
      settlements := h.settlements.put _ _
      settlementKeys := forall_rows_put h.settlementKeys rfl }

/-- Proper writes keep contents in order. -/
lemma Orderly.writeAll (h : c.Orderly) {ws : List Write} (hws : ∀ w ∈ ws, w.Proper) :
    (c.writeAll ws).Orderly := by
  induction ws generalizing c with
  | nil => exact h
  | cons w ws ih =>
    rw [writeAll_cons]
    exact ih (h.write (hws w List.mem_cons_self)) fun x hx => hws x (List.mem_cons_of_mem _ hx)

end Memory.Contents

/-- A store shows groups under their identifiers and with nobody a member twice, and no open expense
twice. -/
structure View.Orderly (v : View) : Prop where
  groupId : ∀ i g, v.group i = .ok (some g) → g.id = i
  members : ∀ i g, v.group i = .ok (some g) → (g.members.map (·.id)).Nodup
  expenses : ∀ i es, v.unsettled i = .ok (some es) → (es.map (·.id)).Nodup

/-- Contents in order are shown in order. -/
lemma Memory.Contents.Orderly.view {m : Memory} (h : m.contents.Orderly) : m.view.Orderly where
  groupId _ _ hg := h.group_id ((Memory.view_group_eq_ok_iff ..).mp hg).2
  members _ _ hg := h.members_nodup ((Memory.view_group_eq_ok_iff ..).mp hg).2
  expenses _ _ hes := h.nodup_unsettled hes

end Store

/-! ## The writes of commands -/

namespace Command

/-- The groups that commands save: a new one, one that somebody has joined, or one in which somebody
has another colour. -/
inductive SavedGroup (v : View) (o : Occasion) : Group → Prop
  | founded (u : User) (name : String) (color : Color) :
      SavedGroup v o ⟨o.ids 0, name, u.id, o.now, [.ofUser (o.ids 0) u true color o.now]⟩
  | joined {group : Id} {g : Group} (loaded : v.group group = .ok (some g)) {u : User}
      (outside : g.isMember u.id = false) (color : Color) :
      SavedGroup v o (g.withMember (.ofUser g.id u false color o.now))
  | recolored {group : Id} {g : Group} (loaded : v.group group = .ok (some g)) (user : Id)
      (color : Color) : SavedGroup v o (g.withColor user color)

/-- A command saves no group, or a single group and nothing else. -/
lemma Planned.saveGroup_cases {v : View} {o : Occasion} {c : Command} {p : Plan}
    (h : Planned v o c p) :
    (∀ g, .saveGroup g ∉ p.writes) ∨ ∃ g, p.writes = [.saveGroup g] ∧ SavedGroup v o g := by
  cases h with
  | createGroup picked found named => exact .inr ⟨_, rfl, .founded _ _ _⟩
  | joinGroup picked found loaded outside => exact .inr ⟨_, rfl, .joined loaded outside _⟩
  | changeColor picked loaded member => exact .inr ⟨_, rfl, .recolored loaded _ _⟩
  | @register name email hash u created new =>
    rcases credentialWrites_cases u.email hash with hw | ⟨x, hw⟩ <;> simp [hw]
  | _ => simp

/-- The writes of commands are proper, given that the store shows groups in order. -/
lemma Planned.proper_of_view {v : View} {o : Occasion} {c : Command} {p : Plan}
    (h : Planned v o c p) (hv : v.Orderly) : ∀ w ∈ p.writes, w.Proper := by
  rcases h.saveGroup_cases with no | ⟨g, hg, saved⟩
  · intro w hw
    cases w with
    | saveGroup g => exact absurd hw (no g)
    | _ => trivial
  · intro w hw
    rw [hg] at hw
    obtain rfl := List.mem_singleton.mp hw
    cases saved with
    | founded u name color => exact List.nodup_singleton _
    | @joined group g loaded u outside color =>
      have new := Group.notMem_ids_of_isMember_eq_false outside
      simp only [Write.Proper, Group.withMember, List.map_append, List.map_cons, List.map_nil]
      exact List.Nodup.append (hv.members _ _ loaded) (List.nodup_singleton _)
        (by simpa [Member.ofUser] using new)
    | recolored loaded user color =>
      simp only [Write.Proper, Group.withColor, Group.ids_setColor]
      exact hv.members _ _ loaded

/-- The writes of commands are proper. -/
lemma Planned.proper {m : Memory} {o : Occasion} {c : Command} {p : Plan}
    (h : Planned m.view o c p) (hm : m.contents.Orderly) : ∀ w ∈ p.writes, w.Proper :=
  h.proper_of_view hm.view

end Command

end CommonPurse
