import CommonPurse.Proofs.Group.Roster
import CommonPurse.Proofs.Relational.Written

/-!
# Rosters in tables

A group that is saved is written row by row: its own row, and one for each of its members. Rows of
members that are not in the copy that is saved stay. So what is stored afterwards is the roster of
that copy laid over the one that was stored before.

## Main definitions

* `CommonPurse.Store.Relational.Database.Peopled` — members have colours, and groups to be in.
* `CommonPurse.Store.Relational.merged` — one colour laid over another.

## Main results

* `CommonPurse.Store.Relational.roster_eq_some_iff` — rosters are read from the rows of members.
* `CommonPurse.Store.Relational.Written.roster` — what comes of a plan.
-/

namespace CommonPurse.Store.Relational

/-- The members in the tables have colours, and the groups that they are in are there. -/
structure Database.Peopled (d : Database) : Prop where
  colored : ∀ i u row, d.row? (.member i u) = some (some (.member i u row)) →
    ∃ c : Color, row.color = c.text
  housed : ∀ i u row, d.row? (.member i u) = some (some row) →
    ∃ own, d.row? (.group i) = some (some own)

/-- The colour that a saved copy gives a member, or else the one that is stored. -/
def merged (new stored : Option Color) : Option Color := new.or stored

lemma Database.peopled_empty : Database.empty.Peopled := by
  constructor <;> intro i u row h <;> cases h

/-! ## Rosters are read from rows -/

lemma color_text_injective {c c' : Color} (h : c.text = c'.text) : c = c' := by
  have parsed := Color.parse_text c
  rw [h, Color.parse_text] at parsed
  exact (Except.ok.inj parsed).symm

/-- Rows in which the colours are colours are read as members, whose rows they are. -/
lemma exists_membersOf (group : Id) {rows : List (Id × MemberRow)}
    (colored : ∀ r ∈ rows, ∃ c : Color, r.2.color = c.text) :
    ∃ ms, membersOf group rows = .ok ms ∧ rows = ms.map fun m => (m.id, memberRow m) := by
  induction rows with
  | nil => exact ⟨[], rfl, rfl⟩
  | cons r rest ih =>
    obtain ⟨user, row⟩ := r
    obtain ⟨⟨c, hc⟩, others⟩ := List.forall_mem_cons.mp colored
    obtain ⟨ms, hms, hrest⟩ := ih others
    let m : Member := ⟨user, group, row.name, row.email, row.isAdmin, c, row.joinedAt⟩
    have color : row.color = c.text := hc
    have first : memberOf group user row = .ok m := by
      simp only [memberOf, color, Color.parse_text]
      rfl
    have same : memberRow m = row := by
      simp only [memberRow, m, ← color]
    refine ⟨m :: ms, by simp only [membersOf, first, hms, Except.map], ?_⟩
    rw [List.map_cons, ← hrest, same]

variable {r r' : Relational} {d d' : Database}

/-- The members of a group are read from their rows, one from each. -/
lemma exists_readMembers (h : d.Tidy) (hp : d.Peopled) (i : Id) :
    ∃ t ms, d.members = some t ∧ membersOf i (Database.membersOf t i) = .ok ms ∧
      (ms.map (·.id)).Nodup ∧
        ∀ u row, d.row? (.member i u) = some (some (.member i u row)) ↔
          ∃ m ∈ ms, m.id = u ∧ memberRow m = row := by
  obtain ⟨us, cs, vs, gs, t, xs, ss, ls, hd⟩ := h.whole.complete
  have table : d.members = some t := by rw [hd]
  have stored : ∀ u row, d.row? (.member i u) = some (some (.member i u row)) ↔
      (u, row) ∈ Database.membersOf t i := by
    intro u row
    rw [(perm_membersOf t i).mem_iff, mem_memberRows_iff (h.members t table)]
    cases hg : t.get? (i, u) <;> simp [Database.row?, table, hg]
  have colored : ∀ x ∈ Database.membersOf t i, ∃ c : Color, x.2.color = c.text := by
    intro x hx
    exact hp.colored i x.1 x.2 ((stored x.1 x.2).mpr hx)
  obtain ⟨ms, read, rows⟩ := exists_membersOf i colored
  refine ⟨t, ms, table, read, ?_, ?_⟩
  · rw [ids_of_membersOf read]
    exact nodup_membersOf (h.members t table) i
  · intro u row
    rw [stored, rows]
    simp

/-- **The roster of a group is read from the rows of its members.** -/
theorem roster_eq_some_iff (h : r.database.Tidy) (hp : r.database.Peopled) (i u : Id) (c : Color) :
    (view r).roster i u = some c ↔
      ∃ row, r.database.row? (.member i u) = some (some (.member i u row)) ∧
        row.color = c.text := by
  obtain ⟨t, ms, table, read, once, stored⟩ := exists_readMembers h hp i
  constructor
  · intro hc
    unfold View.roster at hc
    split at hc
    · next g hg =>
      obtain ⟨own, t', ms', -, ht', read', rfl⟩ :=
        (findGroup_eq_some_iff h.whole.complete i g).mp hg
      obtain rfl := Option.some.inj (table.symm.trans ht')
      obtain rfl := Except.ok.inj (read.symm.trans read')
      obtain ⟨m, found, rfl⟩ := Option.map_eq_some_iff.mp hc
      obtain ⟨mem, rfl⟩ := (Group.find?_members_eq_some_iff once u m).mp found
      exact ⟨memberRow m, (stored m.id _).mpr ⟨m, mem, rfl, rfl⟩, rfl⟩
    · cases hc
  · rintro ⟨row, hrow, hc⟩
    obtain ⟨own, hown⟩ := hp.housed i u _ hrow
    have group : ∃ x, own = .group i x := by
      have key := h.whole.keyed _ _ hown
      cases own <;> cases key
      exact ⟨_, rfl⟩
    obtain ⟨x, rfl⟩ := group
    have found : (view r).group i = .ok (some ⟨i, x.name, x.adminId, x.createdAt, ms⟩) :=
      (findGroup_eq_some_iff h.whole.complete i _).mpr ⟨x, t, ms, hown, table, read, rfl⟩
    obtain ⟨m, mem, rfl, rfl⟩ := (stored u row).mp hrow
    have same : m.color = c := color_text_injective hc
    have member := (Group.find?_members_eq_some_iff once m.id m).mpr ⟨mem, rfl⟩
    rw [View.roster, found]
    show ((ms.find? (·.id = m.id)).map (·.color)) = some c
    rw [member, ← same]
    rfl

/-! ## Rosters that are written -/

variable {ws : List Write} {e : Event}

/-- The row of a member is saved with a group that the member is in. -/
lemma saveGroup_of_mem_keys {i u : Id} (h : Key.member i u ∈ (ws.flatMap rowsOf).map Row.key) :
    ∃ g, .saveGroup g ∈ ws ∧ g.id = i ∧ ∃ m ∈ g.members, m.id = u := by
  obtain ⟨row, hr, hk⟩ := List.mem_map.mp h
  obtain ⟨w, hw, hr⟩ := List.mem_flatMap.mp hr
  cases w with
  | saveGroup g =>
    rcases List.mem_cons.mp hr with rfl | hr
    · cases hk
    · obtain ⟨m, hm, rfl⟩ := List.mem_map.mp hr
      obtain ⟨hi, hu⟩ := Key.member.inj hk
      exact ⟨g, hw, hi, m, hm, hu⟩
  | saveUser x => rw [List.mem_singleton.mp hr] at hk; cases hk
  | saveCredential email hash => rw [List.mem_singleton.mp hr] at hk; cases hk
  | saveExpense x => rw [List.mem_singleton.mp hr] at hk; cases hk
  | saveSettlement x => rw [List.mem_singleton.mp hr] at hk; cases hk
  | _ => cases hr

/-- A member of a group that is saved is in the tables, with the same colour. -/
lemma Written.row?_member (h : Written ws e d d') {g : Group} (saves : .saveGroup g ∈ ws)
    {m : Member} (hm : m ∈ g.members) :
    ∃ row, d'.row? (.member g.id m.id) = some (some (.member g.id m.id row)) ∧
      row.color = m.color.text := by
  have mem : Row.member g.id m.id (memberRow m) ∈ ws.flatMap rowsOf :=
    List.mem_flatMap.mpr ⟨_, saves, List.mem_cons_of_mem _ (List.mem_map_of_mem hm)⟩
  obtain ⟨kept, keeps, found⟩ := h.saved _ mem
  obtain rfl := Option.some.inj keeps
  exact ⟨_, found, rfl⟩

/-- So is the group. -/
lemma Written.row?_group (h : Written ws e d d') {g : Group} (saves : .saveGroup g ∈ ws) :
    ∃ own, d'.row? (.group g.id) = some (some own) := by
  have mem : Row.group g.id ⟨g.name, g.adminId, g.createdAt⟩ ∈ ws.flatMap rowsOf :=
    List.mem_flatMap.mpr ⟨_, saves, List.mem_cons_self⟩
  obtain ⟨kept, -, found⟩ := h.saved _ mem
  exact ⟨kept, found⟩

/-- A member that nothing is written about is in the tables as before, unless the group is closed. -/
lemma Written.row?_member_of_others (h : Written ws e d d') {i u : Id}
    (others : Key.member i u ∉ (ws.flatMap rowsOf).map Row.key) :
    d'.row? (.member i u) = if .deleteGroup i ∈ ws then some none else d.row? (.member i u) := by
  rw [h.others _ others (by simp) (by simp)]
  have same : (ws.any (·.deletes (.member i u))) = true ↔ .deleteGroup i ∈ ws := by
    rw [List.any_eq_true]
    constructor
    · rintro ⟨w, hw, hd⟩
      cases w with
      | deleteGroup j =>
        obtain rfl : i = j := by simpa [Write.deletes, Key.isMemberOf] using hd
        exact hw
      | _ => simp [Write.deletes] at hd
    · exact fun hw => ⟨_, hw, by simp [Write.deletes, Key.isMemberOf]⟩
  by_cases closed : .deleteGroup i ∈ ws
  · rw [if_pos (same.mpr closed), if_pos closed]
  · rw [if_neg fun hd => closed (same.mp hd), if_neg closed]

/-- What is written keeps tables peopled. -/
lemma Database.Peopled.written (hp : d.Peopled) (h : Written ws e d d') : d'.Peopled where
  colored i u row hr := by
    by_cases saved : Key.member i u ∈ (ws.flatMap rowsOf).map Row.key
    · obtain ⟨g, hg, rfl, m, hm, rfl⟩ := saveGroup_of_mem_keys saved
      obtain ⟨row', found, color⟩ := h.row?_member hg hm
      rw [found] at hr
      cases hr
      exact ⟨m.color, color⟩
    · rw [h.row?_member_of_others saved] at hr
      split_ifs at hr
      · cases hr
      · exact hp.colored i u row hr
  housed i u row hr := by
    by_cases saved : Key.member i u ∈ (ws.flatMap rowsOf).map Row.key
    · obtain ⟨g, hg, rfl, -⟩ := saveGroup_of_mem_keys saved
      exact h.row?_group hg
    · rw [h.row?_member_of_others saved] at hr
      split_ifs at hr with closed
      · cases hr
      obtain ⟨own, hown⟩ := hp.housed i u row hr
      by_cases group : Key.group i ∈ (ws.flatMap rowsOf).map Row.key
      · obtain ⟨x, hx, key⟩ := List.mem_map.mp group
        obtain ⟨kept, -, found⟩ := h.saved x hx
        exact ⟨kept, key ▸ found⟩
      · refine ⟨own, ?_⟩
        rw [h.others _ group (by simp) (by simp), if_neg, hown]
        intro hd
        obtain ⟨w, hw, hd⟩ := List.any_eq_true.mp hd
        cases w with
        | deleteGroup j =>
          obtain rfl : i = j := by simpa [Write.deletes, Key.isMemberOf] using hd
          exact closed hw
        | _ => simp [Write.deletes] at hd

/-- **What comes of a plan**: the rosters that its writes lead to, where the roster of a group that is
saved is laid over the one that is stored. -/
theorem Written.roster {p : Plan} (hp : p.Enrolling e)
    (h : Written p.writes e r.database r'.database) (tidy : r.database.Tidy)
    (peopled : r.database.Peopled) :
    (view r').roster = p.writes.foldl (Write.enroll merged) (view r).roster := by
  have after := roster_eq_some_iff h.tidy (peopled.written h)
  have before := roster_eq_some_iff tidy peopled
  have stays : ∀ i u, Key.member i u ∉ (p.writes.flatMap rowsOf).map Row.key →
      .deleteGroup i ∉ p.writes → (view r').roster i u = (view r).roster i u := by
    intro i u others standing
    ext c
    rw [after, before, h.row?_member_of_others others, if_neg standing]
  funext i u
  cases hp with
  | elsewhere others silent open_ =>
    rw [Write.foldl_enroll others]
    apply stays
    · intro hk
      obtain ⟨g, hg, -⟩ := saveGroup_of_mem_keys hk
      exact others _ hg rfl
    · exact fun hd => others _ hd rfl
  | saved g writes tells open_ =>
    have standing : .deleteGroup i ∉ p.writes := by simp [writes]
    rw [writes]
    show _ = if i = g.id then merged (g.roster u) ((view r).roster i u) else (view r).roster i u
    split_ifs with own
    · subst own
      cases hm : g.member? u with
      | some m =>
        have mem := List.mem_of_find?_eq_some hm
        obtain rfl := Group.id_of_member? hm
        obtain ⟨row, found, color⟩ := h.row?_member (writes ▸ List.mem_singleton_self _) mem
        rw [Group.roster, hm]
        exact (after g.id m.id m.color).mpr ⟨row, found, color⟩
      | none =>
        rw [Group.roster, hm]
        refine stays g.id u (fun hk => ?_) standing
        obtain ⟨g', hg', -, m, hmem, hid⟩ := saveGroup_of_mem_keys hk
        rw [writes, List.mem_singleton] at hg'
        obtain rfl := Write.saveGroup.inj hg'
        exact absurd (List.find?_eq_none.mp hm m hmem) (by simp [hid])
    · refine stays i u (fun hk => ?_) standing
      obtain ⟨g', hg', hid, -⟩ := saveGroup_of_mem_keys hk
      rw [writes, List.mem_singleton] at hg'
      obtain rfl := Write.saveGroup.inj hg'
      exact own hid.symm
  | closed j writes silent closes =>
    have others : Key.member i u ∉ (p.writes.flatMap rowsOf).map Row.key := by
      simp [writes, rowsOf]
    rw [writes]
    show _ = if i = j then none else (view r).roster i u
    split_ifs with same
    · cases hc : (view r').roster i u with
      | none => rfl
      | some c =>
        obtain ⟨row, found, -⟩ := (after i u c).mp hc
        rw [h.row?_member_of_others others, if_pos (by simp [writes, same])] at found
        cases found
    · refine stays i u others ?_
      rw [writes, List.mem_singleton]
      exact fun hd => same (Write.deleteGroup.inj hd)

end CommonPurse.Store.Relational
