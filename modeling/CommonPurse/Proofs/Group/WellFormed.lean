import CommonPurse.Proofs.Store.Orderly

/-!
# Groups as they should be

In a group nobody is a member twice, every member belongs to that group, and exactly one member is
marked as administrator, namely the one whom the group names. Founding a group makes it so, and
admitting a member or changing a colour keeps it so. Who is a member can then be asked in three ways
that all answer alike.

## Main definitions

* `CommonPurse.Group.WellFormed` — a group as it should be.

## Main results

* `CommonPurse.Group.WellFormed.withMember`, `CommonPurse.Group.WellFormed.withColor` — changes keep
  groups as they should be.
* `CommonPurse.Group.WellFormed.isMember_iff` — the three ways to ask who is a member.
-/

namespace CommonPurse

namespace Group

/-- The identifiers of the members that are marked as administrators. -/
def admins (members : List Member) : List Id := (members.filter (·.isAdmin)).map (·.id)

/-- A group as it should be: nobody is a member twice, every member belongs to the group, and exactly
one is marked as administrator, who is the one that the group names. -/
structure WellFormed (g : Group) : Prop where
  distinct : (g.members.map (·.id)).Nodup
  own : ∀ m ∈ g.members, m.groupId = g.id
  admin : admins g.members = [g.adminId]

instance (g : Group) : Decidable g.WellFormed :=
  decidable_of_iff ((g.members.map (·.id)).Nodup ∧ (∀ m ∈ g.members, m.groupId = g.id) ∧
    admins g.members = [g.adminId]) ⟨fun h => ⟨h.1, h.2.1, h.2.2⟩, fun h => ⟨h.1, h.2, h.3⟩⟩

/-! ## Members -/

lemma isSome_member?_iff (g : Group) (user : Id) :
    (g.member? user).isSome = true ↔ user ∈ g.members.map (·.id) := by
  simp [member?, List.find?_isSome]

/-- A change of colour concerns neither who is an administrator nor whose group it is. -/
lemma admins_setColor (user : Id) (color : Color) (members : List Member) :
    admins (setColor user color members) = admins members := by
  induction members with
  | nil => rfl
  | cons m rest ih =>
    unfold setColor
    unfold admins at ih ⊢
    split
    · simp only [List.filter_cons]
      split <;> rfl
    · simp only [List.filter_cons]
      split
      · rw [List.map_cons, List.map_cons, ih]
      · exact ih

lemma map_groupId_withColor (g : Group) (user : Id) (color : Color) :
    (g.withColor user color).members.map (·.groupId) = g.members.map (·.groupId) :=
  map_setColor user color (fun _ => rfl) g.members

lemma own_withColor {g : Group} (own : ∀ m ∈ g.members, m.groupId = g.id) (user : Id)
    (color : Color) : ∀ m ∈ (g.withColor user color).members, m.groupId = g.id := by
  have groups : ∀ i ∈ g.members.map (·.groupId), i = g.id := List.forall_mem_map.mpr own
  rw [← g.map_groupId_withColor user color] at groups
  exact fun m hm => groups _ (List.mem_map_of_mem hm)

/-! ## Changes -/

variable {g : Group}

/-- The founder of a group is its only member and its administrator. -/
lemma wellFormed_founded (i : Id) (name : String) (u : User) (color : Color) (now : Timestamp) :
    WellFormed ⟨i, name, u.id, now, [.ofUser i u true color now]⟩ where
  distinct := List.nodup_singleton _
  own m hm := by rw [List.mem_singleton.mp hm, Member.ofUser]
  admin := rfl

/-- Whoever is not yet a member can be admitted. -/
lemma WellFormed.withMember (h : g.WellFormed) {u : User} (outside : g.isMember u.id = false)
    (color : Color) (now : Timestamp) :
    (g.withMember (.ofUser g.id u false color now)).WellFormed where
  distinct := by
    have new := notMem_ids_of_isMember_eq_false outside
    rw [Group.withMember, List.map_append]
    refine h.distinct.append (List.nodup_singleton _) ?_
    intro i hi hi'
    rw [List.mem_singleton.mp hi'] at hi
    exact new hi
  own m hm := by
    rcases List.mem_append.mp hm with hm | hm
    · exact h.own m hm
    · rw [List.mem_singleton.mp hm, Member.ofUser]
      rfl
  admin := by
    have same : admins (g.withMember (.ofUser g.id u false color now)).members =
        admins g.members := by
      simp [Group.withMember, admins, List.filter_append, Member.ofUser]
    rw [same, h.admin]
    rfl

/-- Anybody's colour can be changed. -/
lemma WellFormed.withColor (h : g.WellFormed) (user : Id) (color : Color) :
    (g.withColor user color).WellFormed where
  distinct := by
    rw [Group.withColor, ids_setColor]
    exact h.distinct
  own := own_withColor h.own user color
  admin := by
    rw [Group.withColor, admins_setColor, h.admin]

/-! ## Who is a member -/

lemma WellFormed.adminId_mem (h : g.WellFormed) : g.adminId ∈ g.members.map (·.id) := by
  have listed : g.adminId ∈ admins g.members := by
    rw [h.admin]
    exact List.mem_singleton_self _
  obtain ⟨m, hm, hid⟩ := List.mem_map.mp listed
  rw [← hid]
  exact List.mem_map_of_mem (List.mem_filter.mp hm).1

/-- **Who is a member can be asked in three ways**: whether somebody belongs to the group, which also
looks at the administrator that the group names, whether there is a member with the identifier, and
whether such a member can be required. -/
theorem WellFormed.isMember_iff (h : g.WellFormed) (user : Id) :
    (g.isMember user = true ↔ (g.member? user).isSome = true) ∧
      ((g.member? user).isSome = true ↔ ∃ m, g.requireMember user = .ok m) := by
  constructor
  · rw [isMember, Bool.or_eq_true, isAdmin, beq_iff_eq]
    constructor
    · rintro (rfl | hm)
      · exact (g.isSome_member?_iff _).mpr h.adminId_mem
      · exact hm
    · exact .inr
  · rw [Option.isSome_iff_exists]
    exact exists_congr fun m => (g.requireMember_eq_ok_iff user m).symm

end Group

end CommonPurse
