import CommonPurse.Proofs.Store.Orderly

/-!
# Who is a member, and in which colour

The roster of a group gives each of its members a colour. A store shows the roster of every group,
and the log of events tells of it as well: of founders, of those who have joined, and of everybody
who has changed colour. A command that changes a roster saves a whole group, but its event tells of
one member only.

## Main definitions

* `CommonPurse.Group.roster`, `CommonPurse.Store.View.roster` — the roster of a group.
* `CommonPurse.Event.color?`, `CommonPurse.toldColor` — the colour that an event or a log tells of.
* `CommonPurse.Store.Write.enroll` — the rosters after a write.
* `CommonPurse.Plan.Enrolling` — what plans write about groups and what their events tell of it.

## Main results

* `CommonPurse.toldColor_append_singleton` — what a log tells of with one more event.
* `CommonPurse.Command.Planned.enrolling` — the plans of commands in view of rosters.
-/

namespace CommonPurse

open CommonPurse.Store

/-! ## Rosters -/

namespace Group

/-- The colour of a member; nobody else has one. -/
def roster (g : Group) (user : Id) : Option Color := (g.member? user).map (·.color)

/-- Whoever joins has a colour. -/
lemma roster_withMember {g : Group} {m : Member} (outside : g.isMember m.id = false) :
    (g.withMember m).roster m.id = some m.color := by
  have absent : g.members.find? (·.id = m.id) = none := by
    have new := notMem_ids_of_isMember_eq_false outside
    rw [List.find?_eq_none]
    intro x hx heq
    exact new ((decide_eq_true_eq.mp heq) ▸ List.mem_map_of_mem hx)
  rw [roster, member?, withMember, List.find?_append, absent]
  simp

lemma find?_setColor (user : Id) (color : Color) (members : List Member) :
    (setColor user color members).find? (·.id = user) =
      (members.find? (·.id = user)).map fun m => { m with color := color } := by
  induction members with
  | nil => rfl
  | cons m rest ih =>
    unfold setColor
    by_cases hm : m.id = user
    · simp [hm]
    · simp [hm, ih]

/-- A member whose colour is changed has the new one. -/
lemma roster_withColor {g : Group} {user : Id} {m : Member} (member : g.member? user = some m)
    (color : Color) : (g.withColor user color).roster user = some color := by
  rw [member?] at member
  rw [roster, member?, withColor, find?_setColor, member]
  rfl

end Group

/-- The roster of a group, as a store shows it. -/
def Store.View.roster (v : View) (group user : Id) : Option Color :=
  match v.group group with
  | .ok (some g) => g.roster user
  | _ => none

/-- The rosters after a write, given what becomes of a colour that a saved group has and of the one
that is stored. -/
def Store.Write.enroll (combine : Option Color → Option Color → Option Color)
    (rosters : Id → Id → Option Color) : Write → Id → Id → Option Color
  | .saveGroup g => fun i user =>
    if i = g.id then combine (g.roster user) (rosters i user) else rosters i user
  | .deleteGroup j => fun i user => if i = j then none else rosters i user
  | _ => rosters

/-- Writes to other collections leave rosters alone. -/
lemma Store.Write.foldl_enroll {combine : Option Color → Option Color → Option Color}
    {ws : List Write} (h : ∀ w ∈ ws, w.repository ≠ .groups) (rosters : Id → Id → Option Color) :
    ws.foldl (Write.enroll combine) rosters = rosters := by
  induction ws with
  | nil => rfl
  | cons w ws ih =>
    have same : Write.enroll combine rosters w = rosters := by
      have other := h w List.mem_cons_self
      cases w <;> first | rfl | exact absurd rfl other
    rw [List.foldl_cons, same]
    exact ih fun x hx => h x (List.mem_cons_of_mem _ hx)

/-! ## What events tell of -/

/-- The colour of whoever acts, as far as the action tells of it. -/
def GroupAction.color? : GroupAction → Option Color
  | .created _ c => some c
  | .joined c => some c
  | .colorChanged _ c => some c
  | _ => none

namespace Event

/-- The colour of a member that an event tells of. -/
def color? (e : Event) (group user : Id) : Option Color :=
  match e.subject with
  | .group g m action => if g = group ∧ m = user then action.color? else none
  | .account _ _ => none

/-- Whether an event tells of the end of a group. -/
def closes (e : Event) (group : Id) : Bool :=
  match e.subject with
  | .group g _ .deleted => g = group
  | _ => false

end Event

/-- The colour of a member that a log tells of last. -/
def toldColor (log : List Event) (group user : Id) : Option Color :=
  (log.filterMap (·.color? group user)).getLast?

@[simp] lemma toldColor_nil (group user : Id) : toldColor [] group user = none := rfl

/-- The last event goes before the others. -/
lemma toldColor_append_singleton (log : List Event) (e : Event) (group user : Id) :
    toldColor (log ++ [e]) group user = (e.color? group user).or (toldColor log group user) := by
  rw [toldColor, List.filterMap_append, List.getLast?_append]
  cases h : e.color? group user <;> simp [h, toldColor]

/-! ## Plans in view of rosters -/

/-- What a plan writes about groups, and what its event tells of it: nothing at all; or a group in
which everybody of whom the event tells has the colour of which it tells; or the end of a group. -/
inductive Plan.Enrolling (p : Plan) (e : Event) : Prop
  | elsewhere (others : ∀ w ∈ p.writes, w.repository ≠ .groups)
      (silent : ∀ i user, e.color? i user = none) (open_ : ∀ i, e.closes i = false)
  | saved (g : Group) (writes : p.writes = [.saveGroup g])
      (tells : ∀ i user c, e.color? i user = some c → i = g.id ∧ g.roster user = some c)
      (open_ : ∀ i, e.closes i = false)
  | closed (i : Id) (writes : p.writes = [.deleteGroup i])
      (silent : ∀ i user, e.color? i user = none) (closes : e.closes i = true)

/-- An event that tells of the colour of one member. -/
lemma Event.tells_of_one {id : Id} {now : Timestamp} {group member : Id} {action : GroupAction}
    {g : Group} {c : Color} (own : group = g.id) (told : action.color? = some c)
    (colored : g.roster member = some c) :
    ∀ i user x, color? ⟨id, now, .group group member action⟩ i user = some x →
      i = g.id ∧ g.roster user = some x := by
  intro i user x hx
  simp only [color?] at hx
  split_ifs at hx with same
  obtain ⟨rfl, rfl⟩ := same
  rw [told] at hx
  exact ⟨own, colored.trans hx⟩

/-- **The plans of commands in view of rosters**, given that the store shows groups in order. -/
lemma Command.Planned.enrolling {v : View} {o : Occasion} {c : Command} {p : Plan}
    (h : Planned v o c p) (hv : v.Orderly) : ∃ e, p.events = [e] ∧ p.Enrolling e := by
  cases h with
  | @register name email hash u created new =>
    refine ⟨_, rfl, .elsewhere ?_ (fun _ _ => rfl) fun _ => rfl⟩
    rcases credentialWrites_cases u.email hash with h | ⟨x, h⟩ <;> simp [h, Write.repository]
  | @createGroup user name color c u n picked found named =>
    refine ⟨_, rfl, .saved _ rfl (Event.tells_of_one rfl rfl ?_) fun _ => rfl⟩
    simp [Group.roster, Group.member?, Member.ofUser]
  | @joinGroup user group color c u g picked found loaded outside =>
    refine ⟨_, rfl, .saved _ rfl (Event.tells_of_one rfl rfl ?_) fun _ => rfl⟩
    exact Group.roster_withMember outside
  | @changeColor user group color c g m picked loaded member =>
    refine ⟨_, rfl, .saved _ rfl (Event.tells_of_one rfl rfl ?_) fun _ => rfl⟩
    exact Group.roster_withColor member c
  | @deleteGroup user group g loaded admin =>
    refine ⟨_, rfl, .closed group rfl (fun i user => ?_) ?_⟩
    · simp [Event.color?, GroupAction.color?]
    · simp [Event.closes, hv.groupId group g loaded]
  | @settle user group g es last ts loaded open_ latest admin balanced =>
    refine ⟨_, rfl, .elsewhere ?_ (fun i user => ?_) fun _ => rfl⟩
    · simp [Write.repository]
    · simp [Event.color?, GroupAction.color?]
  | _ =>
    refine ⟨_, rfl, .elsewhere (by simp [Write.repository]) (fun i user => ?_) fun _ => rfl⟩
    simp [Event.color?, GroupAction.color?, User.record]

end CommonPurse
