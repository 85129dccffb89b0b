import CommonPurse.Command
import CommonPurse.Proofs.Fallible
import CommonPurse.Proofs.Group.Change

/-!
# What commands lead to

For every kind of command, what the store has to show for the command not to be refused, and
everything that it then leads to. Whatever is said about commands elsewhere is read off this list.

## Main definitions

* `CommonPurse.Command.credentialWrites` — what is written about the hash of a new account.
* `CommonPurse.Command.Planned` — the commands that are not refused, with their plans.

## Main results

* `CommonPurse.Command.plan_eq_ok_iff` — a command leads to a plan exactly when the list says so.
* `CommonPurse.Command.Planned.events_eq_singleton` — every plan has exactly one event.
-/

namespace CommonPurse

open CommonPurse.Store

/-! ## Reading -/

lemma read_eq_ok_iff {α : Type} (operation : String) (x : Except Error α) (a : α) :
    read operation x = .ok a ↔ x = .ok a := by
  cases x <;> simp [read]

lemma loadUser_eq_ok_iff (v : View) (operation : String) (user : Id) (u : User) :
    loadUser v operation user = .ok u ↔ v.user user = .ok (some u) := by
  unfold loadUser
  rcases v.user user with e | _ | u <;> simp

lemma loadGroup_eq_ok_iff (v : View) (group : Id) (w : OpenGroup) :
    loadGroup v group = .ok w ↔ ∃ g, v.group group = .ok (some g) ∧ w = .ofGroup g := by
  unfold loadGroup
  rcases v.group group with e | _ | g <;> simp [eq_comm]

lemma ordered_eq_ok_iff {α : Type} (x : Option α) (a : α) : ordered x = .ok a ↔ x = some a := by
  cases x <;> simp [ordered]

lemma readColor_eq_ok_iff (text : Option String) (c : Color) :
    readColor text = .ok c ↔ Color.parse text = .ok c := by
  unfold readColor
  cases Color.parse text <;> simp

lemma accepted_eq_ok_iff {α : Type} (r : Except Refusal α × OpenGroup) (a : α) (w : OpenGroup) :
    accepted r = .ok (a, w) ↔ r = (.ok a, w) := by
  rcases r with ⟨e | b, w'⟩ <;> simp [accepted]

lemma register_eq_ok_iff (o : Occasion) (name email : Option String) (u : User) (e : Event) :
    User.register o name email = .ok (u, e) ↔
      User.create o name email = .ok u ∧
        e = u.record (o.ids 1) o.now (.created u.name u.email) := by
  unfold User.register
  cases User.create o name email with
  | error p => simp [Except.map]
  | ok u' =>
    simp only [Except.map, Except.ok.injEq, Prod.mk.injEq]
    constructor <;> (rintro ⟨rfl, rfl⟩; exact ⟨rfl, rfl⟩)

namespace Command

/-- What is written about the hash of a new account: an empty hash counts as none. -/
def credentialWrites (email : String) : Option String → List Write
  | some hash => if hash.isEmpty then [] else [.saveCredential email hash]
  | none => []

/-- Nothing is written about a hash, or the hash itself. -/
lemma credentialWrites_cases (email : String) (hash : Option String) :
    credentialWrites email hash = [] ∨
      ∃ x, credentialWrites email hash = [.saveCredential email x] := by
  cases hash with
  | none => exact .inl rfl
  | some x =>
    rw [credentialWrites]
    cases x.isEmpty
    · exact .inr ⟨x, rfl⟩
    · exact .inl rfl

/-! ## The commands that are not refused -/

/-- The commands that are not refused, with what the store shows about them and what they lead
to. -/
inductive Planned (v : View) (o : Occasion) : Command → Plan → Prop
  | register {name email hash : Option String} {u : User}
      (created : User.create o name email = .ok u) (new : v.userByEmail u.email = .ok none) :
      Planned v o (.register name email hash)
        ⟨"register", .saveUser u :: credentialWrites u.email hash,
          [u.record (o.ids 1) o.now (.created u.name u.email)], .user u, none,
          [.info "User registered" [("user_id", .text u.id.text)]], 2⟩
  | login {email : Option String} {hash address stored : String} {u : User}
      (valid : Entry.email email = .ok address)
      (credential : v.credential address = .ok (some stored))
      (found : v.userByEmail address = .ok (some u)) (same : sameHash stored hash = .ok true) :
      Planned v o (.login email hash)
        ⟨"login", [], [u.record (o.ids 0) o.now .loggedIn], .user u, none, [], 1⟩
  | logout {user : Id} {u : User} (found : v.user user = .ok (some u)) :
      Planned v o (.logout user)
        ⟨"logout", [], [u.record (o.ids 0) o.now .loggedOut], .done, some user, [], 1⟩
  | deleteUser {user : Id} {u : User} (found : v.user user = .ok (some u)) :
      Planned v o (.deleteUser user)
        ⟨"delete_user", [.deleteCredential u.email, .deleteUser u.id],
          [u.record (o.ids 0) o.now .deleted], .done, some user,
          [.info "User deleted" [("user_id", .text user.text)]], 1⟩
  | createGroup {user : Id} {name : String} {color : Option String} {c : Color} {u : User}
      {n : String} (picked : Color.parse color = .ok c) (found : v.user user = .ok (some u))
      (named : Entry.name (some name) "name" = .ok n) :
      Planned v o (.createGroup user name color)
        ⟨"create_group",
          [.saveGroup ⟨o.ids 0, n, u.id, o.now, [.ofUser (o.ids 0) u true c o.now]⟩],
          [⟨o.ids 1, o.now, .group (o.ids 0) u.id (.created n c)⟩],
          .group ⟨o.ids 0, n, u.id, o.now, [.ofUser (o.ids 0) u true c o.now]⟩, none,
          [.info "Group created"
            [("group_id", .text (o.ids 0).text), ("user_id", .text user.text)]], 2⟩
  | joinGroup {user group : Id} {color : Option String} {c : Color} {u : User} {g : Group}
      (picked : Color.parse color = .ok c) (found : v.user user = .ok (some u))
      (loaded : v.group group = .ok (some g)) (outside : g.isMember u.id = false) :
      Planned v o (.joinGroup user group color)
        ⟨"join_group", [.saveGroup (g.withMember (.ofUser g.id u false c o.now))],
          [⟨o.ids 0, o.now, .group g.id u.id (.joined c)⟩],
          .member (.ofUser g.id u false c o.now), none, [], 1⟩
  | changeColor {user group : Id} {color : Option String} {c : Color} {g : Group} {m : Member}
      (picked : Color.parse color = .ok c) (loaded : v.group group = .ok (some g))
      (member : g.member? user = some m) :
      Planned v o (.changeColor user group color)
        ⟨"change_member_color", [.saveGroup (g.withColor user c)],
          [⟨o.ids 0, o.now, .group g.id user (.colorChanged m.color c)⟩],
          .member { m with color := c }, none, [], 1⟩
  | createExpense {user group : Id} {title amount : String} {g : Group} {e : Expense}
      (loaded : v.group group = .ok (some g)) (member : (g.member? user).isSome)
      (created : Expense.create (o.ids 0) g.id user o.now title amount = .ok e) :
      Planned v o (.createExpense user group title amount)
        ⟨"create_expense", [.saveExpense e],
          [⟨o.ids 1, o.now, .group g.id user
            (.expenseCreated e.id e.title e.amount e.createdAt)⟩], .expense e, none, [], 2⟩
  | updateExpense {user group expense : Id} {title amount : String} {g : Group} {old : Expense}
      {t : String} {a : Decimal} (loaded : v.group group = .ok (some g))
      (found : v.expense expense = .ok (some old))
      (editable : (OpenGroup.ofGroup g).Editable user old)
      (titled : Entry.name (some title) "title" = .ok t) (priced : Entry.amount amount = .ok a)
      (finite : old.amount.isFinite = true) :
      Planned v o (.updateExpense user group expense title amount)
        ⟨"update_expense",
          [.saveExpense { old with title := t, amount := a, modifiedAt := some o.now }],
          [⟨o.ids 0, o.now, .group g.id user (.expenseModified old.id old.title t old.amount a)⟩],
          .expense { old with title := t, amount := a, modifiedAt := some o.now }, none, [], 1⟩
  | deleteExpense {user group expense : Id} {g : Group} {old : Expense}
      (loaded : v.group group = .ok (some g)) (found : v.expense expense = .ok (some old))
      (editable : (OpenGroup.ofGroup g).Editable user old) :
      Planned v o (.deleteExpense user group expense)
        ⟨"delete_expense", [.deleteExpense old.id],
          [⟨o.ids 0, o.now, .group g.id user (.expenseDeleted old.id)⟩], .done, none, [], 1⟩
  | settle {user group : Id} {g : Group} {es : List Expense} {last : Option Settlement}
      {ts : List Transfer} (loaded : v.group group = .ok (some g))
      (open_ : v.unsettled group = .ok (some es))
      (latest : v.lastSettlement group = .ok (some last)) (admin : g.isAdmin user = true)
      (balanced : Balance.transfers (es.map Settlement.paymentOf) (g.members.map (·.id)) = .ok ts) :
      Planned v o (.settle user group)
        ⟨"settle",
          .saveSettlement
            ⟨o.ids 0, g.id, last.map (·.finish), o.now, ts, es.map (·.id)⟩ ::
            (es.map (·.settle)).map .saveExpense,
          [⟨o.ids 1, o.now, .group g.id user
            (.settled (o.ids 0) (last.map (·.finish)) o.now ts)⟩],
          .settlement ⟨o.ids 0, g.id, last.map (·.finish), o.now, ts, es.map (·.id)⟩, none,
          [.info "Group settled" [("group_id", .text group.text),
            ("transactions", .integer ts.length)]], 2⟩
  | deleteGroup {user group : Id} {g : Group} (loaded : v.group group = .ok (some g))
      (admin : g.isAdmin user = true) :
      Planned v o (.deleteGroup user group)
        ⟨"delete_group", [.deleteGroup group], [⟨o.ids 0, o.now, .group g.id user .deleted⟩],
          .done, none, [.info "Group deleted" [("group_id", .text group.text)]], 1⟩

/-! ## Plans of the single commands -/

variable {v : View} {o : Occasion} {p : Plan}

lemma planned_of_planRegister {name email hash : Option String}
    (h : planRegister v o name email hash = .ok p) :
    Planned v o (.register name email hash) p := by
  unfold planRegister at h
  cases hr : User.register o name email with
  | error e => simp [hr] at h
  | ok r =>
    obtain ⟨u, e⟩ := r
    obtain ⟨hc, rfl⟩ := (register_eq_ok_iff ..).mp hr
    simp only [hr, bind_eq_ok_iff, read_eq_ok_iff] at h
    obtain ⟨found, hf, h⟩ := h
    cases found with
    | some x => simp at h
    | none =>
      cases h
      exact .register hc hf

lemma planned_of_planLogin {email : Option String} {hash : String}
    (h : planLogin v o email hash = .ok p) : Planned v o (.login email hash) p := by
  unfold planLogin at h
  cases he : Entry.email email with
  | error e => simp [he] at h
  | ok address =>
    simp only [he, bind_eq_ok_iff, read_eq_ok_iff] at h
    obtain ⟨stored, hs, found, hf, h⟩ := h
    rcases stored with _ | stored
    · simp at h
    rcases found with _ | u
    · simp at h
    simp only [bind_eq_ok_iff] at h
    obtain ⟨same, hm, h⟩ := h
    cases same with
    | false => simp at h
    | true =>
      cases h
      exact .login he hs hf hm

lemma planned_of_planLogout {user : Id} (h : planLogout v o user = .ok p) :
    Planned v o (.logout user) p := by
  simp only [planLogout, bind_eq_ok_iff, loadUser_eq_ok_iff] at h
  obtain ⟨u, hu, h⟩ := h
  cases h
  exact .logout hu

lemma planned_of_planDeleteUser {user : Id} (h : planDeleteUser v o user = .ok p) :
    Planned v o (.deleteUser user) p := by
  simp only [planDeleteUser, bind_eq_ok_iff, loadUser_eq_ok_iff] at h
  obtain ⟨u, hu, h⟩ := h
  cases h
  exact .deleteUser hu

lemma planned_of_planCreateGroup {user : Id} {name : String} {color : Option String}
    (h : planCreateGroup v o user name color = .ok p) :
    Planned v o (.createGroup user name color) p := by
  simp only [planCreateGroup, bind_eq_ok_iff, loadUser_eq_ok_iff, readColor_eq_ok_iff] at h
  obtain ⟨c, hc, u, hu, h⟩ := h
  cases hw : OpenGroup.create o name u c with
  | error e => simp [hw] at h
  | ok w =>
    obtain ⟨n, hn, rfl⟩ := (OpenGroup.create_eq_ok_iff ..).mp hw
    rw [hw] at h
    cases h
    exact .createGroup hc hu hn

lemma planned_of_planJoinGroup {user group : Id} {color : Option String}
    (h : planJoinGroup v o user group color = .ok p) :
    Planned v o (.joinGroup user group color) p := by
  simp only [planJoinGroup, bind_eq_ok_iff, loadUser_eq_ok_iff, loadGroup_eq_ok_iff,
    readColor_eq_ok_iff] at h
  obtain ⟨c, hc, u, hu, _, ⟨g, hg, rfl⟩, ⟨m, w⟩, hm, h⟩ := h
  obtain ⟨hout, rfl, rfl⟩ :=
    (OpenGroup.addMember_eq_ok_iff ..).mp ((accepted_eq_ok_iff ..).mp hm)
  cases h
  exact .joinGroup hc hu hg hout

lemma planned_of_planChangeColor {user group : Id} {color : Option String}
    (h : planChangeColor v o user group color = .ok p) :
    Planned v o (.changeColor user group color) p := by
  simp only [planChangeColor, bind_eq_ok_iff, loadGroup_eq_ok_iff, readColor_eq_ok_iff] at h
  obtain ⟨c, hc, _, ⟨g, hg, rfl⟩, ⟨m, w⟩, hm, h⟩ := h
  obtain ⟨old, hold, rfl, rfl⟩ :=
    (OpenGroup.changeColor_eq_ok_iff ..).mp ((accepted_eq_ok_iff ..).mp hm)
  cases h
  exact .changeColor hc hg hold

lemma planned_of_planCreateExpense {user group : Id} {title amount : String}
    (h : planCreateExpense v o user group title amount = .ok p) :
    Planned v o (.createExpense user group title amount) p := by
  simp only [planCreateExpense, bind_eq_ok_iff, loadGroup_eq_ok_iff] at h
  obtain ⟨_, ⟨g, hg, rfl⟩, ⟨e, w⟩, he, h⟩ := h
  obtain ⟨hm, hc, rfl⟩ :=
    (OpenGroup.addExpense_eq_ok_iff ..).mp ((accepted_eq_ok_iff ..).mp he)
  cases h
  exact .createExpense hg hm hc

lemma planned_of_planUpdateExpense {user group expense : Id} {title amount : String}
    (h : planUpdateExpense v o user group expense title amount = .ok p) :
    Planned v o (.updateExpense user group expense title amount) p := by
  simp only [planUpdateExpense, bind_eq_ok_iff, loadGroup_eq_ok_iff, read_eq_ok_iff] at h
  obtain ⟨_, ⟨g, hg, rfl⟩, old, hold, h⟩ := h
  split at h
  · cases h
  · next e w x hu =>
    obtain ⟨old', t, a, rfl, hed, ht, ha, finite, rfl, rfl, rfl⟩ :=
      (OpenGroup.updateExpense_eq_ok_iff ..).mp hu
    cases h
    exact .updateExpense hg hold hed ht ha finite

lemma planned_of_planDeleteExpense {user group expense : Id}
    (h : planDeleteExpense v o user group expense = .ok p) :
    Planned v o (.deleteExpense user group expense) p := by
  simp only [planDeleteExpense, bind_eq_ok_iff, loadGroup_eq_ok_iff, read_eq_ok_iff] at h
  obtain ⟨_, ⟨g, hg, rfl⟩, old, hold, ⟨e, w⟩, he, h⟩ := h
  obtain ⟨rfl, hed, rfl⟩ :=
    (OpenGroup.deleteExpense_eq_ok_iff ..).mp ((accepted_eq_ok_iff ..).mp he)
  cases h
  exact .deleteExpense hg hold hed

lemma planned_of_planSettle {user group : Id} (h : planSettle v o user group = .ok p) :
    Planned v o (.settle user group) p := by
  simp only [planSettle, bind_eq_ok_iff, loadGroup_eq_ok_iff, read_eq_ok_iff,
    ordered_eq_ok_iff] at h
  obtain ⟨_, ⟨g, hg, rfl⟩, _, hes, es, rfl, _, hlast, last, rfl, h⟩ := h
  split at h
  · cases h
  · next s w es' hs =>
    obtain ⟨hadm, ts, hts, rfl, rfl, rfl⟩ := (OpenGroup.settle_eq_ok_iff ..).mp hs
    cases h
    exact .settle hg hes hlast hadm hts

lemma planned_of_planDeleteGroup {user group : Id} (h : planDeleteGroup v o user group = .ok p) :
    Planned v o (.deleteGroup user group) p := by
  simp only [planDeleteGroup, bind_eq_ok_iff, loadGroup_eq_ok_iff] at h
  obtain ⟨_, ⟨g, hg, rfl⟩, ⟨r, w⟩, hr, h⟩ := h
  obtain ⟨hadm, rfl⟩ := (OpenGroup.delete_eq_ok_iff ..).mp ((accepted_eq_ok_iff ..).mp hr)
  cases h
  exact .deleteGroup hg hadm

/-! ## All commands -/

/-- A command that is not refused leads to what the list says. -/
theorem planned_of_plan {c : Command} (h : c.plan v o = .ok p) : Planned v o c p := by
  cases c with
  | register name email hash => exact planned_of_planRegister h
  | login email hash => exact planned_of_planLogin h
  | logout user => exact planned_of_planLogout h
  | deleteUser user => exact planned_of_planDeleteUser h
  | createGroup user name color => exact planned_of_planCreateGroup h
  | joinGroup user group color => exact planned_of_planJoinGroup h
  | changeColor user group color => exact planned_of_planChangeColor h
  | createExpense user group title amount => exact planned_of_planCreateExpense h
  | updateExpense user group expense title amount => exact planned_of_planUpdateExpense h
  | deleteExpense user group expense => exact planned_of_planDeleteExpense h
  | settle user group => exact planned_of_planSettle h
  | deleteGroup user group => exact planned_of_planDeleteGroup h

/-- Every command on the list leads to the plan that stands there. -/
theorem plan_of_planned {c : Command} (h : Planned v o c p) : c.plan v o = .ok p := by
  cases h with
  | register created new =>
    have hr := (register_eq_ok_iff ..).mpr ⟨created, rfl⟩
    simp only [plan, planRegister, hr, bind_eq_ok_iff, read_eq_ok_iff]
    exact ⟨none, new, rfl⟩
  | login valid credential found same =>
    simp only [plan, planLogin, valid, bind_eq_ok_iff, read_eq_ok_iff]
    refine ⟨_, credential, _, found, ?_⟩
    simp only [bind_eq_ok_iff]
    exact ⟨true, same, rfl⟩
  | logout found =>
    simp only [plan, planLogout, bind_eq_ok_iff, loadUser_eq_ok_iff]
    exact ⟨_, found, rfl⟩
  | deleteUser found =>
    simp only [plan, planDeleteUser, bind_eq_ok_iff, loadUser_eq_ok_iff]
    exact ⟨_, found, rfl⟩
  | createGroup picked found named =>
    simp only [plan, planCreateGroup, bind_eq_ok_iff, loadUser_eq_ok_iff, readColor_eq_ok_iff]
    refine ⟨_, picked, _, found, ?_⟩
    rw [(OpenGroup.create_eq_ok_iff ..).mpr ⟨_, named, rfl⟩]
  | joinGroup picked found loaded outside =>
    simp only [plan, planJoinGroup, bind_eq_ok_iff, loadUser_eq_ok_iff, loadGroup_eq_ok_iff,
      readColor_eq_ok_iff]
    exact ⟨_, picked, _, found, _, ⟨_, loaded, rfl⟩, _,
      (accepted_eq_ok_iff ..).mpr
        ((OpenGroup.addMember_eq_ok_iff ..).mpr ⟨outside, rfl, rfl⟩), rfl⟩
  | changeColor picked loaded member =>
    simp only [plan, planChangeColor, bind_eq_ok_iff, loadGroup_eq_ok_iff, readColor_eq_ok_iff]
    exact ⟨_, picked, _, ⟨_, loaded, rfl⟩, _,
      (accepted_eq_ok_iff ..).mpr
        ((OpenGroup.changeColor_eq_ok_iff ..).mpr ⟨_, member, rfl, rfl⟩), rfl⟩
  | createExpense loaded member created =>
    simp only [plan, planCreateExpense, bind_eq_ok_iff, loadGroup_eq_ok_iff]
    exact ⟨_, ⟨_, loaded, rfl⟩, _,
      (accepted_eq_ok_iff ..).mpr
        ((OpenGroup.addExpense_eq_ok_iff ..).mpr ⟨member, created, rfl⟩), rfl⟩
  | updateExpense loaded found editable titled priced finite =>
    simp only [plan, planUpdateExpense, bind_eq_ok_iff, loadGroup_eq_ok_iff, read_eq_ok_iff]
    refine ⟨_, ⟨_, loaded, rfl⟩, _, found, ?_⟩
    rw [(OpenGroup.updateExpense_eq_ok_iff ..).mpr
      ⟨_, _, _, rfl, editable, titled, priced, finite, rfl, rfl, rfl⟩]
    rfl
  | deleteExpense loaded found editable =>
    simp only [plan, planDeleteExpense, bind_eq_ok_iff, loadGroup_eq_ok_iff, read_eq_ok_iff]
    exact ⟨_, ⟨_, loaded, rfl⟩, _, found, _,
      (accepted_eq_ok_iff ..).mpr
        ((OpenGroup.deleteExpense_eq_ok_iff ..).mpr ⟨rfl, editable, rfl⟩), rfl⟩
  | settle loaded open_ latest admin balanced =>
    simp only [plan, planSettle, bind_eq_ok_iff, loadGroup_eq_ok_iff, read_eq_ok_iff,
      ordered_eq_ok_iff]
    refine ⟨_, ⟨_, loaded, rfl⟩, _, open_, _, rfl, _, latest, _, rfl, ?_⟩
    rw [(OpenGroup.settle_eq_ok_iff ..).mpr ⟨admin, _, balanced, rfl, rfl, rfl⟩]
    rfl
  | deleteGroup loaded admin =>
    simp only [plan, planDeleteGroup, bind_eq_ok_iff, loadGroup_eq_ok_iff]
    exact ⟨_, ⟨_, loaded, rfl⟩, ((), _),
      (accepted_eq_ok_iff ..).mpr
        ((OpenGroup.delete_eq_ok_iff ..).mpr ⟨admin, rfl⟩), rfl⟩

/-- **The plans of commands.** A command leads to a plan exactly when the list says so. -/
theorem plan_eq_ok_iff {c : Command} : c.plan v o = .ok p ↔ Planned v o c p :=
  ⟨planned_of_plan, plan_of_planned⟩

/-- Every plan has exactly one event. -/
theorem Planned.events_eq_singleton {c : Command} (h : Planned v o c p) :
    ∃ e : Event, p.events = [e] ∧ e.occurredAt = o.now := by
  cases h <;> exact ⟨_, rfl, rfl⟩

end Command

end CommonPurse
