import CommonPurse.Proofs.Command.Planned
import Mathlib.Tactic.SplitIfs

/-!
# Why requests have no answer

Everything that can stop a command or a query, beside the ways in which the request itself is at
fault: a read fails, hashes cannot be compared, an amount has too many digits, a settlement finds no
transfers, or times cannot be put in order.

## Main definitions

* `CommonPurse.Problem.Client` — the client is told that the request is at fault.
* `CommonPurse.Store.View.Fails` — a read fails.
* `CommonPurse.Stop.Ordinary` — the two reasons that every request can meet.
* `CommonPurse.Command.Stops`, `CommonPurse.Query.Stops` — all reasons, for each kind of request.

## Main results

* `CommonPurse.Command.stops_of_plan`, `CommonPurse.Query.stops_of_answer` — there are no others.
-/

namespace CommonPurse

open CommonPurse.Store

/-! ## Hashes -/

/-- A text of ASCII. Hashes are compared only when they are such texts. -/
def Plain (x : String) : Prop := ∀ c ∈ x.toList, c.toNat < 128

instance (x : String) : Decidable (Plain x) :=
  List.decidableBAll (fun c : Char => c.toNat < 128) x.toList

lemma sameHash_eq (x y : String) :
    sameHash x y =
      if Plain x ∧ Plain y then .ok (x == y) else .error (.refused .unreadableHash) := by
  have both : ((x.toList.all fun c => c.toNat < 128) && (y.toList.all fun c => c.toNat < 128)) =
      decide (Plain x ∧ Plain y) := by
    rw [Bool.eq_iff_iff, Bool.and_eq_true, List.all_eq_true, List.all_eq_true, decide_eq_true_iff]
    simp [Plain]
  simp only [sameHash, both, decide_eq_true_eq]

/-! ## Problems -/

/-- The client is told that the request is at fault. -/
structure Problem.Client (p : Problem) : Prop where
  kind : p.kind ∈ [.notFound, .validation, .unauthorized, .forbidden, .conflict]
  status : p.status = Problem.statusOf p.kind

namespace Problem

/-- The status does not tell of a failure of the service. -/
lemma Client.toNat_status_ne {p : Problem} (h : p.Client) : p.status.toNat ≠ 500 := by
  rw [h.status]
  have kinds := h.kind
  revert kinds
  cases p.kind <;> decide

lemma client_notFound (detail type : String) : (notFound detail type).Client :=
  ⟨by simp [notFound, ofKind], rfl⟩

lemma client_validation (detail : String) (extra : List (String × Json)) :
    (validation detail extra).Client :=
  ⟨by simp [validation, ofKind], rfl⟩

lemma client_unauthorized (detail : String) : (unauthorized detail).Client :=
  ⟨by simp [unauthorized, ofKind], rfl⟩

lemma client_forbidden (detail : String) (extra : List (String × Json)) :
    (forbidden detail extra).Client :=
  ⟨by simp [forbidden, ofKind], rfl⟩

lemma client_conflict (detail : String) (type : Option String) (extra : List (String × Json)) :
    (conflict detail type extra).Client :=
  ⟨by simp [conflict, ofKind], rfl⟩

end Problem

/-- A name is refused because of the request. -/
lemma Entry.client_of_name {value : Option String} {field : String} {p : Problem}
    (h : name value field = .error p) : p.Client := by
  unfold name at h
  split at h
  · split at h
    · rw [← Except.error.inj h]
      exact Problem.client_validation ..
    · cases h
  · rw [← Except.error.inj h]
    exact Problem.client_validation ..

/-- So is an address. -/
lemma Entry.client_of_email {value : Option String} {p : Problem} (h : email value = .error p) :
    p.Client := by
  unfold email at h
  split at h
  · rw [← Except.error.inj h]
    exact Problem.client_validation ..
  · split at h
    · rw [← Except.error.inj h]
      exact Problem.client_validation ..
    · cases h

/-- So is an amount, unless it has too many digits. -/
lemma Entry.client_of_amount {value : String} {p : Problem}
    (h : amount value = .error (.problem p)) : p.Client := by
  unfold amount refusedAmount at h
  split at h
  · cases h
    exact Problem.client_validation ..
  · split at h
    · split at h
      · cases h
      · split at h
        · cases h
        · cases h
          exact Problem.client_validation ..
    · cases h
      exact Problem.client_validation ..

/-- So is a colour. -/
lemma Color.client_of_parse {text : Option String} {p : Problem} (h : parse text = .error p) :
    p.Client := by
  have client : ∀ detail value, (refused detail value).Client := fun _ _ =>
    Problem.client_validation ..
  unfold parse at h
  split at h
  · cases h
  · split at h
    · cases h
    · unfold parseParts at h
      split at h
      · split at h
        · split at h
          · cases h
          · exact Except.error.inj h ▸ client ..
        · exact Except.error.inj h ▸ client ..
      · exact Except.error.inj h ▸ client ..

/-! ## Reads that fail -/

/-- A read of the store, of those that requests make, fails with an error. -/
inductive Store.View.Fails (v : View) (e : Error) : Prop
  | user (i : Id) (h : v.user i = .error e)
  | userByEmail (address : String) (h : v.userByEmail address = .error e)
  | credential (address : String) (h : v.credential address = .error e)
  | group (i : Id) (h : v.group i = .error e)
  | expense (i : Id) (h : v.expense i = .error e)
  | unsettled (i : Id) (h : v.unsettled i = .error e)
  | lastSettlement (i : Id) (h : v.lastSettlement i = .error e)

/-- The two reasons that every request can meet: a read fails, or the request is at fault. -/
inductive Stop.Ordinary (v : View) : Stop → Prop
  | unreadable {operation : String} {e : Error} (fails : v.Fails e) :
      Ordinary v (.unreadable operation e)
  | refused {p : Problem} (client : p.Client) : Ordinary v (.refused (.problem p))

lemma read_eq_error_iff {α : Type} (operation : String) (x : Except Error α) (s : Stop) :
    read operation x = .error s ↔ ∃ e, x = .error e ∧ s = .unreadable operation e := by
  cases x <;> simp [read, eq_comm]

lemma ordinary_of_loadUser {v : View} {operation : String} {user : Id} {s : Stop}
    (h : loadUser v operation user = .error s) : s.Ordinary v := by
  unfold loadUser at h
  split at h
  next e failed =>
    rw [← Except.error.inj h]
    exact .unreadable (.user user failed)
  next =>
    rw [← Except.error.inj h]
    exact .refused (Problem.client_notFound ..)
  next => cases h

lemma ordinary_of_loadGroup {v : View} {group : Id} {s : Stop}
    (h : loadGroup v group = .error s) : s.Ordinary v := by
  unfold loadGroup at h
  split at h
  next e failed =>
    rw [← Except.error.inj h]
    exact .unreadable (.group group failed)
  next =>
    rw [← Except.error.inj h]
    exact .refused (Problem.client_notFound ..)
  next => cases h

lemma ordinary_of_readColor {v : View} {text : Option String} {s : Stop}
    (h : readColor text = .error s) : s.Ordinary v := by
  unfold readColor at h
  split at h
  next => cases h
  next p refused =>
    rw [← Except.error.inj h]
    exact .refused (Color.client_of_parse refused)

/-- A list without an order is refused for that reason, and for no other. -/
lemma ordered_eq_error_iff {α : Type} (x : Option α) (s : Stop) :
    ordered x = .error s ↔ x = none ∧ s = .refused .unordered := by
  cases x <;> simp [ordered, eq_comm]

/-! ## Reasons -/

/-- The reasons for which commands have no plan. -/
inductive Command.Stops (v : View) : Command → Stop → Prop
  | ordinary {c : Command} {s : Stop} (h : s.Ordinary v) : Stops v c s
  | hash {email : Option String} {hash address stored : String} {u : User}
      (valid : Entry.email email = .ok address)
      (credential : v.credential address = .ok (some stored))
      (found : v.userByEmail address = .ok (some u)) (foreign : ¬ (Plain stored ∧ Plain hash)) :
      Stops v (.login email hash) (.refused .unreadableHash)
  | newAmount {user group : Id} {title amount : String} {f : Decimal.Fault}
      (faulty : Entry.amount amount = .error (.arithmetic f)) :
      Stops v (.createExpense user group title amount) (.refused (.arithmetic f))
  | otherAmount {user group expense : Id} {title amount : String} {f : Decimal.Fault}
      (faulty : Entry.amount amount = .error (.arithmetic f)) :
      Stops v (.updateExpense user group expense title amount) (.refused (.arithmetic f))
  | endless {user group expense : Id} {title amount : String} {old : Expense}
      (found : v.expense expense = .ok (some old)) (endless : old.amount.isFinite = false) :
      Stops v (.updateExpense user group expense title amount) (.refused .unrecordable)
  | unordered {user group : Id}
      (times : v.unsettled group = .ok none ∨ v.lastSettlement group = .ok none) :
      Stops v (.settle user group) (.refused .unordered)
  | balance {user group : Id} {g : Group} {es : List Expense} {f : Balance.Failure}
      (loaded : v.group group = .ok (some g)) (open_ : v.unsettled group = .ok (some es))
      (failed : Balance.transfers (es.map Settlement.paymentOf) (g.members.map (·.id)) =
        .error f) :
      Stops v (.settle user group) (.refused (.unsettleable f))

/-- The reasons for which queries have no answer. -/
inductive Query.Stops (v : View) : Query → Stop → Prop
  | ordinary {q : Query} {s : Stop} (h : s.Ordinary v) : Stops v q s
  | unordered {user group i : Id} (times : v.unsettled i = .ok none) :
      Stops v (.expenses user group) (.refused .unordered)

lemma Group.client_of_requireMember {g : Group} {user : Id} {p : Problem}
    (h : g.requireMember user = .error p) : p.Client := by
  unfold requireMember at h
  split at h
  · cases h
  · rw [← Except.error.inj h]
    exact Problem.client_forbidden ..

namespace OpenGroup

lemma client_of_requireAdmin {w : OpenGroup} {user : Id} {p : Problem}
    (h : w.requireAdmin user = .error p) : p.Client := by
  unfold requireAdmin at h
  split at h
  · cases h
  · rw [← Except.error.inj h]
    exact Problem.client_forbidden ..

lemma client_of_editable {w : OpenGroup} {user : Id} {expense : Option Expense} {p : Problem}
    (h : w.editable user expense = .error p) : p.Client := by
  unfold editable at h
  split at h
  next refused =>
    rw [← Except.error.inj h]
    exact Group.client_of_requireMember refused
  next =>
    split at h
    · cases h
      exact Problem.client_notFound ..
    · split_ifs at h <;> cases h
      · exact Problem.client_notFound ..
      · exact Problem.client_forbidden ..
      · exact Problem.client_conflict ..

end OpenGroup

lemma User.client_of_register {o : Occasion} {name email : Option String} {p : Problem}
    (h : User.register o name email = .error p) : p.Client := by
  unfold User.register User.create at h
  cases hn : Entry.name name "name" with
  | error q =>
    simp only [hn, Except.map, Except.error.injEq] at h
    exact h ▸ Entry.client_of_name hn
  | ok n =>
    cases he : Entry.email email with
    | error q =>
      simp only [hn, he, Except.map, Except.error.injEq] at h
      exact h ▸ Entry.client_of_email he
    | ok e => simp [hn, he, Except.map] at h

/-! ## Commands -/

namespace Command

variable {v : View} {o : Occasion} {s : Stop}

/-- A request that is at fault. -/
lemma Stops.of_client {c : Command} {p : Problem} (h : p.Client) : Stops v c (.problem p) :=
  .ordinary (.refused h)

lemma stops_of_planRegister {name email hash : Option String}
    (h : planRegister v o name email hash = .error s) :
    Stops v (.register name email hash) s := by
  unfold planRegister at h
  cases hr : User.register o name email with
  | error p =>
    simp only [hr, Except.error.injEq] at h
    exact h ▸ .of_client (User.client_of_register hr)
  | ok r =>
    simp only [hr, bind_eq_error_iff, read_eq_error_iff, read_eq_ok_iff] at h
    rcases h with ⟨e, failed, rfl⟩ | ⟨found, -, h⟩
    · exact .ordinary (.unreadable (.userByEmail _ failed))
    · cases found with
      | some x =>
        rw [← Except.error.inj h]
        exact .of_client (Problem.client_conflict ..)
      | none => cases h

lemma stops_of_planLogin {email : Option String} {hash : String}
    (h : planLogin v o email hash = .error s) : Stops v (.login email hash) s := by
  unfold planLogin at h
  cases he : Entry.email email with
  | error p =>
    simp only [he, Except.error.injEq] at h
    exact h ▸ .of_client (Entry.client_of_email he)
  | ok address =>
    simp only [he, bind_eq_error_iff, read_eq_error_iff, read_eq_ok_iff] at h
    rcases h with ⟨e, failed, rfl⟩ | ⟨stored, credential, h⟩
    · exact .ordinary (.unreadable (.credential _ failed))
    rcases h with ⟨e, failed, rfl⟩ | ⟨account, found, h⟩
    · exact .ordinary (.unreadable (.userByEmail _ failed))
    have invalid : Stops v (.login email hash) (.problem (.unauthorized "Invalid credentials")) :=
      .of_client (Problem.client_unauthorized _)
    rcases stored with _ | stored
    · exact Except.error.inj h ▸ invalid
    rcases account with _ | u
    · exact Except.error.inj h ▸ invalid
    simp only [sameHash_eq, bind_eq_error_iff] at h
    by_cases plain : Plain stored ∧ Plain hash
    · simp only [if_pos plain, reduceCtorEq, false_or] at h
      obtain ⟨same, -, h⟩ := h
      split at h
      · cases h
      · exact Except.error.inj h ▸ invalid
    · simp only [if_neg plain, Except.error.injEq, reduceCtorEq, false_and, exists_false,
        or_false] at h
      exact h ▸ .hash he credential found plain

lemma stops_of_planLogout {user : Id} (h : planLogout v o user = .error s) :
    Stops v (.logout user) s := by
  simp only [planLogout, bind_eq_error_iff, reduceCtorEq, and_false, exists_false, or_false] at h
  exact .ordinary (ordinary_of_loadUser h)

lemma stops_of_planDeleteUser {user : Id} (h : planDeleteUser v o user = .error s) :
    Stops v (.deleteUser user) s := by
  simp only [planDeleteUser, bind_eq_error_iff, reduceCtorEq, and_false, exists_false,
    or_false] at h
  exact .ordinary (ordinary_of_loadUser h)

lemma stops_of_planCreateGroup {user : Id} {name : String} {color : Option String}
    (h : planCreateGroup v o user name color = .error s) :
    Stops v (.createGroup user name color) s := by
  simp only [planCreateGroup, bind_eq_error_iff] at h
  rcases h with h | ⟨c, -, h | ⟨u, -, h⟩⟩
  · exact .ordinary (ordinary_of_readColor h)
  · exact .ordinary (ordinary_of_loadUser h)
  · unfold OpenGroup.create at h
    cases hn : Entry.name (some name) "name" with
    | error p =>
      simp only [hn, Except.map, Except.error.injEq] at h
      exact h ▸ .of_client (Entry.client_of_name hn)
    | ok n => simp [hn, Except.map] at h

lemma stops_of_planJoinGroup {user group : Id} {color : Option String}
    (h : planJoinGroup v o user group color = .error s) :
    Stops v (.joinGroup user group color) s := by
  simp only [planJoinGroup, bind_eq_error_iff] at h
  rcases h with h | ⟨c, -, h | ⟨u, -, h | ⟨w, -, h | ⟨r, -, h⟩⟩⟩⟩
  · exact .ordinary (ordinary_of_readColor h)
  · exact .ordinary (ordinary_of_loadUser h)
  · exact .ordinary (ordinary_of_loadGroup h)
  · unfold OpenGroup.addMember at h
    split at h
    · rw [← Except.error.inj h]
      exact .of_client (Problem.client_conflict ..)
    · cases h
  · cases h

lemma stops_of_planChangeColor {user group : Id} {color : Option String}
    (h : planChangeColor v o user group color = .error s) :
    Stops v (.changeColor user group color) s := by
  simp only [planChangeColor, bind_eq_error_iff] at h
  rcases h with h | ⟨c, -, h | ⟨w, -, h | ⟨r, -, h⟩⟩⟩
  · exact .ordinary (ordinary_of_readColor h)
  · exact .ordinary (ordinary_of_loadGroup h)
  · unfold OpenGroup.changeColor at h
    split at h
    next refused =>
      rw [← Except.error.inj h]
      exact .of_client (Group.client_of_requireMember refused)
    next => cases h
  · cases h

lemma stops_of_planCreateExpense {user group : Id} {title amount : String}
    (h : planCreateExpense v o user group title amount = .error s) :
    Stops v (.createExpense user group title amount) s := by
  simp only [planCreateExpense, bind_eq_error_iff] at h
  rcases h with h | ⟨w, -, h | ⟨r, -, h⟩⟩
  · exact .ordinary (ordinary_of_loadGroup h)
  · unfold OpenGroup.addExpense Expense.create at h
    cases hm : w.group.requireMember user with
    | error p =>
      simp only [hm, accepted, Except.error.injEq] at h
      exact h ▸ .of_client (Group.client_of_requireMember hm)
    | ok m =>
      cases ht : Entry.name (some title) "title" with
      | error p =>
        simp only [hm, ht, accepted, Except.error.injEq] at h
        exact h ▸ .of_client (Entry.client_of_name ht)
      | ok t =>
        cases ha : Entry.amount amount with
        | error r =>
          simp only [hm, ht, ha, accepted, Except.error.injEq] at h
          cases r with
          | problem p => exact h ▸ .of_client (Entry.client_of_amount ha)
          | arithmetic f => exact h ▸ .newAmount ha
        | ok a => simp [hm, ht, ha, accepted] at h
  · cases h

lemma stops_of_planUpdateExpense {user group expense : Id} {title amount : String}
    (h : planUpdateExpense v o user group expense title amount = .error s) :
    Stops v (.updateExpense user group expense title amount) s := by
  simp only [planUpdateExpense, bind_eq_error_iff, read_eq_error_iff] at h
  rcases h with h | ⟨w, -, ⟨e, failed, rfl⟩ | ⟨old, found, h⟩⟩
  · exact .ordinary (ordinary_of_loadGroup h)
  · exact .ordinary (.unreadable (.expense _ failed))
  · unfold OpenGroup.updateExpense Expense.revise at h
    cases he : w.editable user old with
    | error p =>
      simp only [he, Except.error.injEq] at h
      exact h ▸ .of_client (OpenGroup.client_of_editable he)
    | ok e =>
      cases ht : Entry.name (some title) "title" with
      | error p =>
        simp only [he, ht, Except.error.injEq] at h
        exact h ▸ .of_client (Entry.client_of_name ht)
      | ok t =>
        cases ha : Entry.amount amount with
        | error r =>
          simp only [he, ht, ha, Except.error.injEq] at h
          cases r with
          | problem p => exact h ▸ .of_client (Entry.client_of_amount ha)
          | arithmetic f => exact h ▸ .otherAmount ha
        | ok a =>
          obtain ⟨rfl, -⟩ := (OpenGroup.editable_eq_ok_iff ..).mp he
          cases finite : e.amount.isFinite with
          | true => simp [he, ht, ha, finite] at h
          | false =>
            obtain rfl : .refused .unrecordable = s := by simpa [he, ht, ha, finite] using h
            exact .endless ((read_eq_ok_iff ..).mp found) finite

lemma stops_of_planDeleteExpense {user group expense : Id}
    (h : planDeleteExpense v o user group expense = .error s) :
    Stops v (.deleteExpense user group expense) s := by
  simp only [planDeleteExpense, bind_eq_error_iff, read_eq_error_iff] at h
  rcases h with h | ⟨w, -, ⟨e, failed, rfl⟩ | ⟨old, -, h | ⟨r, -, h⟩⟩⟩
  · exact .ordinary (ordinary_of_loadGroup h)
  · exact .ordinary (.unreadable (.expense _ failed))
  · unfold OpenGroup.deleteExpense at h
    cases he : w.editable user old with
    | error p =>
      simp only [he, accepted, Except.error.injEq] at h
      exact h ▸ .of_client (OpenGroup.client_of_editable he)
    | ok e => simp [he, accepted] at h
  · cases h

lemma stops_of_planDeleteGroup {user group : Id} (h : planDeleteGroup v o user group = .error s) :
    Stops v (.deleteGroup user group) s := by
  simp only [planDeleteGroup, bind_eq_error_iff] at h
  rcases h with h | ⟨w, -, h | ⟨r, -, h⟩⟩
  · exact .ordinary (ordinary_of_loadGroup h)
  · unfold OpenGroup.delete at h
    cases hadm : w.requireAdmin user with
    | error p =>
      simp only [hadm, accepted, Except.error.injEq] at h
      exact h ▸ .of_client (OpenGroup.client_of_requireAdmin hadm)
    | ok r => simp [hadm, accepted] at h
  · cases h

/-- A settlement fails exactly when no transfers are found. -/
lemma settlement_eq_error_iff (id groupId : Id) (start : Option Timestamp) (now : Timestamp)
    (es : List Expense) (members : List Id) (f : Balance.Failure) :
    Settlement.create id groupId start now es members = .error f ↔
      Balance.transfers (es.map Settlement.paymentOf) members = .error f := by
  unfold Settlement.create
  cases Balance.transfers (es.map Settlement.paymentOf) members <;> simp [Except.map]

lemma stops_of_planSettle {user group : Id} (h : planSettle v o user group = .error s) :
    Stops v (.settle user group) s := by
  simp only [planSettle, bind_eq_error_iff, read_eq_error_iff, read_eq_ok_iff,
    ordered_eq_error_iff, ordered_eq_ok_iff, loadGroup_eq_ok_iff] at h
  rcases h with h | ⟨w, ⟨g, loaded, rfl⟩, h⟩
  · exact .ordinary (ordinary_of_loadGroup h)
  rcases h with ⟨e, failed, rfl⟩ | ⟨found, opened, h⟩
  · exact .ordinary (.unreadable (.unsettled _ failed))
  rcases h with ⟨rfl, rfl⟩ | ⟨es, rfl, h⟩
  · exact .unordered (.inl opened)
  rcases h with ⟨e, failed, rfl⟩ | ⟨found, latest, h⟩
  · exact .ordinary (.unreadable (.lastSettlement _ failed))
  rcases h with ⟨rfl, rfl⟩ | ⟨last, rfl, h⟩
  · exact .unordered (.inr latest)
  unfold OpenGroup.settle at h
  cases hadm : (OpenGroup.ofGroup g).requireAdmin user with
  | error p =>
    simp only [hadm, Except.error.injEq] at h
    exact h ▸ .of_client (OpenGroup.client_of_requireAdmin hadm)
  | ok r =>
    simp only [hadm] at h
    cases hc : Settlement.create (o.ids 0) (OpenGroup.ofGroup g).group.id (last.map (·.finish))
        o.now es ((OpenGroup.ofGroup g).group.members.map (·.id)) with
    | ok made => simp [hc] at h
    | error f =>
      simp only [hc, Except.error.injEq] at h
      exact h ▸ .balance loaded opened ((settlement_eq_error_iff ..).mp hc)

/-- **A command that has no plan has none for one of the reasons.** -/
theorem stops_of_plan {c : Command} (h : c.plan v o = .error s) : Stops v c s := by
  cases c with
  | register name email hash => exact stops_of_planRegister h
  | login email hash => exact stops_of_planLogin h
  | logout user => exact stops_of_planLogout h
  | deleteUser user => exact stops_of_planDeleteUser h
  | createGroup user name color => exact stops_of_planCreateGroup h
  | joinGroup user group color => exact stops_of_planJoinGroup h
  | changeColor user group color => exact stops_of_planChangeColor h
  | createExpense user group title amount => exact stops_of_planCreateExpense h
  | updateExpense user group expense title amount => exact stops_of_planUpdateExpense h
  | deleteExpense user group expense => exact stops_of_planDeleteExpense h
  | settle user group => exact stops_of_planSettle h
  | deleteGroup user group => exact stops_of_planDeleteGroup h

end Command

/-! ## Queries -/

namespace Query

variable {v : View} {s : Stop}

lemma ordinary_of_groupFor {user group : Id} (h : groupFor v user group = .error s) :
    s.Ordinary v := by
  simp only [groupFor, bind_eq_error_iff] at h
  rcases h with h | ⟨w, -, h⟩
  · exact ordinary_of_loadGroup h
  · split at h
    next refused =>
      rw [← Except.error.inj h]
      exact .refused (Group.client_of_requireMember refused)
    next => cases h

lemma map_eq_error_iff {ε α β : Type} (x : Except ε α) (f : α → β) (e : ε) :
    x.map f = .error e ↔ x = .error e := by
  cases x <;> simp [Except.map]

/-- **A query that has no answer has none for one of the reasons.** -/
theorem stops_of_answer {q : Query} (h : q.answer v = .error s) : Stops v q s := by
  cases q with
  | user u => exact .ordinary (ordinary_of_loadUser ((map_eq_error_iff ..).mp h))
  | group u g => exact .ordinary (ordinary_of_groupFor ((map_eq_error_iff ..).mp h))
  | expenses u g =>
    simp only [answer, bind_eq_error_iff, read_eq_error_iff, read_eq_ok_iff,
      ordered_eq_error_iff] at h
    rcases h with h | ⟨found, -, ⟨e, failed, rfl⟩ | ⟨es, opened, ⟨rfl, rfl⟩ | ⟨r, -, h⟩⟩⟩
    · exact .ordinary (ordinary_of_groupFor h)
    · exact .ordinary (.unreadable (.unsettled _ failed))
    · exact .unordered opened
    · cases h

end Query

end CommonPurse
