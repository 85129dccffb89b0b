import CommonPurse.Proofs.Command.Stopped
import CommonPurse.Proofs.History.Settlements
import CommonPurse.Proofs.Relational.Commit

/-!
# Whom a login lets in

Accounts are stored under their identifiers, and hashes under addresses. The two are written by
different commands, and a unit of work may fail between a registration and a deletion. After every
run the hash that is stored under the address of an account is the one that was given when this very
account was registered, and no hash is stored under the address of nobody.

## Main definitions

* `CommonPurse.Registration` — an account, as it was registered, with the hash that was given.
* `CommonPurse.World.registrations` — the registrations of a run.
* `CommonPurse.AccountTurn` — what a move does to accounts and credentials.
* `CommonPurse.Keyed` — accounts and credentials fit to registrations.
* `CommonPurse.World.LoginExact` — what is wanted of a login after a run.

## Main results

* `CommonPurse.World.keyed_run` — accounts and credentials fit to the registrations of every run.
* `CommonPurse.World.loginExact_run` — after every run a login does what is wanted.
-/

namespace CommonPurse

open CommonPurse.Store CommonPurse.Store.Memory

/-! ## Registrations -/

/-- An account as it was registered, and the hash that was given for it. -/
structure Registration where
  user : User
  hash : Option String
  deriving DecidableEq, Repr

namespace Registration

/-- The hash that is kept of a registration: an empty one counts as none. -/
def credential? (r : Registration) : Option String := r.hash.filter fun x => !x.isEmpty

lemma credential?_eq_some_iff (r : Registration) (x : String) :
    r.credential? = some x ↔ r.hash = some x ∧ x ≠ "" := by
  simp [credential?, Option.filter_eq_some_iff]

/-- The registration of the account with an identifier: the last one, if there are several. -/
def of? (rs : List Registration) (i : Id) : Option Registration :=
  rs.reverse.find? fun r => r.user.id = i

lemma of?_append_singleton (rs : List Registration) (r : Registration) (i : Id) :
    of? (rs ++ [r]) i = if r.user.id = i then some r else of? rs i := by
  by_cases h : r.user.id = i <;> simp [of?, h]

lemma mem_of_of? {rs : List Registration} {i : Id} {r : Registration} (h : of? rs i = some r) :
    r ∈ rs :=
  List.mem_reverse.mp (List.mem_of_find?_eq_some h)

end Registration

/-- What is written about a hash is what is kept of the registration. -/
lemma Command.credentialWrites_eq (u : User) (hash : Option String) :
    credentialWrites u.email hash =
      (Registration.credential? ⟨u, hash⟩).toList.map (.saveCredential u.email) := by
  cases hash with
  | none => rfl
  | some x =>
    by_cases h : x = "" <;> simp [credentialWrites, Registration.credential?, Option.filter, h]

namespace World

/-- The registration that a move is: a call that returns the new account. -/
def registered (w : World Memory) : Move → List Registration
  | .call o (.register name email hash) =>
    match (({ w with occasion := o } : World Memory).perform Memory.backend
        (.register name email hash)).1 with
    | .ok (.user u) => [⟨u, hash⟩]
    | _ => []
  | _ => []

/-- The registrations of a run, in their order. -/
def registrations (w : World Memory) : List Move → List Registration
  | [] => []
  | m :: ms => w.registered m ++ (w.move m).registrations ms

/-- The hash that is given in a call that registers somebody. -/
def Move.hash? : Move → Option String
  | .call _ (.register _ _ hash) => hash
  | _ => none

lemma hash_of_mem_registered {w : World Memory} {m : Move} {r : Registration}
    (h : r ∈ w.registered m) : m.hash? = r.hash := by
  unfold registered at h
  split at h
  · split at h
    · rw [List.mem_singleton.mp h]
      rfl
    · cases h
  · cases h

/-- The hashes of registrations were given in calls. -/
lemma mem_hashes_of_mem_registrations {w : World Memory} {ms : List Move} {r : Registration}
    (h : r ∈ w.registrations ms) {x : String} (hx : r.hash = some x) :
    x ∈ ms.filterMap Move.hash? := by
  induction ms generalizing w with
  | nil => cases h
  | cons m ms ih =>
    rcases List.mem_append.mp h with here | later
    · exact List.mem_filterMap.mpr
        ⟨m, List.mem_cons_self, (hash_of_mem_registered here).trans hx⟩
    · obtain ⟨n, hn, given⟩ := List.mem_filterMap.mp (ih later)
      exact List.mem_filterMap.mpr ⟨n, List.mem_cons_of_mem _ hn, given⟩

/-! ## What a move does -/

lemma perform_of_accepted {w : World Memory} {c : Command} {p : Plan}
    (h : w.store.accepted? w.occasion c = some p) :
    w.perform Memory.backend c = (.ok p.product, w.concluded p) := by
  obtain ⟨planned, admitted⟩ := (Memory.accepted?_eq_some_iff ..).mp h
  exact (perform_eq_ok_iff ..).mpr ⟨p, planned, admitted, rfl, rfl⟩

lemma registered_of_accepted {w : World Memory} {o : Occasion} {name email hash : Option String}
    {p : Plan} (h : w.store.accepted? o (.register name email hash) = some p) {u : User}
    (returns : p.product = .user u) :
    w.registered (.call o (.register name email hash)) = [⟨u, hash⟩] := by
  have result := perform_of_accepted (w := { w with occasion := o }) h
  simp only [registered, result, returns]

/-- A call that commits nothing registers nobody. -/
lemma registered_of_not_accepted {w : World Memory} {o : Occasion} {c : Command}
    (h : w.store.accepted? o c = none) : w.registered (.call o c) = [] := by
  unfold registered
  split
  · rename_i o name email hash heq
    obtain ⟨rfl, rfl⟩ := Move.call.inj heq
    split
    · rename_i u returns
      obtain ⟨p, planned, admitted, -, -⟩ := (perform_eq_ok_iff ..).mp (Prod.ext returns rfl)
      have taken := (Memory.accepted?_eq_some_iff w.store _ _ p).mpr ⟨planned, admitted⟩
      rw [h] at taken
      cases taken
    · rfl
  · rfl

end World

/-- What a move does to accounts and credentials: nothing; an account is opened, whose identifier
and address are new; or an account is closed, and the credential under its address goes with it. -/
inductive AccountTurn (c c' : Contents) (rs : List Registration) : Prop
  | quiet (users : c'.users = c.users) (credentials : c'.credentials = c.credentials)
      (none : rs = [])
  | opened (r : Registration) (new : c.users.get? r.user.id = Option.none)
      (lower : Text.lower r.user.email = r.user.email)
      (apart : ∀ i u, c.users.get? i = some u → u.email ≠ r.user.email)
      (users : c'.users = c.users.put r.user.id r.user)
      (credentials : ∀ k, c'.credentials.get? k =
        if r.user.email = k then r.credential?.or (c.credentials.get? k)
        else c.credentials.get? k)
      (one : rs = [r])
  | closed (u : User) (found : c.users.get? u.id = some u)
      (users : c'.users = c.users.erase u.id)
      (credentials : c'.credentials = c.credentials.erase (Text.lower u.email)) (none : rs = [])

/-- Nobody has an address under which the store finds nobody. -/
lemma Store.Memory.apart_of_view {m : Memory} {e : String} (lower : Text.lower e = e)
    (new : m.view.userByEmail e = .ok none) :
    ∀ i u, m.contents.users.get? i = some u → u.email ≠ e := by
  obtain ⟨-, nobody⟩ := (reading_eq_ok_iff ..).mp new
  intro i u hu same
  have other := List.find?_eq_none.mp nobody u (Table.mem_values_of_get? hu)
  exact other (by simp [same, lower])

/-- The credentials when a registration has been written. -/
lemma Store.Memory.get?_credentials_registered (c : Contents) (r : Registration)
    (lower : Text.lower r.user.email = r.user.email) (k : String) :
    (c.writeAll (.saveUser r.user ::
        Command.credentialWrites r.user.email r.hash)).credentials.get? k =
      if r.user.email = k then r.credential?.or (c.credentials.get? k)
      else c.credentials.get? k := by
  rw [Command.credentialWrites_eq r.user r.hash]
  cases r.credential? with
  | none => simp [Contents.write]
  | some x => simp [Contents.write, lower]

/-- Writes about the credentials of an address leave the accounts alone. -/
lemma Store.Memory.users_credentialWrites (c : Contents) (email : String) (hash : Option String) :
    (c.writeAll (Command.credentialWrites email hash)).users = c.users := by
  rcases Command.credentialWrites_cases email hash with h | ⟨x, h⟩ <;> rw [h] <;> rfl

namespace World

variable {w : World Memory}

/-- A command that is accepted turns accounts and credentials in one of three ways. -/
lemma accountTurn_of_accepted (ho : w.store.contents.Orderly) {o : Occasion} {c : Command}
    {p : Plan} (h : w.store.accepted? o c = some p)
    (fresh : ∀ n < p.drawn, w.store.contents.Unused (o.ids n)) :
    AccountTurn w.store.contents (w.move (.call o c)).store.contents
      (w.registered (.call o c)) := by
  obtain ⟨e, devices, planned, -, -, after⟩ := contents_move_of_accepted h
  rw [after]
  cases planned with
  | @register name email hash u created new =>
    obtain ⟨new_id, lower⟩ : w.store.contents.users.get? u.id = none ∧
        Text.lower u.email = u.email := by
      obtain ⟨n, address, -, valid, rfl⟩ := (User.create_eq_ok_iff ..).mp created
      exact ⟨(fresh 0 Nat.two_pos).1, Entry.lower_of_email valid⟩
    have credentials := get?_credentials_registered w.store.contents ⟨u, hash⟩ lower
    have one := registered_of_accepted h (u := u) rfl
    have users := users_credentialWrites (w.store.contents.write (.saveUser u)) u.email hash
    exact .opened ⟨u, hash⟩ new_id lower (apart_of_view lower new) users credentials one
  | @deleteUser user u found =>
    have stored := ((view_user_eq_ok_iff ..).mp found).2
    obtain rfl := ho.user_id stored
    exact .closed u stored rfl rfl rfl
  | settle loaded open_ latest admin balanced =>
    simp only [Contents.writeAll_cons, Contents.writeAll_map_saveExpense]
    exact .quiet rfl rfl rfl
  | _ => exact .quiet rfl rfl rfl

/-- **A move turns accounts and credentials in one of three ways.** -/
theorem accountTurn (ho : w.store.contents.Orderly) {m : Move} (fresh : w.FreshAt m) :
    AccountTurn w.store.contents (w.move m).store.contents (w.registered m) := by
  cases m with
  | switch r off =>
    rw [contents_switch]
    exact .quiet rfl rfl rfl
  | ask o q =>
    rw [contents_ask]
    exact .quiet rfl rfl rfl
  | call o c =>
    cases h : w.store.accepted? o c with
    | none =>
      rw [contents_move_of_not_accepted h, registered_of_not_accepted h]
      exact .quiet rfl rfl rfl
    | some p => exact accountTurn_of_accepted ho h (fresh p h)

end World

/-! ## Accounts, credentials and registrations -/

/-- Every account is as it was registered; no two have one address; the hash under the address of
an account is the one that is kept of its registration; and there is a hash only under the address
of an account. -/
structure Keyed (c : Contents) (rs : List Registration) : Prop where
  registered : ∀ i u, c.users.get? i = some u → ∃ hash, Registration.of? rs i = some ⟨u, hash⟩
  lower : ∀ i u, c.users.get? i = some u → Text.lower u.email = u.email
  single : ∀ i j u v, c.users.get? i = some u → c.users.get? j = some v →
    u.email = v.email → i = j
  held : ∀ i r, c.users.get? i = some r.user → Registration.of? rs i = some r →
    c.credentials.get? r.user.email = r.credential?
  owned : ∀ k x, c.credentials.get? k = some x → ∃ i u, c.users.get? i = some u ∧ u.email = k

namespace Keyed

variable {c c' : Contents} {rs : List Registration}

lemma start : Keyed .empty [] where
  registered _ _ h := nomatch h
  lower _ _ h := nomatch h
  single _ _ _ _ h := nomatch h
  held _ _ h := nomatch h
  owned _ _ h := nomatch h

lemma closed (h : Keyed c rs) {u : User} (found : c.users.get? u.id = some u)
    (users : c'.users = c.users.erase u.id)
    (credentials : c'.credentials = c.credentials.erase (Text.lower u.email)) : Keyed c' rs := by
  have stays : ∀ i v, c'.users.get? i = some v → u.id ≠ i ∧ c.users.get? i = some v := by
    intro i v hv
    rwa [users, Table.get?_erase, Option.ite_none_left_eq_some] at hv
  refine
    { registered := fun i v hv => h.registered i v (stays i v hv).2
      lower := fun i v hv => h.lower i v (stays i v hv).2
      single := fun i j v x hv hx => h.single i j v x (stays i v hv).2 (stays j x hx).2
      held := fun i r hr hof => ?_
      owned := fun k x hk => ?_ }
  · have ne : Text.lower u.email ≠ r.user.email := by
      rw [h.lower _ _ found]
      exact fun same => (stays i _ hr).1 (h.single _ _ _ _ found (stays i _ hr).2 same)
    rw [credentials, Table.get?_erase, if_neg ne]
    exact h.held i r (stays i _ hr).2 hof
  · rw [credentials, Table.get?_erase, Option.ite_none_left_eq_some, h.lower _ _ found] at hk
    obtain ⟨i, v, hv, rfl⟩ := h.owned k x hk.2
    have ne : u.id ≠ i := by
      rintro rfl
      exact hk.1 (congrArg User.email (Option.some.inj (found.symm.trans hv)))
    exact ⟨i, v, by rw [users, Table.get?_erase, if_neg ne, hv], rfl⟩

lemma opened (h : Keyed c rs) {r : Registration} (new : c.users.get? r.user.id = none)
    (lower : Text.lower r.user.email = r.user.email)
    (apart : ∀ i u, c.users.get? i = some u → u.email ≠ r.user.email)
    (users : c'.users = c.users.put r.user.id r.user)
    (credentials : ∀ k, c'.credentials.get? k =
      if r.user.email = k then r.credential?.or (c.credentials.get? k)
      else c.credentials.get? k) : Keyed c' (rs ++ [r]) := by
  have origin : ∀ i v, c'.users.get? i = some v →
      (r.user.id = i ∧ r.user = v) ∨ (r.user.id ≠ i ∧ c.users.get? i = some v) := by
    intro i v hv
    rw [users, Table.get?_put] at hv
    split at hv
    · exact .inl ⟨‹_›, Option.some.inj hv⟩
    · exact .inr ⟨‹_›, hv⟩
  -- Nobody has the address, so no hash is stored under it.
  have vacant : c.credentials.get? r.user.email = none := by
    by_contra taken
    obtain ⟨x, hx⟩ := Option.ne_none_iff_exists'.mp taken
    obtain ⟨i, v, hv, same⟩ := h.owned _ x hx
    exact apart i v hv same
  refine
    { registered := fun i v hv => ?_, lower := fun i v hv => ?_
      single := fun i j v x hv hx same => ?_, held := fun i q hq hof => ?_
      owned := fun k x hk => ?_ }
  · rcases origin i v hv with ⟨rfl, rfl⟩ | ⟨ne, hv⟩
    · exact ⟨r.hash, by rw [Registration.of?_append_singleton, if_pos rfl]⟩
    · rw [Registration.of?_append_singleton, if_neg ne]
      exact h.registered i v hv
  · rcases origin i v hv with ⟨rfl, rfl⟩ | ⟨-, hv⟩
    · exact lower
    · exact h.lower i v hv
  · rcases origin i v hv with ⟨rfl, rfl⟩ | ⟨-, hv⟩ <;>
      rcases origin j x hx with ⟨rfl, rfl⟩ | ⟨-, hx⟩
    · rfl
    · exact absurd same.symm (apart j x hx)
    · exact absurd same (apart i v hv)
    · exact h.single i j v x hv hx same
  · rw [credentials]
    rcases origin i q.user hq with ⟨hid, huser⟩ | ⟨ne, hq⟩
    · rw [Registration.of?_append_singleton, if_pos hid] at hof
      obtain rfl := Option.some.inj hof
      rw [if_pos rfl, vacant, Option.or_none]
    · rw [Registration.of?_append_singleton, if_neg ne] at hof
      rw [if_neg (Ne.symm (apart i _ hq)), h.held i q hq hof]
  · rw [credentials] at hk
    split at hk
    · exact ⟨r.user.id, r.user, by rw [users, Table.get?_put, if_pos rfl], ‹_›⟩
    · obtain ⟨i, v, hv, same⟩ := h.owned k x hk
      have ne : r.user.id ≠ i := by
        rintro rfl
        rw [new] at hv
        cases hv
      exact ⟨i, v, by rw [users, Table.get?_put, if_neg ne, hv], same⟩

/-- A turn keeps accounts and credentials fit to the registrations. -/
lemma turn (h : Keyed c rs) {rs' : List Registration}
    (turn : AccountTurn c c' rs') : Keyed c' (rs ++ rs') := by
  cases turn with
  | quiet users credentials none =>
    rw [none, List.append_nil]
    exact
      { registered := users ▸ h.registered, lower := users ▸ h.lower, single := users ▸ h.single
        held := users ▸ credentials ▸ h.held, owned := users ▸ credentials ▸ h.owned }
  | opened r new lower apart users credentials one =>
    rw [one]
    exact h.opened new lower apart users credentials
  | closed u found users credentials none =>
    rw [none, List.append_nil]
    exact h.closed found users credentials

end Keyed

/-- **Accounts and credentials fit to the registrations of a run.** -/
theorem World.keyed_run {w : World Memory} {rs : List Registration}
    (h : Keyed w.store.contents rs) (ho : w.store.contents.Orderly) {ms : List Move}
    (fresh : w.Fresh ms) : Keyed (w.run ms).store.contents (rs ++ w.registrations ms) := by
  induction ms generalizing w rs with
  | nil =>
    rw [registrations, List.append_nil]
    exact h
  | cons m ms ih =>
    rw [run_cons, registrations, ← List.append_assoc]
    exact ih (h.turn (accountTurn ho fresh.1)) (orderly_move ho m) fresh.2

/-! ## Logging in -/

/-- A hash opens an account with an address: the account is stored, and it was registered with
this hash, which is not empty. -/
structure Opens (c : Contents) (rs : List Registration) (address hash : String) (u : User) :
    Prop where
  stored : c.users.get? u.id = some u
  address : u.email = address
  given : Registration.of? rs u.id = some ⟨u, some hash⟩
  nonempty : hash ≠ ""

namespace Keyed

variable {m : Memory} {rs : List Registration}

/-- The hash that is read for an address is the one that is stored under it: none is empty. -/
lemma view_credential (h : Keyed m.contents rs) (up : m.isCrashed .credentials = false)
    {address : String} (lower : Text.lower address = address) :
    m.view.credential address = .ok (m.contents.credentials.get? address) := by
  simp only [view, up, Bool.false_eq_true, if_false, credentialFor, lower]
  cases hx : m.contents.credentials.get? address with
  | none => rfl
  | some x =>
    obtain ⟨i, u, hu, rfl⟩ := h.owned _ _ hx
    obtain ⟨hash, hof⟩ := h.registered i u hu
    have kept := (h.held i ⟨u, hash⟩ hu hof).symm.trans hx
    have nonempty := ((Registration.credential?_eq_some_iff ..).mp kept).2
    simp [nonempty]

/-- The account that is read for an address is the one that has it. -/
lemma view_userByEmail (h : Keyed m.contents rs) (ho : m.contents.Orderly)
    (up : m.isCrashed .users = false) {address : String} (lower : Text.lower address = address)
    (u : User) :
    m.view.userByEmail address = .ok (some u) ↔
      m.contents.users.get? u.id = some u ∧ u.email = address := by
  have stored : ∀ v ∈ m.contents.users.values, m.contents.users.get? v.id = some v := by
    intro v hv
    obtain ⟨r, hr, rfl⟩ := List.mem_map.mp hv
    exact ho.userKeys r hr ▸ Table.get?_of_mem ho.users hr
  simp only [view, reading_eq_ok_iff, up, true_and, lower]
  constructor
  · intro found
    have has : u.email = address := by simpa using List.find?_some found
    exact ⟨stored u (List.mem_of_find?_eq_some found), has⟩
  · rintro ⟨hu, rfl⟩
    have isSome : (m.contents.users.values.find? fun v => v.email = u.email).isSome := by
      rw [List.find?_isSome]
      exact ⟨u, Table.mem_values_of_get? hu, decide_eq_true rfl⟩
    obtain ⟨v, found⟩ := Option.isSome_iff_exists.mp isSome
    have has : v.email = u.email := by simpa using List.find?_some found
    have hv := stored v (List.mem_of_find?_eq_some found)
    have same := h.single _ _ _ _ hv hu has
    rw [same, hu] at hv
    rw [found, hv]

variable (h : Keyed m.contents rs) (ho : m.contents.Orderly) (users : m.isCrashed .users = false)
  (credentials : m.isCrashed .credentials = false) (o : Occasion) {email address hash : String}
  (valid : Entry.email (some email) = .ok address) (plain : Plain hash)

include h ho users credentials valid plain

/-- A login with a hash that opens an account leads to an answer with this account. -/
lemma planned_login {u : User} (opens : Opens m.contents rs address hash u) :
    Command.Planned m.view o (.login (some email) hash)
      ⟨"login", [], [u.record (o.ids 0) o.now .loggedIn], .user u, none, [], 1⟩ := by
  have lower := Entry.lower_of_email valid
  have kept : (⟨u, some hash⟩ : Registration).credential? = some hash :=
    (Registration.credential?_eq_some_iff ..).mpr ⟨rfl, opens.nonempty⟩
  have held := h.held _ _ opens.stored opens.given
  rw [opens.address, kept] at held
  have same : sameHash hash hash = .ok true := by
    rw [sameHash_eq, if_pos ⟨plain, plain⟩, beq_self_eq_true]
  exact .login valid (held ▸ h.view_credential credentials lower)
    ((h.view_userByEmail ho users lower u).mpr ⟨opens.stored, opens.address⟩) same

/-- A login with a hash that opens nothing is refused. -/
lemma plan_login (given : ∀ r ∈ rs, ∀ x, r.hash = some x → Plain x)
    (opens : ∀ u, ¬ Opens m.contents rs address hash u) :
    (Command.login (some email) hash).plan m.view o =
      .error (.problem (.unauthorized "Invalid credentials")) := by
  have lower := Entry.lower_of_email valid
  have stored := h.view_credential credentials lower
  obtain ⟨found, hfound⟩ : ∃ found, m.view.userByEmail address = .ok found :=
    ⟨_, (reading_eq_ok_iff ..).mpr ⟨users, rfl⟩⟩
  simp only [Command.plan, Command.planLogin, valid, stored, hfound, read, bind, Except.bind]
  cases hx : m.contents.credentials.get? address with
  | none => rfl
  | some x =>
    cases found with
    | none => rfl
    | some u =>
      obtain ⟨hu, rfl⟩ := (h.view_userByEmail ho users lower u).mp hfound
      obtain ⟨hash', hof⟩ := h.registered _ _ hu
      have kept := (h.held _ ⟨u, hash'⟩ hu hof).symm.trans hx
      obtain ⟨rfl, nonempty⟩ := (Registration.credential?_eq_some_iff ..).mp kept
      have differ : x ≠ hash := by
        rintro rfl
        exact opens u ⟨hu, rfl, hof, nonempty⟩
      have compared : sameHash x hash = .ok false := by
        rw [sameHash_eq, if_pos ⟨given _ (Registration.mem_of_of? hof) x rfl, plain⟩,
          beq_false_of_ne differ]
      simp only [compared, Bool.false_eq_true, if_false]

end Keyed

namespace World

/-- A login can be carried out: the collections that it uses are on, and the identifier that it
draws is not in the log. -/
structure CanLogin (w : World Memory) : Prop where
  users : w.store.isCrashed .users = false
  credentials : w.store.isCrashed .credentials = false
  events : w.store.isCrashed .events = false
  new : w.store.contents.events.get? (w.occasion.ids 0) = none

/-- A call is refused because its credentials are invalid, and nothing is changed by it. -/
def Unauthorized (w : World Memory) (c : Command) : Prop :=
  w.perform Memory.backend c = (.error (.problem (.unauthorized "Invalid credentials")), w)

/-- What is wanted of a login with an address and a hash: it returns an account exactly when the
hash opens it, and otherwise it is refused. There is no hash under the address of nobody, and a hash
that was given only for accounts that are gone opens nothing. -/
structure LoginExact (w : World Memory) (rs : List Registration) (email address hash : String) :
    Prop where
  returns : ∀ u, (w.perform Memory.backend (.login (some email) hash)).1 = .ok (.user u) ↔
    Opens w.store.contents rs address hash u
  refused : (∀ u, ¬ Opens w.store.contents rs address hash u) →
    w.Unauthorized (.login (some email) hash)
  owned : ∀ k x, w.store.contents.credentials.get? k = some x →
    ∃ i u, w.store.contents.users.get? i = some u ∧ u.email = k
  gone : (∀ r ∈ rs, r.hash = some hash → w.store.contents.users.get? r.user.id ≠ some r.user) →
    w.Unauthorized (.login (some email) hash)

/-- Where accounts and credentials fit to registrations, a login does what is wanted. -/
lemma loginExact_of_keyed {w : World Memory} {rs : List Registration}
    (h : Keyed w.store.contents rs) (ho : w.store.contents.Orderly) (can : w.CanLogin)
    {email address hash : String} (valid : Entry.email (some email) = .ok address)
    (plain : Plain hash) (given : ∀ r ∈ rs, ∀ x, r.hash = some x → Plain x) :
    w.LoginExact rs email address hash := by
  have refused : (∀ u, ¬ Opens w.store.contents rs address hash u) →
      w.Unauthorized (.login (some email) hash) := by
    intro none
    have stopped := h.plan_login ho can.users can.credentials w.occasion valid plain given none
    rw [Unauthorized, perform_eq, stopped]
    simp [Stop.problem, Stop.refusal, Stop.log, say]
  have answered : ∀ u, Opens w.store.contents rs address hash u →
      (w.perform Memory.backend (.login (some email) hash)).1 = .ok (.user u) := by
    intro u opens
    have planned := h.planned_login ho can.users can.credentials w.occasion valid plain opens
    have admitted := (vet_eq_ok_iff w.store [] [u.record (w.occasion.ids 0) w.occasion.now
      .loggedIn]).mpr ⟨by simp, can.events, (checkNew_eq_ok_iff ..).mpr
        ⟨by simpa [User.record] using can.new, List.nodup_singleton _⟩⟩
    exact congrArg Prod.fst ((perform_eq_ok_iff ..).mpr ⟨_, planned, admitted, rfl, rfl⟩)
  refine { returns := fun u => ⟨fun returns => ?_, answered u⟩, refused, owned := h.owned,
           gone := fun gone => refused fun u opens => ?_ }
  · by_cases any : ∃ v, Opens w.store.contents rs address hash v
    · obtain ⟨v, opens⟩ := any
      have same := (answered v opens).symm.trans returns
      exact Product.user.inj (Except.ok.inj same) ▸ opens
    · rw [refused fun v hv => any ⟨v, hv⟩] at returns
      cases returns
  · exact gone _ (Registration.mem_of_of? opens.given) rfl opens.stored

/-- **A login lets in exactly whom the registration names.** After every run of calls from an empty
store, which may fail, with collections being switched off and on in between, and with identifiers
that are not in use: a login with an address and a hash returns an account exactly when the account
is stored, has the address, and was registered with that hash.

**Proof sketch.** Accounts and credentials fit to the registrations of the run (`keyed_run`): a
registration finds the address without an account and therefore without a hash, and a deletion takes
the hash along. What a login then reads are the account with the address and the hash that was given
for it. -/
theorem loginExact_run (w : World Memory) (crashed : List Repository) (ms : List Move)
    (o : Occasion) (fresh : (w.withStore (.empty crashed)).Fresh ms)
    (given : ∀ x ∈ ms.filterMap Move.hash?, Plain x)
    (can : ({ (w.withStore (.empty crashed)).run ms with occasion := o } : World Memory).CanLogin)
    {email address hash : String} (valid : Entry.email (some email) = .ok address)
    (plain : Plain hash) :
    ({ (w.withStore (.empty crashed)).run ms with occasion := o } : World Memory).LoginExact
      ((w.withStore (.empty crashed)).registrations ms) email address hash := by
  have keyed := keyed_run (w := w.withStore (.empty crashed)) .start Contents.orderly_empty fresh
  have orderly := orderly_run (w := w.withStore (.empty crashed)) Contents.orderly_empty ms
  rw [List.nil_append] at keyed
  exact loginExact_of_keyed
    (w := { (w.withStore (.empty crashed)).run ms with occasion := o }) keyed orderly can valid
    plain fun r hr x hx => given x (mem_hashes_of_mem_registrations hr hx)

/-- Somebody registers and closes the account. A second registration with that address fails,
because credentials cannot be stored, and a third one, with another hash, succeeds. -/
def sampleReturn : List Move :=
  [sampleCall 1 (.register (some "Ada") (some "ada@mail.org") (some "aa11")),
    sampleCall 2 (.deleteUser (.ofNat 16)),
    .switch .credentials true,
    sampleCall 3 (.register (some "Ada") (some "ada@mail.org") (some "aa11")),
    .switch .credentials false,
    sampleCall 4 (.register (some "Ada") (some "ADA@mail.org") (some "bb22"))]

/-- The occasion of a fifth call, which draws identifiers of its own. -/
def sampleLater : Occasion := ⟨.utc 5000000, fun n => .ofNat (80 + n)⟩

/-- The world after `sampleReturn`, on that occasion. -/
def sampleReturned : World Memory :=
  { (sampleWorld.withStore (.empty [])).run sampleReturn with occasion := sampleLater }

/-- A login after `sampleReturn` lets in whom the registration names. -/
theorem loginExact_sampleReturn :
    (sampleWorld.withStore (.empty [])).Fresh sampleReturn ∧
      (∀ x ∈ sampleReturn.filterMap Move.hash?, Plain x) ∧ sampleReturned.CanLogin ∧
      Entry.email (some " Ada@Mail.org") = .ok "ada@mail.org" ∧ Plain "bb22" ∧
      sampleReturned.LoginExact ((sampleWorld.withStore (.empty [])).registrations sampleReturn)
        " Ada@Mail.org" "ada@mail.org" "bb22" :=
  have fresh : (sampleWorld.withStore (.empty [])).Fresh sampleReturn := by decide
  have given : ∀ x ∈ sampleReturn.filterMap Move.hash?, Plain x := by decide
  have can : sampleReturned.CanLogin := ⟨by decide, by decide, by decide, by decide⟩
  have valid : Entry.email (some " Ada@Mail.org") = .ok "ada@mail.org" := rfl
  have plain : Plain "bb22" := by decide
  ⟨fresh, given, can, valid, plain,
    loginExact_run sampleWorld [] sampleReturn sampleLater fresh given can valid plain⟩

/-- The hash of the account that is gone opens nothing, the hash of the new account opens it. -/
example : (["aa11", "bb22"].map fun hash =>
    match (sampleReturned.perform Memory.backend (.login (some "ada@mail.org") hash)).1 with
    | .ok (.user u) => some u.id
    | _ => none) = [none, some (.ofNat 64)] := by
  decide +kernel

end World

end CommonPurse
