import CommonPurse.Proofs.Concurrency.Shown

/-!
# Addresses of accounts when calls overlap

A registration looks for its address among the accounts and saves the new account later. Another
account with that address can be saved in between. A store in memory then takes both. A relational
store refuses the second one, but its call is told that the store has failed, and not that the
address is taken. Everything is as it should be exactly in the runs in which no registration is
committed while its address is taken.

## Main definitions

* `CommonPurse.Store.View.address`, `CommonPurse.Store.View.Taken` — addresses, as a store shows
  them.
* `CommonPurse.Overlap.OnePerAddress` — one account for each address, throughout a run.
* `CommonPurse.Overlap.Unchallenged` — a step that commits no registration whose address is taken.

## Main results

* `CommonPurse.Overlap.onePerAddress_iff_unchallenged` — when there is one account for each address.
-/

namespace CommonPurse

open CommonPurse.Store
open CommonPurse.Interleaved (sampleOccasion)

/-! ## Addresses -/

namespace Store

namespace View

/-- The address of an account. -/
def address (v : View) (i : Id) : Option String :=
  match v.user i with
  | .ok (some u) => some u.email
  | _ => none

/-- No two accounts have one address. -/
def AddressesApart (v : View) : Prop :=
  ∀ i j e, v.address i = some e → v.address j = some e → i = j

/-- Another account has the address of an account. -/
def Taken (v : View) (u : User) : Prop := ∃ i, i ≠ u.id ∧ v.address i = some u.email

end View

/-- The addresses after a write. -/
def Write.readdress (a : Id → Option String) : Write → Id → Option String
  | .saveUser u => Function.update a u.id (some u.email)
  | .deleteUser i => Function.update a i none
  | _ => a

/-- Writes to other collections leave addresses alone. -/
lemma Write.foldl_readdress {ws : List Write} (h : ∀ w ∈ ws, w.repository ≠ .users)
    (a : Id → Option String) : ws.foldl Write.readdress a = a := by
  induction ws with
  | nil => rfl
  | cons w ws ih =>
    have same : Write.readdress a w = a := by
      have other := h w List.mem_cons_self
      cases w <;> first | rfl | exact absurd rfl other
    rw [List.foldl_cons, same]
    exact ih fun x hx => h x (List.mem_cons_of_mem _ hx)

end Store

/-- What plans write about accounts: nothing, a new account with an address in lower case, or that an
account is deleted. -/
inductive Plan.Addressing (p : Plan) : Prop
  | elsewhere (others : ∀ w ∈ p.writes, w.repository ≠ .users)
  | saved (u : User) (rest : List Write) (writes : p.writes = .saveUser u :: rest)
      (others : ∀ w ∈ rest, w.repository ≠ .users) (lower : Text.lower u.email = u.email)
  | removed (i : Id) (rest : List Write) (writes : p.writes = rest ++ [.deleteUser i])
      (others : ∀ w ∈ rest, w.repository ≠ .users)

/-- This is all that commands lead to. -/
lemma Plan.Grounded.addressing {p : Plan} (h : p.Grounded) : p.Addressing := by
  obtain ⟨v, o, c, -, planned⟩ := h
  cases planned with
  | @register name email hash u created new =>
    obtain ⟨n, e, -, valid, rfl⟩ := (User.create_eq_ok_iff ..).mp created
    refine .saved _ _ rfl ?_ (Entry.lower_of_email valid)
    rcases Command.credentialWrites_cases e hash with h | ⟨x, h⟩ <;> simp [h, Write.repository]
  | @deleteUser user u found =>
    exact .removed u.id [.deleteCredential u.email] rfl (by simp [Write.repository])
  | _ => exact .elsewhere (by simp [Write.repository])

/-! ## Addresses in the two stores -/

namespace Store

lemma Memory.address_eq_some_iff (m : Memory) (i : Id) (e : String) :
    m.view.address i = some e ↔
      m.isCrashed .users = false ∧ ∃ u, m.contents.users.get? i = some u ∧ u.email = e := by
  cases hc : m.isCrashed .users <;> cases hu : m.contents.users.get? i <;>
    simp [View.address, view, reading, hc, hu]

lemma Memory.address_of_up {m : Memory} (up : m.isCrashed .users = false) (i : Id) :
    m.view.address i = (m.contents.users.get? i).map (·.email) := by
  cases hu : m.contents.users.get? i <;> simp [View.address, view, reading, up, hu]

/-- A write changes addresses as it should. -/
lemma Memory.address_write (m : Memory) (w : Write) (up : m.isCrashed w.repository = false) :
    (Memory.view { m with contents := m.contents.write w }).address =
      Write.readdress m.view.address w := by
  by_cases other : w.repository ≠ .users
  · cases w <;> first | rfl | exact absurd rfl other
  · rw [not_not] at other
    rw [other] at up
    funext i
    have before := m.address_of_up up i
    have after := Memory.address_of_up (m := { m with contents := m.contents.write w }) up i
    rw [after]
    cases w with
    | saveUser u =>
      show ((m.contents.users.put u.id u).get? i).map (·.email) =
        Function.update m.view.address u.id (some u.email) i
      rw [Table.get?_put]
      by_cases hi : i = u.id
      · simp [hi]
      · simp [hi, Ne.symm hi, before]
    | deleteUser j =>
      show ((m.contents.users.erase j).get? i).map (·.email) =
        Function.update m.view.address j none i
      rw [Table.get?_erase]
      by_cases hi : i = j
      · simp [hi]
      · simp [hi, Ne.symm hi, before]
    | _ => cases other

/-- An address that somebody has is found. -/
lemma Memory.userByEmail_of_address {m : Memory} {i : Id} {e : String}
    (h : m.view.address i = some e) (lower : Text.lower e = e) :
    ∃ u, m.view.userByEmail e = .ok (some u) := by
  obtain ⟨up, u, hu, rfl⟩ := (m.address_eq_some_iff i e).mp h
  have found : (m.contents.users.values.find? fun x => x.email = Text.lower u.email).isSome := by
    rw [List.find?_isSome]
    exact ⟨u, Table.mem_values_of_get? hu, by simp [lower]⟩
  obtain ⟨x, hx⟩ := Option.isSome_iff_exists.mp found
  exact ⟨x, by simp only [view, reading, up, hx, Bool.false_eq_true, if_false]⟩

namespace Relational

variable {r r' : Relational} {d d' : Database}

lemma address_eq_some_iff (h : r.database.Complete) (i : Id) (e : String) :
    (view r).address i = some e ↔
      ∃ u, r.database.row? (.user i) = some (some (.user u)) ∧ u.email = e := by
  obtain ⟨u, c, v, g, m, x, s, l, hd⟩ := h
  cases hu : u.get? i <;> simp [View.address, view, reading, Database.row?, hd, hu]

/-- An address that somebody has is found. -/
lemma userByEmail_of_address (h : r.database.Complete) {i : Id} {e : String}
    (ha : (view r).address i = some e) (lower : Text.lower e = e) :
    ∃ u, (view r).userByEmail e = .ok (some u) := by
  obtain ⟨u, hu, rfl⟩ := (address_eq_some_iff h i e).mp ha
  obtain ⟨t, ht, hrow⟩ := Option.map_eq_some_iff.mp hu
  obtain ⟨x, hx, heq⟩ := Option.map_eq_some_iff.mp hrow
  obtain rfl := Row.user.inj heq
  have found : (t.values.find? fun y => y.email = Text.lower x.email).isSome := by
    rw [List.find?_isSome]
    exact ⟨x, Table.mem_values_of_get? hx, by simp [lower]⟩
  obtain ⟨y, hy⟩ := Option.isSome_iff_exists.mp found
  exact ⟨y, by simp only [view, reading, ht, hy]⟩

/-- The row of an account is saved with the account only. -/
lemma saveUser_of_mem_keys {ws : List Write} {i : Id}
    (h : Key.user i ∈ (ws.flatMap rowsOf).map Row.key) : ∃ u, .saveUser u ∈ ws ∧ u.id = i := by
  obtain ⟨row, hr, hk⟩ := List.mem_map.mp h
  obtain ⟨w, hw, hr⟩ := List.mem_flatMap.mp hr
  by_cases saves : ∃ u, w = .saveUser u
  · obtain ⟨u, rfl⟩ := saves
    obtain rfl := List.mem_singleton.mp hr
    exact ⟨u, hw, Key.user.inj hk⟩
  · have other := isUser_of_mem_rowsOf (fun u hu => saves ⟨u, hu⟩) row hr
    cases row with
    | user u => cases other
    | _ => cases hk

lemma deleteUser_of_deletes {w : Write} {i : Id} (h : w.deletes (.user i) = true) :
    w = .deleteUser i := by
  cases w with
  | deleteUser j =>
    obtain rfl : i = j := by simpa [Write.deletes] using h
    rfl
  | _ => simp [Write.deletes, Key.isMemberOf] at h

/-- An account that is saved has its address. -/
lemma Written.address_of_saved {ws : List Write} {e : Event}
    (h : Written ws e r.database r'.database) {u : User} (saves : .saveUser u ∈ ws) :
    (view r').address u.id = some u.email := by
  have row : Row.user u ∈ ws.flatMap rowsOf :=
    List.mem_flatMap.mpr ⟨_, saves, List.mem_singleton_self _⟩
  obtain ⟨kept, keeps, found⟩ := h.saved _ row
  obtain rfl := Option.some.inj keeps
  exact (address_eq_some_iff h.tidy.whole.complete _ _).mpr ⟨_, found, rfl⟩

/-- An account that is deleted has no address. -/
lemma Written.address_of_deleted {ws : List Write} {e : Event}
    (h : Written ws e r.database r'.database) {i : Id} (saves : ∀ u, .saveUser u ∉ ws)
    (deletes : .deleteUser i ∈ ws) : (view r').address i = none := by
  have gone : r'.database.row? (.user i) = some none := by
    rw [h.others _ (fun hk => ?_) (by simp) (by simp), if_pos]
    · exact List.any_eq_true.mpr ⟨_, deletes, by simp [Write.deletes]⟩
    · obtain ⟨u, hu, -⟩ := saveUser_of_mem_keys hk
      exact saves u hu
  cases ha : (view r').address i with
  | none => rfl
  | some a =>
    obtain ⟨x, hx, -⟩ := (address_eq_some_iff h.tidy.whole.complete i a).mp ha
    rw [gone] at hx
    cases hx

/-- An account that nothing is written about has the address that it had. -/
lemma Written.address_of_others {ws : List Write} {e : Event}
    (h : Written ws e r.database r'.database) (complete : r.database.Complete) {i : Id}
    (saves : ∀ u, .saveUser u ∈ ws → u.id ≠ i) (deletes : .deleteUser i ∉ ws) :
    (view r').address i = (view r).address i := by
  have same : r'.database.row? (.user i) = r.database.row? (.user i) := by
    rw [h.others _ (fun hk => ?_) (by simp) (by simp), if_neg]
    · intro hd
      obtain ⟨w, hw, hd⟩ := List.any_eq_true.mp hd
      exact deletes (deleteUser_of_deletes hd ▸ hw)
    · obtain ⟨u, hu, hi⟩ := saveUser_of_mem_keys hk
      exact saves u hu hi
  ext a
  rw [address_eq_some_iff h.tidy.whole.complete, address_eq_some_iff complete, same]

/-- Tables into which a plan has been written show the addresses that it leads to. -/
lemma Written.address {p : Plan} (hp : p.Addressing) {e : Event}
    (h : Written p.writes e r.database r'.database) (complete : r.database.Complete) :
    (view r').address = p.writes.foldl Write.readdress (view r).address := by
  funext i
  cases hp with
  | elsewhere others =>
    rw [Write.foldl_readdress others]
    apply h.address_of_others complete
    · exact fun u hu => absurd rfl (others _ hu)
    · exact fun hi => others _ hi rfl
  | saved u rest writes others lower =>
    rw [writes, List.foldl_cons, Write.foldl_readdress others, Write.readdress]
    by_cases hi : i = u.id
    · rw [hi, Function.update_self]
      exact h.address_of_saved (writes ▸ List.mem_cons_self)
    · rw [Function.update_of_ne hi]
      apply h.address_of_others complete
      · intro x hx
        rcases List.mem_cons.mp (writes ▸ hx) with hx | hx
        · rw [Write.saveUser.inj hx]
          exact Ne.symm hi
        · exact absurd rfl (others _ hx)
      · intro hd
        rcases List.mem_cons.mp (writes ▸ hd) with hd | hd
        · cases hd
        · exact others _ hd rfl
  | removed j rest writes others =>
    rw [writes, List.foldl_append, Write.foldl_readdress others, List.foldl_cons, List.foldl_nil,
      Write.readdress]
    have saves : ∀ u, .saveUser u ∉ p.writes := by
      intro u hu
      rcases List.mem_append.mp (writes ▸ hu) with hu | hu
      · exact others _ hu rfl
      · cases List.mem_singleton.mp hu
    by_cases hi : i = j
    · rw [hi, Function.update_self]
      exact h.address_of_deleted saves (writes ▸ List.mem_append_right _ List.mem_cons_self)
    · rw [Function.update_of_ne hi]
      apply h.address_of_others complete
      · exact fun u hu => absurd hu (saves u)
      · intro hd
        rcases List.mem_append.mp (writes ▸ hd) with hd | hd
        · exact others _ hd rfl
        · exact hi (Write.deleteUser.inj (List.mem_singleton.mp hd))

/-- An account that has been saved has an address that nobody else has had. -/
lemma Written.not_taken {ws : List Write} {e : Event} (h : Written ws e r.database d')
    (whole : r.database.Whole) {u : User} (hu : .saveUser u ∈ ws) : ¬ (view r).Taken u := by
  rintro ⟨i, hi, ha⟩
  obtain ⟨v, hv, same⟩ := (address_eq_some_iff whole.complete i _).mp ha
  have key : v.id = i := Key.user.inj (whole.keyed _ _ hv)
  exact hi (key.symm.trans (h.free u hu v (key ▸ hv) same))

end Relational

end Store

/-- The account that a plan saves. -/
def Plan.account? (p : Plan) : Option User :=
  p.writes.findSome? fun
    | .saveUser u => some u
    | _ => none

lemma Plan.saveUser_of_account? {p : Plan} {u : User} (h : p.account? = some u) :
    .saveUser u ∈ p.writes := by
  obtain ⟨w, hw, hu⟩ := List.exists_of_findSome?_eq_some h
  cases w with
  | saveUser x => exact Option.some.inj hu ▸ hw
  | _ => cases hu

/-- A command registers at most one account. -/
lemma Plan.Addressing.account? {p : Plan} (h : p.Addressing) {u : User}
    (saves : .saveUser u ∈ p.writes) : p.account? = some u := by
  cases h with
  | elsewhere others => exact absurd rfl (others _ saves)
  | saved x rest writes others lower =>
    rcases List.mem_cons.mp (writes ▸ saves) with hu | hu
    · rw [Write.saveUser.inj hu, Plan.account?, writes, List.findSome?_cons_of_isSome rfl]
    · exact absurd rfl (others _ hu)
  | removed i rest writes others =>
    rcases List.mem_append.mp (writes ▸ saves) with hu | hu
    · exact absurd rfl (others _ hu)
    · cases List.mem_singleton.mp hu

namespace Overlap

variable {σ τ : Type}

/-! ## What is wanted -/

/-- What a registration is told whose address is taken. -/
def addressTaken : Refusal :=
  .problem (.conflict "Email is already registered" (some "email-taken") [])

/-- The account that a step is about to register: that of a registration which reads, with a name
and an address that are accepted, or that of a plan which is committed. -/
def registers? (d : Overlap σ) : Step → Option User
  | .read o (.register name email _) => (User.create o name email).toOption
  | .read _ _ => none
  | .ask _ => none
  | .commit k => (d.waiting[k]?).bind Plan.account?

/-- A registration that is refused while another account has its address is told so. -/
def Told (b : Backend σ τ) (d : Overlap σ) (s : Step) : Prop :=
  ∀ u, d.registers? s = some u → (b.view d.store).Taken u →
    ∀ r, d.answer? b s = some (.error r) → r = addressTaken

/-- **One account for each address** throughout a run: in every state no two accounts have one
address, and every registration that comes to nothing while another account has its address is told
that the address is taken. -/
structure OnePerAddress (b : Backend σ τ) (d : Overlap σ) (steps : List Step) : Prop where
  apart : ∀ x ∈ d.states b steps, (b.view x.store).AddressesApart
  told : d.Along b (Told b) steps

/-- A step does not commit a registration while another account has its address. -/
def Unchallenged (b : Backend σ τ) (d : Overlap σ) (s : Step) : Prop :=
  ∀ p, d.attempted? s = some p → ∀ u, .saveUser u ∈ p.writes → ¬ (b.view d.store).Taken u

/-! ## Steps -/

/-- What is needed of a store, given what its steps keep: addresses change by the writes of plans,
and the ones that accounts have are found. -/
structure ShowsAddresses (b : Backend σ τ) (keeps : Overlap σ → Prop) : Prop where
  step : ∀ d s, keeps d → keeps (d.step b s)
  grounded : ∀ d, keeps d → ∀ p ∈ d.waiting, p.Grounded
  shows : ∀ d s, keeps d → d.Shows b View.address Write.readdress s
  found : ∀ d, keeps d → ∀ i e, (b.view d.store).address i = some e → Text.lower e = e →
    ∃ u, (b.view d.store).userByEmail e = .ok (some u)

variable {b : Backend σ τ} {keeps : Overlap σ → Prop} {d : Overlap σ} {s : Step}

/-- Addresses stay apart in a step that commits no registration whose address is taken. -/
lemma ShowsAddresses.apart_step (h : ShowsAddresses b keeps) (hd : keeps d)
    (apart : (b.view d.store).AddressesApart)
    (free : ∀ p, d.attempted? s = some p → d.answer? b s = some (.ok p.product) →
      ∀ u, .saveUser u ∈ p.writes → ¬ (b.view d.store).Taken u) :
    (b.view (d.step b s).store).AddressesApart := by
  unfold View.AddressesApart
  cases h.shows d s hd with
  | same stays log answer =>
    rw [stays]
    exact apart
  | done p attempts becomes log answer =>
    rw [becomes]
    cases (h.grounded d hd p (mem_of_attempted? attempts)).addressing with
    | elsewhere others =>
      rw [Write.foldl_readdress others]
      exact apart
    | saved u rest writes others lower =>
      have own := free p attempts answer u (writes ▸ List.mem_cons_self)
      rw [writes, List.foldl_cons, Write.foldl_readdress others, Write.readdress]
      intro i j e hi hj
      by_cases hiu : i = u.id <;> by_cases hju : j = u.id
      · rw [hiu, hju]
      · rw [hiu, Function.update_self] at hi
        rw [Function.update_of_ne hju, ← hi] at hj
        exact absurd ⟨j, hju, hj⟩ own
      · rw [hju, Function.update_self] at hj
        rw [Function.update_of_ne hiu, ← hj] at hi
        exact absurd ⟨i, hiu, hi⟩ own
      · rw [Function.update_of_ne hiu] at hi
        rw [Function.update_of_ne hju] at hj
        exact apart i j e hi hj
    | removed k rest writes others =>
      rw [writes, List.foldl_append, Write.foldl_readdress others, List.foldl_cons, List.foldl_nil,
        Write.readdress]
      intro i j e hi hj
      by_cases hik : i = k
      · rw [hik, Function.update_self] at hi
        cases hi
      by_cases hjk : j = k
      · rw [hjk, Function.update_self] at hj
        cases hj
      rw [Function.update_of_ne hik] at hi
      rw [Function.update_of_ne hjk] at hj
      exact apart i j e hi hj

lemma storage_ne_addressTaken (operation : String) :
    Refusal.problem (.storage operation) ≠ addressTaken := by
  simp [addressTaken, Problem.storage, Problem.internal, Problem.conflict, Problem.ofKind]

/-- A registration whose address is taken is refused when it reads. -/
lemma answer_of_taken {v : View} {o : Occasion} {name email hash : Option String} {u : User}
    (created : User.create o name email = .ok u) {x : User}
    (found : v.userByEmail u.email = .ok (some x)) :
    (Command.register name email hash).plan v o = .error (.refused addressTaken) := by
  have both := (register_eq_ok_iff o name email u _).mpr ⟨created, rfl⟩
  simp only [Command.plan, Command.planRegister, both, found, read, bind, Except.bind]
  rfl

/-- When no registration is committed whose address is taken, those whose address is taken are told
so: they are refused when they read. -/
lemma ShowsAddresses.told_of_unchallenged (h : ShowsAddresses b keeps) (hd : keeps d)
    (free : d.Unchallenged b s) : d.Told b s := by
  intro u registers taken r answer
  cases s with
  | ask q => cases registers
  | commit k =>
    obtain ⟨p, hp, account⟩ := Option.bind_eq_some_iff.mp registers
    exact absurd taken (free p hp u (Plan.saveUser_of_account? account))
  | read o c =>
    cases c with
    | register name email hash =>
      have created : User.create o name email = .ok u := by
        simp only [registers?] at registers
        cases hc : User.create o name email with
        | error e => simp [hc, Except.toOption] at registers
        | ok x =>
          rw [hc] at registers
          rw [Option.some.inj registers]
      obtain ⟨n, e, -, valid, hu⟩ := (User.create_eq_ok_iff ..).mp created
      obtain ⟨i, -, ha⟩ := taken
      have lower : Text.lower u.email = u.email := by
        rw [hu]
        exact Entry.lower_of_email valid
      obtain ⟨x, hx⟩ := h.found d hd i u.email ha lower
      simp only [answer?, answer_of_taken created hx] at answer
      exact (Except.error.inj (Option.some.inj answer)).symm
    | _ => cases registers

/-- When addresses are apart before and after a step and registrations are told what they should be,
no registration is committed whose address is taken: it would be told that the store has failed, or
two accounts would have one address. -/
lemma ShowsAddresses.unchallenged_of_told (h : ShowsAddresses b keeps) (hd : keeps d)
    (after : (b.view (d.step b s).store).AddressesApart) (told : d.Told b s) :
    d.Unchallenged b s := by
  intro p attempts u saves taken
  have addressing := (h.grounded d hd p (mem_of_attempted? attempts)).addressing
  have registers : d.registers? s = some u := by
    cases s with
    | commit k => exact Option.bind_eq_some_iff.mpr ⟨p, attempts, addressing.account? saves⟩
    | _ => cases attempts
  cases h.shows d s hd with
  | same stays log answer =>
    exact storage_ne_addressTaken _ (told u registers taken _ (answer p attempts))
  | done q attempts' becomes log answer =>
    obtain rfl := Option.some.inj (attempts.symm.trans attempts')
    cases addressing with
    | elsewhere others => exact others _ saves rfl
    | saved x rest writes others lower =>
      obtain rfl : u = x := by
        rcases List.mem_cons.mp (writes ▸ saves) with hu | hu
        · exact Write.saveUser.inj hu
        · exact absurd rfl (others _ hu)
      rw [writes, List.foldl_cons, Write.foldl_readdress others, Write.readdress] at becomes
      obtain ⟨i, hi, ha⟩ := taken
      unfold View.AddressesApart at after
      rw [becomes] at after
      refine hi (after i u.id u.email ?_ (Function.update_self ..))
      rw [Function.update_of_ne hi, ha]
    | removed i rest writes others =>
      rcases List.mem_append.mp (writes ▸ saves) with hu | hu
      · exact others _ hu rfl
      · cases List.mem_singleton.mp hu

/-! ## Runs -/

/-- On a store of either kind there is one account for each address exactly when no registration is
committed whose address is taken. -/
lemma ShowsAddresses.onePerAddress_iff (h : ShowsAddresses b keeps) (first : keeps d)
    (apart : (b.view d.store).AddressesApart) (steps : List Step) :
    d.OnePerAddress b steps ↔ d.Along b (Unchallenged b) steps := by
  constructor
  · rintro ⟨apart, told⟩
    refine told.of_states h.step ?_ apart first
    exact fun d s hd _ after told => h.unchallenged_of_told hd after told
  · intro free
    have states : ∀ x ∈ d.states b steps, keeps x ∧ (b.view x.store).AddressesApart := by
      refine forall_states (fun d s free hd => ⟨h.step d s hd.1, ?_⟩) free ⟨first, apart⟩
      exact h.apart_step hd.1 hd.2 fun p attempts _ => free p attempts
    refine ⟨fun x hx => (states x hx).2, ?_⟩
    refine free.of_states h.step ?_ states first
    exact fun d s hd _ _ free => h.told_of_unchallenged hd free

/-- The store in memory shows addresses. -/
lemma showsAddresses_memory : ShowsAddresses Memory.backend Orderly where
  step _ s hd := hd.step s
  grounded _ hd := hd.waiting
  shows d s _ := memory_shows Memory.address_write (fun _ _ _ => rfl) d s
  found _ _ _ _ ha lower := Memory.userByEmail_of_address ha lower

/-- So does the relational store. -/
lemma showsAddresses_relational : ShowsAddresses Relational.backend Tidy where
  step _ s hd := hd.step s
  grounded _ hd := hd.waiting
  shows _ s hd := by
    apply relational_shows hd s
    intro p e r' grounded _ written
    exact written.address grounded.addressing hd.tables.whole.complete
  found _ hd _ _ ha lower := Relational.userByEmail_of_address hd.tables.whole.complete ha lower

/-- A registration that commits on a relational store while its address is taken is told that the
store has failed. -/
lemma answer_of_challenged {d : Overlap Relational} (h : d.Tidy) {s : Step} {p : Plan}
    (attempts : d.attempted? s = some p) {u : User} (saves : .saveUser u ∈ p.writes)
    (taken : (Relational.view d.store).Taken u) :
    d.answer? Relational.backend s = some (.error (.problem (.storage p.operation))) := by
  rcases relational_step h s with ⟨-, -, -, failed⟩ | ⟨q, e, attempts', -, written, -⟩
  · exact failed p attempts
  · obtain rfl := Option.some.inj (attempts.symm.trans attempts')
    exact absurd taken (written.not_taken h.tables.whole saves)

/-- In a relational store no two accounts have one address, whatever has been committed. -/
lemma apart_relational (w : World Relational) (steps : List Step) :
    ∀ x ∈ (startOn w .empty).states Relational.backend steps,
      (Relational.view x.store).AddressesApart := by
  have states : ∀ x ∈ (startOn w .empty).states Relational.backend steps,
      x.Tidy ∧ (Relational.view x.store).AddressesApart := by
    refine forall_states_of_step (fun d s hd => ⟨hd.1.step s, ?_⟩) ⟨tidy_startOn w, nofun⟩ steps
    refine showsAddresses_relational.apart_step hd.1 hd.2 fun p attempts answer u saves taken => ?_
    rw [answer_of_challenged hd.1 attempts saves taken] at answer
    cases answer
  exact fun x hx => (states x hx).2

/-- **One account for each address**, exactly when no registration is committed whose address is
taken. Calls overlap in any order on a store that is empty at first. On either kind of store no two
accounts ever have one address and registrations whose address is taken are told so, if and only if
no unit of work of a registration is committed while another account has its address. On a relational
store at least the former holds in any case.

**Proof sketch.** A plan saves one account, deletes one, or has nothing to do with accounts
(`Plan.Grounded.addressing`), and either store shows what comes of that (`memory_shows`,
`Written.address`). A registration that reads while its address is taken is refused as it should be.
One that commits then is told that the store has failed, or makes two accounts of one address. The
column of addresses leaves only the former (`Written.not_taken`). -/
theorem onePerAddress_iff_unchallenged (m : World Memory) (crashed : List Repository)
    (r : World Relational) (steps : List Step) :
    ((startOn m (.empty crashed)).OnePerAddress Memory.backend steps ↔
        (startOn m (.empty crashed)).Along Memory.backend (Unchallenged Memory.backend) steps) ∧
      ((startOn r .empty).OnePerAddress Relational.backend steps ↔
        (startOn r .empty).Along Relational.backend (Unchallenged Relational.backend) steps) ∧
      ∀ x ∈ (startOn r .empty).states Relational.backend steps,
        (Relational.view x.store).AddressesApart := by
  refine ⟨?_, ?_, apart_relational r steps⟩
  · apply showsAddresses_memory.onePerAddress_iff (orderly_startOn m crashed)
    intro i j e hi
    obtain ⟨-, u, hu, -⟩ := (Memory.address_eq_some_iff ..).mp hi
    cases hu
  · exact showsAddresses_relational.onePerAddress_iff (tidy_startOn r) nofun steps

/-! ## A run -/

/-- Somebody registers an address while somebody else, who has found it free, is about to. -/
def sampleRivals : List Step :=
  [.read (sampleOccasion 1) (.register (some "Ada") (some "ada@mail.org") none),
    .read (sampleOccasion 2) (.register (some "Eve") (some "ADA@mail.org") none),
    .commit 0, .commit 0]

/-- The two registrations make two accounts of one address in a store in memory. A relational store
refuses the second one, but not as it should be refused. -/
theorem not_onePerAddress_sampleRivals :
    ¬ (startOn (sampleWorld (Memory.empty [])) (.empty [])).OnePerAddress Memory.backend
        sampleRivals ∧
      ¬ (startOn (sampleWorld Relational.empty) .empty).OnePerAddress Relational.backend
        sampleRivals := by
  constructor
  · intro h
    have last := foldl_step_mem_states Memory.backend
      (startOn (sampleWorld (Memory.empty [])) (.empty [])) sampleRivals
    have same := h.apart _ last (.ofNat 16) (.ofNat 32) "ada@mail.org" (by decide) (by decide)
    exact absurd same (by decide)
  · intro h
    let d := (sampleRivals.take 3).foldl (step Relational.backend)
      (startOn (sampleWorld Relational.empty) .empty)
    let eve : User := ⟨.ofNat 32, "Eve", "ada@mail.org", (sampleOccasion 2).now⟩
    have told : d.Told Relational.backend (.commit 0) := h.told.2.2.2.1
    have tidy : d.Tidy := tidy_of_mem_states _ _ _ (foldl_step_mem_states ..)
    have taken : (Relational.view d.store).Taken eve := ⟨.ofNat 16, by decide, by decide +kernel⟩
    have registers : (d.waiting[0]?).bind Plan.account? = some eve := by decide +kernel
    obtain ⟨p, attempts, account⟩ := Option.bind_eq_some_iff.mp registers
    have answer := answer_of_challenged (s := .commit 0) tidy attempts
      (Plan.saveUser_of_account? account) taken
    exact storage_ne_addressTaken _ (told eve registers taken _ answer)

end Overlap

end CommonPurse
