import CommonPurse.Http.Service
import CommonPurse.Proofs.Command.Stopped
import CommonPurse.Proofs.History.Regular
import CommonPurse.Proofs.Service.Authority

/-!
# What clients are told when something fails

A call either returns or is refused with a problem of one of the known kinds. The problem is an
internal one only when the store has failed in the course of the call, or when a settlement finds
that its deltas do not balance or that pairing does not come to an end. So it is with the responses
to requests, which are never the one for failures that nobody expected. Nothing is said about calls
in which a hash is compared that is not ASCII, in which an amount has too many digits, or in which a
text is not well formed: the texts of commands are, and requests with other texts are left out.

## Main definitions

* `CommonPurse.Command.Unforeseen` — a command for which hashes and amounts are not made.
* `CommonPurse.Http.Action.Told` — a call is refused in terms that the client is told.
* `CommonPurse.Http.Action.StorageFails`, `Unbalanced` — the two causes of internal problems.
* `CommonPurse.Http.Request.Accountable` — what is wanted of requests.

## Main results

* `CommonPurse.Command.told_of_not_unforeseen` — refused commands are told about.
* `CommonPurse.Http.accountable_of_reachable` — so are all calls and requests.
* `CommonPurse.Http.not_told_sampleFailures` — there are calls that are not told about, and internal
  problems for which storage is no excuse.
-/

namespace CommonPurse

open CommonPurse.Store

/-! ## What is not foreseen -/

/-- A command that meets with something that hashes and amounts are not made for: a hash that is not
ASCII is compared, or arithmetic fails on amounts that come to more than the largest one. -/
inductive Command.Unforeseen (v : View) : Command → Prop
  | hash {email : Option String} {hash address stored : String} {u : User}
      (valid : Entry.email email = .ok address)
      (credential : v.credential address = .ok (some stored))
      (found : v.userByEmail address = .ok (some u)) (foreign : ¬ (Plain stored ∧ Plain hash)) :
      Unforeseen v (.login email hash)
  | newAmount {user group : Id} {title amount : String} {c : Nat} {e : Int} {f : Decimal.Fault}
      (read : Decimal.parse? amount = some (.finite false c e))
      (large : Decimal.largest.size < Decimal.size c e)
      (faulty : Entry.amount amount = .error (.arithmetic f)) :
      Unforeseen v (.createExpense user group title amount)
  | otherAmount {user group expense : Id} {title amount : String} {c : Nat} {e : Int}
      {f : Decimal.Fault} (read : Decimal.parse? amount = some (.finite false c e))
      (large : Decimal.largest.size < Decimal.size c e)
      (faulty : Entry.amount amount = .error (.arithmetic f)) :
      Unforeseen v (.updateExpense user group expense title amount)
  | balance {user group : Id} {g : Group} {es : List Expense} {f : Decimal.Fault}
      (loaded : v.group group = .ok (some g)) (opened : v.unsettled group = .ok (some es))
      (large : 10 ^ 28 ≤ Balance.totalCents (es.map Settlement.paymentOf))
      (faulty : Balance.transfers (es.map Settlement.paymentOf) (g.members.map (·.id)) =
        .error (.arithmetic f)) : Unforeseen v (.settle user group)

/-- Arithmetic fails only on numbers that are larger than the largest amount. -/
lemma Entry.large_of_amount {value : String} {f : Decimal.Fault}
    (h : amount value = .error (.arithmetic f)) :
    ∃ c e, Decimal.parse? value = some (.finite false c e) ∧
      Decimal.largest.size < Decimal.size c e := by
  unfold amount at h
  cases hp : Decimal.parse? value with
  | none => simp [hp, refusedAmount] at h
  | some d =>
    simp only [hp] at h
    split at h
    next positive =>
      cases d with
      | finite n c e =>
        obtain rfl : n = false := by
          simp only [Decimal.isPositive, Bool.and_eq_true, Bool.not_eq_true'] at positive
          exact positive.2.1
        refine ⟨c, e, rfl, not_le.mp fun small => ?_⟩
        obtain ⟨cents, done⟩ := Decimal.exists_toCents (a := .finite false c e) small
        simp only [done] at h
        split at h <;> simp [refusedAmount] at h
      | infinite n => cases positive
      | nan n s p => cases positive
    next => simp [refusedAmount] at h

/-! ## Internal problems -/

/-- The client is told that something else is at fault than the request. -/
structure Problem.Internal (p : Problem) : Prop where
  kind : p.kind = .internal
  status : p.status = 500

namespace Http

namespace Action

/-- A call is refused. -/
def Refused (w : World Memory) (r : Refusal) : Action → Prop
  | .command c => (w.perform Memory.backend c).1 = .error r
  | .query q => (w.ask Memory.backend q).1 = .error r
  | .live | .ready | .registerDevice _ _ | .removeDevice _ => False

/-- The store fails in the course of a call: one of its reads does, or its unit of work. -/
inductive StorageFails (w : World Memory) : Action → Prop
  | deciding {c : Command} {operation : String} {e : Error}
      (stopped : c.plan w.store.view w.occasion = .error (.unreadable operation e))
      (fails : w.store.view.Fails e) : StorageFails w (.command c)
  | working {c : Command} {p : Plan} {e : Error}
      (planned : c.plan w.store.view w.occasion = .ok p)
      (fails : (Memory.backend.carryOut p.writes p.events w.store).1 = .error e) :
      StorageFails w (.command c)
  | asking {q : Query} {operation : String} {e : Error}
      (stopped : q.answer w.store.view = .error (.unreadable operation e))
      (fails : w.store.view.Fails e) : StorageFails w (.query q)

/-- A settlement finds that its deltas do not balance, or that pairing does not come to an end. -/
inductive Unbalanced (v : View) : Action → Prop
  | settle {user group : Id} {g : Group} {es : List Expense} {f : Balance.Failure}
      (loaded : v.group group = .ok (some g)) (opened : v.unsettled group = .ok (some es))
      (failed : Balance.transfers (es.map Settlement.paymentOf) (g.members.map (·.id)) = .error f)
      (guarded : (∃ ds, f = .unbalanced ds) ∨ ∃ n, f = .unsettled n) :
      Unbalanced v (.command (.settle user group))

/-- A call is not foreseen. -/
def Unforeseen (v : View) : Action → Prop
  | .command c => c.Unforeseen v
  | .query _ | .live | .ready | .registerDevice _ _ | .removeDevice _ => False

/-- If a call is refused, the client is told about a problem, and the problem is an internal one
only with an excuse. -/
def Told (w : World Memory) (excuse : Prop) (a : Action) : Prop :=
  ∀ r, a.Refused w r → ∃ p, r.cause = .inl p ∧ (p.Client ∨ p.Internal ∧ excuse)

/-- The two excuses for internal problems. -/
def Excused (w : World Memory) (a : Action) : Prop := a.StorageFails w ∨ a.Unbalanced w.store.view

end Action

end Http

open CommonPurse.Http

/-! ## Calls -/

section Calls

variable {w : World Memory}

/-- What ends a call ordinarily is told. -/
lemma Stop.Ordinary.told {s : Stop} {a : Action} (h : s.Ordinary w.store.view)
    (reads : ∀ operation e, s = .unreadable operation e → w.store.view.Fails e →
      a.StorageFails w) :
    ∃ p, s.refusal.cause = .inl p ∧ (p.Client ∨ p.Internal ∧ a.Excused w) := by
  cases h with
  | unreadable fails => exact ⟨_, rfl, .inr ⟨⟨rfl, rfl⟩, .inl (reads _ _ rfl fails)⟩⟩
  | refused client => exact ⟨_, rfl, .inl client⟩

/-- What leaves a command without a plan is told, unless the command is not foreseen. Times can be
put in order, and arithmetic fails only on large amounts. -/
lemma Command.told_of_plan_eq_error (regular : w.store.contents.Regular) {c : Command}
    (usual : ¬ c.Unforeseen w.store.view) {s : Stop}
    (stopped : c.plan w.store.view w.occasion = .error s) :
    ∃ p, s.refusal.cause = .inl p ∧
      (p.Client ∨ p.Internal ∧ (Action.command c).Excused w) := by
  cases Command.stops_of_plan stopped with
  | ordinary h => exact h.told fun operation e hs fails => .deciding (hs ▸ stopped) fails
  | hash valid credential found foreign =>
    exact absurd (.hash valid credential found foreign) usual
  | newAmount faulty =>
    obtain ⟨k, x, read, large⟩ := Entry.large_of_amount faulty
    exact absurd (.newAmount read large faulty) usual
  | otherAmount faulty =>
    obtain ⟨k, x, read, large⟩ := Entry.large_of_amount faulty
    exact absurd (.otherAmount read large faulty) usual
  | endless found endless =>
    exact absurd (regular.isFinite_of_view found) (Bool.eq_false_iff.mp endless)
  | unordered times =>
    exact times.elim (absurd · regular.unsettled_ne_none)
      (absurd · regular.lastSettlement_ne_none)
  | @balance user group g es f loaded opened failed =>
    have guarded : ((∃ ds, f = .unbalanced ds) ∨ ∃ n, f = .unsettled n) →
        (Action.command (.settle user group)).Excused w :=
      fun guard => .inr (.settle loaded opened failed guard)
    cases f with
    | arithmetic f =>
      refine absurd (.balance loaded opened (not_lt.mp fun small => ?_) failed) usual
      exact regular.transfers_faultless opened small _ f failed
    | unbalanced ds => exact ⟨_, rfl, .inr ⟨⟨rfl, rfl⟩, guarded (.inl ⟨ds, rfl⟩)⟩⟩
    | unsettled n => exact ⟨_, rfl, .inr ⟨⟨rfl, rfl⟩, guarded (.inr ⟨n, rfl⟩)⟩⟩

/-- **A command that is refused is told about**, unless it is not foreseen.

**Proof sketch.** The reasons for which commands have no plan are known (`Command.stops_of_plan`):
reads that fail, requests that are at fault, and settlements that do not balance. With a plan, only
the unit of work is left to fail. -/
theorem Command.told_of_not_unforeseen (regular : w.store.contents.Regular) {c : Command}
    (usual : ¬ c.Unforeseen w.store.view) :
    (Action.command c).Told w ((Action.command c).Excused w) := by
  intro r refused
  change (w.perform Memory.backend c).1 = .error r at refused
  rw [World.perform_eq] at refused
  cases hp : c.plan w.store.view w.occasion with
  | error s =>
    simp only [hp, Except.error.injEq] at refused
    exact refused ▸ told_of_plan_eq_error regular usual hp
  | ok p =>
    simp only [hp] at refused
    cases vet : w.store.vet p.writes p.events with
    | ok u => simp [vet] at refused
    | error e =>
      have fails : (Memory.backend.carryOut p.writes p.events w.store).1 = .error e := by
        simp [Memory.carryOut_eq, vet]
      simp only [vet, Except.error.injEq] at refused
      subst refused
      exact ⟨_, rfl, .inr ⟨⟨rfl, rfl⟩, .inl (.working hp fails)⟩⟩

/-- **A query that is refused is told about.** -/
theorem Query.told (regular : w.store.contents.Regular) (q : Query) :
    (Action.query q).Told w ((Action.query q).Excused w) := by
  intro r refused
  change (w.ask Memory.backend q).1 = .error r at refused
  have shown : Memory.backend.view w.store = w.store.view := rfl
  cases hq : q.answer w.store.view with
  | ok a => simp [World.ask, shown, hq] at refused
  | error s =>
    simp only [World.ask, shown, hq, Except.error.injEq] at refused
    subst refused
    cases Query.stops_of_answer hq with
    | ordinary h => exact h.told fun operation e hs fails => .asking (hs ▸ hq) fails
    | unordered times => exact absurd times regular.unsettled_ne_none

/-- **Whatever is refused is told about**, unless it is not foreseen. -/
theorem Http.Action.told_of_not_unforeseen (regular : w.store.contents.Regular) {a : Action}
    (usual : ¬ a.Unforeseen w.store.view) : a.Told w (a.Excused w) := by
  cases a with
  | command c => exact Command.told_of_not_unforeseen regular usual
  | query q => exact q.told regular
  | _ => exact fun _ refused => refused.elim

end Calls

/-! ## Requests -/

namespace Http

/-- A request asks for an action: it has a route, and its fields are filled properly. -/
def Request.Asks (r : Request) (a : Action) : Prop :=
  ∃ route args, find r.method r.path = .route route args ∧ readFields? route args r = some (.ok a)

/-- A response is the one for failures that nobody expected, and is noted as such. -/
def Unexpected (r : Request) (answer : Response × World Memory) : Prop :=
  ∃ (w : World Memory) (name : String), answer =
    (problemResponse r.path unexpectedProblem, w.say [unexpectedEntry r.method r.path name])

/-- The response to a request is never the one for failures that nobody expected, and it tells of a
failure of the service only with one of the two excuses. -/
structure Request.Accountable (service : String) (r : Request) (w : World Memory) : Prop where
  expected : ¬ Unexpected r (respond Memory.backend service r w)
  failed : (respond Memory.backend service r w).1.status = 500 →
    ∃ a, r.Asks a ∧ a.Excused w

lemma mem_of_firstFit {parts : List String} {routes : List Route} {r : Route} {args : List String}
    (h : firstFit parts routes = some (r, args)) : r ∈ routes := by
  induction routes with
  | nil => cases h
  | cons first rest ih =>
    unfold firstFit at h
    split at h
    · obtain ⟨rfl, -⟩ := Prod.mk.inj (Option.some.inj h)
      exact List.mem_cons_self
    · exact List.mem_cons_of_mem _ (ih h)

/-- No route answers with the status of a failure when it succeeds. -/
lemma status_of_find {method path : String} {route : Route} {args : List String}
    (h : find method path = .route route args) : route.status ≠ 500 := by
  have all : ∀ r ∈ routes, r.status ≠ 500 := by decide
  unfold find at h
  dsimp only at h
  split at h
  next r a first =>
    obtain ⟨rfl, -⟩ := Found.route.inj h
    exact all _ (List.mem_filter.mp (mem_of_firstFit first)).1
  next => split_ifs at h

/-- The response to an action: its status does not tell of a failure, or the action is refused. -/
lemma act_cases (service method path : String) {status : Nat} (fine : status ≠ 500) (a : Action)
    (w : World Memory) :
    (act Memory.backend service method path status a w).1.status ≠ 500 ∨
      ∃ (r : Refusal) (w' : World Memory), a.Refused w r ∧
        act Memory.backend service method path status a w =
          ((refused method path r).1, w'.say [(refused method path r).2]) := by
  cases a with
  | live => exact .inl (show 200 ≠ 500 by decide)
  | ready =>
    refine .inl ?_
    simp only [act, checkReady]
    split
    · exact (show 200 ≠ 500 by decide)
    · exact (show 503 ≠ 500 by decide)
  | registerDevice user device => exact .inl fine
  | removeDevice user => exact .inl fine
  | command c =>
    simp only [act, Action.Refused]
    rcases w.perform Memory.backend c with ⟨r | p, w'⟩
    · exact .inr ⟨r, w', rfl, rfl⟩
    · exact .inl fine
  | query q =>
    simp only [act, Action.Refused]
    rcases w.ask Memory.backend q with ⟨r | p, w'⟩
    · exact .inr ⟨r, w', rfl, rfl⟩
    · exact .inl fine

/-- The response to a request: its status does not tell of a failure, or the action that it asks for
is refused. -/
lemma respond_cases (service : String) (r : Request) (w : World Memory) :
    (respond Memory.backend service r w).1.status ≠ 500 ∨
      ∃ (a : Action) (e : Refusal) (w' : World Memory), r.Asks a ∧ a.Refused w e ∧
        respond Memory.backend service r w =
          ((refused r.method r.path e).1, w'.say [(refused r.method r.path e).2]) := by
  unfold respond
  dsimp only
  split
  · exact .inl (show 404 ≠ 500 by decide)
  · exact .inl (show 405 ≠ 500 by decide)
  · exact .inl (show 307 ≠ 500 by decide)
  next route args found =>
    split
    · exact .inl (show 400 ≠ 500 by decide)
    · exact .inl (show 422 ≠ 500 by decide)
    next a filled =>
      refine (act_cases service r.method r.path (status_of_find found) a w).imp_right ?_
      rintro ⟨e, w', refused, response⟩
      exact ⟨a, e, w', ⟨route, args, found, filled⟩, refused, response⟩

/-- A problem that the client is told about is noted in other words than a failure that nobody
expected. -/
lemma not_unexpected_of_problem {r : Request} {p : Problem} (w : World Memory) :
    ¬ Unexpected r (problemResponse r.path p, w.say [problemEntry r.method r.path p]) := by
  rintro ⟨w', name, same⟩
  have traces := congrArg World.trace (Prod.mk.inj same).2
  have notes := (List.append_inj' traces rfl).2
  simp [problemEntry, unexpectedEntry, Log.Entry.error] at notes

/-- **A request is accountable when the action that it asks for is told about.** -/
lemma Request.accountable_of_told {r : Request} {w : World Memory} (service : String)
    (told : ∀ a, r.Asks a → a.Told w (a.Excused w)) : r.Accountable service w := by
  rcases respond_cases service r w with fine | ⟨a, e, w', asks, refusal, response⟩
  · refine ⟨fun ⟨w', name, same⟩ => fine ?_, fun failed => absurd failed fine⟩
    rw [same]
    rfl
  · obtain ⟨p, cause, known⟩ := told a asks e refusal
    simp only [refused, cause] at response
    refine ⟨response ▸ not_unexpected_of_problem w', fun failed => ?_⟩
    rw [response] at failed
    rcases known with client | ⟨-, excuse⟩
    · exact absurd failed client.toNat_status_ne
    · exact ⟨a, asks, excuse⟩

/-- **Failures are told about, and only two things are an excuse for internal problems.** In every
state that the store comes to, with any collections switched off: a call returns or is refused with
a problem, and so it is with the actions that requests ask for. The texts of calls and requests are
well formed.

**Proof sketch.** Amounts and times are regular in such a state (`Reachable.regular`). So every
refusal is told about (`Action.told_of_not_unforeseen`), and the responses to refused actions are
the only ones whose status can tell of a failure (`respond_cases`). -/
theorem accountable_of_reachable {w : World Memory} (reachable : w.store.Reachable) :
    (∀ a : Action, ¬ a.Unforeseen w.store.view → a.Told w (a.Excused w)) ∧
      ∀ (service : String) (r : Request), r.WellFormed →
        (∀ a, r.Asks a → ¬ a.Unforeseen w.store.view) → r.Accountable service w :=
  have told : ∀ a : Action, ¬ a.Unforeseen w.store.view → a.Told w (a.Excused w) :=
    fun _ usual => Action.told_of_not_unforeseen reachable.regular usual
  ⟨told, fun service _ _ usual => Request.accountable_of_told service fun a asks =>
    told a (usual a asks)⟩

/-- The world of `sampleOpen` with the expenses switched off. -/
def sampleDark : World Memory :=
  World.sampleOpen.withStore (World.sampleOpen.store.setCrashed .expenses true)

/-- The administrator asks for the group to be settled. -/
def sampleRequest : Request :=
  ⟨"POST", "/api/v1/groups/00000000-0000-0000-0000-000000000020/settle",
    [("X-User-Id", "00000000-0000-0000-0000-000000000010")], ""⟩

lemma plainLower_eq (s : String) : plainLower s = String.ofList (s.toList.map Char.toLower) := by
  rw [← String.toList_inj, plainLower, String.toList_map, String.toList_ofList]

lemma asks_sampleRequest {a : Action} (h : sampleRequest.Asks a) :
    a = .command (.settle (.ofNat 16) (.ofNat 32)) := by
  obtain ⟨route, args, found, filled⟩ := h
  have path : sampleRequest.path =
      "/api/v1/groups/00000000-0000-0000-0000-000000000020/settle" := by
    decide +kernel
  have header : sampleRequest.header? "x-user-id" =
      some "00000000-0000-0000-0000-000000000010" := by
    simp only [Request.header?, plainLower_eq]
    decide +kernel
  have actor : sampleRequest.actor = .ok (.ofNat 16) := by
    rw [Request.actor, header]
    rfl
  rw [path] at found
  obtain ⟨rfl, rfl⟩ := Found.route.inj found
  have read : ((groupArgument ["00000000-0000-0000-0000-000000000020"]).both
      sampleRequest.actor).map (fun p => Action.command (.settle p.2 p.1)) = .ok a :=
    Option.some.inj filled
  rw [actor] at read
  exact (Except.ok.inj read).symm

lemma wellFormed_sampleRequest : sampleRequest.WellFormed := by
  intro v body
  cases body

/-- The settlement that is asked for when expenses cannot be read is accountable. -/
theorem accountable_sampleDark :
    sampleDark.store.Reachable ∧
      (Action.command (.settle (.ofNat 16) (.ofNat 32))).Told sampleDark
        ((Action.command (.settle (.ofNat 16) (.ofNat 32))).Excused sampleDark) ∧
      sampleRequest.WellFormed ∧ sampleRequest.Accountable "purse" sampleDark := by
  have reachable : sampleDark.store.Reachable :=
    World.reachable_sampleOpen.setCrashed .expenses true
  have usual : ¬ (Action.command (.settle (.ofNat 16) (.ofNat 32))).Unforeseen
      sampleDark.store.view := by
    intro unforeseen
    cases (unforeseen : Command.Unforeseen sampleDark.store.view _) with
    | balance loaded opened large faulty => cases opened
  have both := accountable_of_reachable reachable
  exact ⟨reachable, both.1 _ usual, wellFormed_sampleRequest,
    both.2 _ _ wellFormed_sampleRequest fun a ha => asks_sampleRequest ha ▸ usual⟩

/-- The settlement is refused, and the client is told of an internal problem. -/
example : (match (sampleDark.perform Memory.backend (.settle (.ofNat 16) (.ofNat 32))).1 with
    | .error (.problem p) => p.status
    | _ => 0) = 500 := by
  decide +kernel

/-! ## Calls that are not told about -/

/-- A refusal that the client is not told about, or that blames something else than the request. -/
def isFailure (r : Refusal) : Bool :=
  match r.cause with
  | .inl p => p.kind = .internal
  | .inr _ => true

/-- Whether a command is refused in such a way. -/
def failsIn (w : World Memory) (c : Command) : Bool :=
  match c.plan w.store.view w.occasion with
  | .error (.refused r) => isFailure r
  | _ => false

/-- When a command is refused in such a way, storage is no excuse. -/
lemma not_told_of_failsIn {w : World Memory} {c : Command} (h : failsIn w c = true) :
    ¬ (Action.command c).Told w ((Action.command c).StorageFails w) := by
  intro told
  unfold failsIn at h
  split at h
  next r stopped =>
    have refused : (Action.command c).Refused w r := by
      show (w.perform Memory.backend c).1 = _
      rw [World.perform_eq, stopped]
      rfl
    obtain ⟨p, cause, client | ⟨-, fails⟩⟩ := told r refused
    · have internal : p.kind = .internal := by simpa [isFailure, cause] using h
      have kinds := client.kind
      rw [internal] at kinds
      exact absurd kinds (by decide)
    · cases fails with
      | deciding unreadable _ => cases stopped.symm.trans unreadable
      | working planned _ => cases stopped.symm.trans planned
  next => cases h

/-- Three people share a trip and two of them a house, with large expenses. -/
def sampleVast : World Memory :=
  (World.sampleWorld.withStore (.empty [])).run
    [World.sampleCall 1 (.register (some "Ada") (some "ada@mail.org") (some "aa11")),
      World.sampleCall 2 (.register (some "Ben") (some "ben@mail.org") none),
      World.sampleCall 3 (.register (some "Eve") (some "eve@mail.org") none),
      World.sampleCall 4 (.createGroup (.ofNat 16) "Trip" none),
      World.sampleCall 5 (.joinGroup (.ofNat 32) (.ofNat 64) none),
      World.sampleCall 6 (.joinGroup (.ofNat 48) (.ofNat 64) none),
      World.sampleCall 7 (.createExpense (.ofNat 16) (.ofNat 64) "Boat" "5E+25"),
      World.sampleCall 8 (.createGroup (.ofNat 16) "House" none),
      World.sampleCall 9 (.joinGroup (.ofNat 32) (.ofNat 128) none),
      World.sampleCall 10 (.createExpense (.ofNat 32) (.ofNat 128) "Roof" "9E+25"),
      World.sampleCall 11 (.createExpense (.ofNat 32) (.ofNat 128) "Wall" "9E+25"),
      World.sampleCall 12 (.createExpense (.ofNat 32) (.ofNat 128) "Door" "9E+25")]

/-- A settlement with deltas that do not balance, one with transfers that have too many digits, a
hash that is not ASCII, and amounts that have too many digits. -/
def sampleFailures : List Command :=
  [.settle (.ofNat 16) (.ofNat 64), .settle (.ofNat 16) (.ofNat 128),
    .login (some "ada@mail.org") "é",
    .createExpense (.ofNat 16) (.ofNat 64) "Ship" "1E+30",
    .updateExpense (.ofNat 16) (.ofNat 64) (.ofNat 112) "Ship" "1E+30"]

/-- What a settlement is computed from: the payments and the members, if the user may settle. -/
def basis? (v : View) (user group : Id) : Option (List Balance.Payment × List Id) :=
  match v.group group, v.unsettled group, v.lastSettlement group with
  | .ok (some g), .ok (some es), .ok (some _) =>
    if g.isAdmin user then some (es.map Settlement.paymentOf, g.members.map (·.id)) else none
  | _, _, _ => none

/-- A settlement that finds no transfers fails, whatever the reason is. -/
lemma failsIn_settle {w : World Memory} {user group : Id} {payments : List Balance.Payment}
    {members : List Id} {f : Balance.Failure}
    (basis : basis? w.store.view user group = some (payments, members))
    (failed : Balance.transfers payments members = .error f) :
    failsIn w (.settle user group) = true := by
  unfold basis? at basis
  split at basis
  next g es last loaded opened latest =>
    obtain ⟨admin, same⟩ := Option.ite_none_right_eq_some.mp basis
    obtain ⟨rfl, rfl⟩ := Prod.mk.inj (Option.some.inj same)
    have settled : (OpenGroup.ofGroup g).settle w.occasion user es last =
        (.error (.unsettleable f), .ofGroup g, es) := by
      have allowed : (OpenGroup.ofGroup g).requireAdmin user = .ok () := if_pos admin
      have missing : Settlement.create (w.occasion.ids 0) (OpenGroup.ofGroup g).group.id
          (last.map (·.finish)) w.occasion.now es
          ((OpenGroup.ofGroup g).group.members.map (·.id)) = .error f :=
        (Command.settlement_eq_error_iff ..).mpr failed
      simp only [OpenGroup.settle, allowed, missing]
    have stopped : (Command.settle user group).plan w.store.view w.occasion =
        .error (.refused (.unsettleable f)) := by
      have group_ : loadGroup w.store.view group = .ok (.ofGroup g) :=
        (loadGroup_eq_ok_iff ..).mpr ⟨g, loaded, rfl⟩
      simp only [Command.plan, Command.planSettle, group_, opened, latest, read, ordered,
        settled, bind, Except.bind]
    rw [failsIn, stopped]
    cases f <;> rfl
  next => cases basis

/-- What has been paid for the house. -/
def samplePayments : List Balance.Payment :=
  List.replicate 3 ⟨.ofNat 32, .finite false (9 * 10 ^ 27) (-2)⟩

/-- Half of what has been paid takes more than 28 digits in hundredths. -/
lemma transfers_samplePayments :
    Balance.transfers samplePayments [.ofNat 16, .ofNat 32] = .error (.arithmetic .invalid) := by
  let ds : Balance.Balances :=
    [(.ofNat 16, .finite true (135 * 10 ^ 25) (-1)),
      (.ofNat 32, .finite false (135 * 10 ^ 25) (-1))]
  have found : Balance.deltas samplePayments [.ofNat 16, .ofNat 32] = .ok ds := rfl
  have sorted : ds.mergeSort Balance.orderByAmount = ds :=
    List.mergeSort_of_pairwise (by decide +kernel)
  simp only [Balance.transfers, found, Balance.transfersOf, sorted]
  rfl

/-- **Not every failure is told about, and storage is not the only excuse**: there is a state that
the store comes to in which a settlement that does not balance ends in an internal problem, and in
which clients are not told about a settlement, a hash, and amounts that are not foreseen. -/
theorem not_told_sampleFailures :
    sampleVast.store.Reachable ∧ ∀ c ∈ sampleFailures,
      ¬ (Action.command c).Told sampleVast ((Action.command c).StorageFails sampleVast) := by
  refine ⟨World.reachable_run (.empty []) fun o c hc => ?_, fun c hc => not_told_of_failsIn ?_⟩
  · simp only [World.sampleCall, List.mem_cons, World.Move.call.injEq, List.not_mem_nil,
      or_false] at hc
    rcases hc with h | h | h | h | h | h | h | h | h | h | h | h <;> exact h.1 ▸ rfl
  have basis : basis? sampleVast.store.view (.ofNat 16) (.ofNat 128) =
      some (samplePayments, [.ofNat 16, .ofNat 32]) := by
    decide +kernel
  have house := failsIn_settle basis transfers_samplePayments
  have others : ∀ c ∈ sampleFailures.erase (.settle (.ofNat 16) (.ofNat 128)),
      failsIn sampleVast c = true := by
    decide +kernel
  by_cases same : c = .settle (.ofNat 16) (.ofNat 128)
  · exact same ▸ house
  · exact others c ((List.mem_erase_of_ne same).mpr hc)

end Http

end CommonPurse
