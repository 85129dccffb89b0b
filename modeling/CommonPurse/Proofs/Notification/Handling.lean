import CommonPurse.Notification.Notifier
import CommonPurse.Proofs.Group.Change
import CommonPurse.Store.Memory
import Mathlib.Data.List.Forall2

/-!
# Who is told about an event

The handling of an event asks its surroundings for the stored group, and then for one delivery
after the other. Written down as a tree of such calls, with a branch for every answer, it shows
what is asked for, whatever the answers are: nothing at all for most events, and otherwise one
delivery to each member but the one who acted, also behind deliveries that fail.

## Main definitions

* `CommonPurse.Notification.Handling` — calls, and how it goes on with each answer.
* `CommonPurse.Notification.Handling.Runs` — the calls of one run, with their answers.
* `CommonPurse.Notification.Handling.run` — the run in a world, with the answers found there.
* `CommonPurse.Notification.handling` — the handling of an event.
* `CommonPurse.Notification.Delivered` — everybody is told who is to be told, once.

## Main results

* `CommonPurse.Notification.run_handling` — telling the members of a group is that handling.
* `CommonPurse.Notification.delivered_notify` — everybody but the one who acted is told, once.
-/

namespace CommonPurse.Notification

open CommonPurse.Store

/-! ## Calls and their answers -/

/-- A call on the surroundings, with its answer. -/
inductive Call where
  /-- The stored group with an identifier is asked for. -/
  | find (group : Id) (answer : Except Error (Option Group))
  /-- A message is to be delivered; a reason says why it is not. -/
  | send (recipient : Id) (message : Message) (failure : Option String)

/-- A call is a delivery that fails. -/
def Call.Fails : Call → Prop
  | .find _ _ => False
  | .send _ _ failure => failure.isSome = true

/-- Calls, one after the other, and how it goes on with each answer. -/
inductive Handling where
  | done (result : Except HandlerError Unit)
  | find (group : Id) (next : Except Error (Option Group) → Handling)
  | send (recipient : Id) (message : Message) (next : Option String → Handling)
  | note (entry : Log.Entry) (next : Handling)

namespace Handling

/-- The calls of one run, whatever they are answered, and its result. -/
inductive Runs : Handling → List Call → Except HandlerError Unit → Prop
  | done (result : Except HandlerError Unit) : Runs (.done result) [] result
  | find {group : Id} {next : Except Error (Option Group) → Handling} {calls : List Call}
      {result : Except HandlerError Unit} (answer : Except Error (Option Group))
      (rest : Runs (next answer) calls result) :
      Runs (.find group next) (.find group answer :: calls) result
  | send {recipient : Id} {message : Message} {next : Option String → Handling}
      {calls : List Call} {result : Except HandlerError Unit} (failure : Option String)
      (rest : Runs (next failure) calls result) :
      Runs (.send recipient message next) (.send recipient message failure :: calls) result
  | note {entry : Log.Entry} {next : Handling} {calls : List Call}
      {result : Except HandlerError Unit} (rest : Runs next calls result) :
      Runs (.note entry next) calls result

variable {σ τ : Type}

/-- What others observe of a delivery, apart from what is noted about its failure. -/
def sendTrace (recipient : Id) (m : Message) (d : Delivery) : List Observation :=
  deliveryTrace recipient m { d with failure := none }

/-- The run in a world: the store is asked for groups, and its transport delivers. -/
def run (b : Backend σ τ) :
    Handling → World σ → List Call × Except HandlerError Unit × World σ
  | .done result, w => ([], result, w)
  | .find group next, w =>
    let answer := (b.view w.store).group group
    match run b (next answer) w with
    | (calls, r) => (.find group answer :: calls, r)
  | .send recipient m next, w =>
    match w.transport.send (b.view w.store) recipient m with
    | (d, t) =>
      match run b (next d.failure)
          { w with transport := t, trace := w.trace ++ sendTrace recipient m d } with
      | (calls, r) => (.send recipient m d.failure :: calls, r)
  | .note entry next, w => run b next (w.say [entry])

/-- A run in a world is a run. -/
lemma runs_run (b : Backend σ τ) (h : Handling) (w : World σ) :
    h.Runs (h.run b w).1 (h.run b w).2.1 := by
  induction h generalizing w with
  | done result => exact .done result
  | find group next ih => exact .find _ (ih _ w)
  | send recipient m next ih => exact .send _ (ih _ _)
  | note entry next ih => exact .note (ih _)

end Handling

/-! ## The handling of an event -/

/-- What is noted about a delivery that fails. -/
def failureEntry (recipient : Id) (reason : String) : Log.Entry :=
  .warning "Notification failed"
    [("recipient_id", .text recipient.text), ("error", .text reason)]

/-- Tell recipients one after the other, and go on with the number of deliveries that failed. -/
def telling (m : Message) (next : ℕ → Handling) : List Id → ℕ → Handling
  | [], failed => next failed
  | recipient :: rest, failed =>
    .send recipient m fun
      | none => telling m next rest failed
      | some reason => .note (failureEntry recipient reason) (telling m next rest (failed + 1))

/-- The end of the handling when `count` recipients have been told. -/
def concluding (event : Id) (action : GroupAction) (count failed : ℕ) : Handling :=
  .note (sentEntry action count failed)
    (.done (if failed = 0 then .ok ()
      else .error ⟨s!"{failed} of {count} notifications failed", event⟩))

/-- The handling of what a member has done in a group that has been found. -/
def tellingOthers (event actor : Id) (action : GroupAction) (g : Group) : Handling :=
  match g.member? actor with
  | none => .done (.error ⟨"Member " ++ actor.text ++ " not found in group", event⟩)
  | some m =>
    match Message.ofAction? action g m with
    | none => .done (.ok ())
    | some x =>
      telling x (concluding event action (recipients g m.id).length) (recipients g m.id) 0

/-- The handling of an event. -/
def handling (e : Event) : Handling :=
  match e.subject with
  | .account _ _ => .done (.ok ())
  | .group group actor action =>
    if Message.isAnnounced action then
      .find group fun
        | .error _ => .done (.error ⟨"Failed to load group", e.id⟩)
        | .ok none => .done (.error ⟨"Group " ++ group.text ++ " not found", e.id⟩)
        | .ok (some g) => tellingOthers e.id actor action g
    else .done (.ok ())

section Run

variable {σ τ : Type} (b : Backend σ τ)

/-- A delivery leaves behind what the transport does, and a note when it fails. -/
lemma deliver_eq (recipient : Id) (m : Message) (w : World σ) {d : Delivery} {t : Transport}
    (sent : w.transport.send (b.view w.store) recipient m = (d, t)) :
    deliver b recipient m w =
      (d.failure.isNone,
        ({ w with transport := t, trace := w.trace ++ Handling.sendTrace recipient m d } :
            World σ).say (d.failure.map (failureEntry recipient)).toList) := by
  unfold deliver
  rw [sent]
  obtain ⟨failure, log, kept, posted⟩ := d
  cases failure with
  | none => simp [deliveryTrace, Handling.sendTrace, World.say]
  | some reason => simp [deliveryTrace, Handling.sendTrace, World.say, failureEntry]

/-- Telling recipients is delivering to all of them.

**Proof sketch.** Induct on the recipients. Either answer to the first delivery leads to the same
deliveries behind it; only the number of those that failed differs, and it is counted from the
front on one side and from the back on the other. -/
lemma run_telling (m : Message) (next : ℕ → Handling) (recipients : List Id) (failed : ℕ)
    (w : World σ) :
    ((telling m next recipients failed).run b w).2 =
      ((next (failed + (deliverAll b m recipients w).1)).run b
        (deliverAll b m recipients w).2).2 := by
  induction recipients generalizing failed w with
  | nil => rfl
  | cons recipient rest ih =>
    rcases sent : w.transport.send (b.view w.store) recipient m with ⟨d, t⟩
    have delivered := deliver_eq b recipient m w sent
    cases failure : d.failure with
    | none =>
      simp only [failure, Option.isNone_none, Option.map_none, Option.toList_none] at delivered
      have quiet (w : World σ) : w.say [] = w := by simp [World.say]
      rw [quiet] at delivered
      simp only [telling, Handling.run, sent, failure, ih, deliverAll, delivered, if_true]
    | some reason =>
      simp only [failure, Option.isNone_some, Option.map_some, Option.toList_some] at delivered
      simp only [telling, Handling.run, sent, failure, ih, deliverAll, delivered,
        Bool.false_eq_true, if_false]
      rw [Nat.add_assoc, Nat.add_comm 1]

/-- **Telling the members of a group about an event is the handling of that event**, on every store
and with every transport. -/
theorem run_handling (e : Event) (w : World σ) : ((handling e).run b w).2 = notify b e w := by
  unfold handling notify
  cases e.subject with
  | account user action => rfl
  | group group actor action =>
    by_cases announced : Message.isAnnounced action = true
    case neg => simp [announced, Handling.run]
    simp only [announced, if_true, prepare, Handling.run]
    rcases (b.view w.store).group group with error | _ | g
    · rfl
    · rfl
    · unfold tellingOthers
      cases member : g.member? actor with
      | none => simp only [member, Handling.run]
      | some m =>
        cases message : Message.ofAction? action g m with
        | none => simp only [member, message, Option.map_none, Handling.run]
        | some x =>
          simp only [member, message, Option.map_some, run_telling, Nat.zero_add, concluding,
            Handling.run]
          split <;> rfl

end Run

/-! ## Who is told -/

/-- What members are told about: somebody has joined, entered an expense, or settled the group. -/
inductive Announced : GroupAction → Prop
  | joined (color : Color) : Announced (.joined color)
  | expenseCreated (id : Id) (description : String) (amount : Decimal) (date : Timestamp) :
      Announced (.expenseCreated id description amount date)
  | settled (id : Id) (start : Option Timestamp) (finish : Timestamp)
      (transfers : List Transfer) : Announced (.settled id start finish transfers)

lemma isAnnounced_iff (action : GroupAction) :
    Message.isAnnounced action = true ↔ Announced action := by
  constructor
  · intro h
    cases action with
    | joined color => exact .joined color
    | expenseCreated id description amount date => exact .expenseCreated id description amount date
    | settled id start finish transfers => exact .settled id start finish transfers
    | _ => exact absurd h (by simp [Message.isAnnounced])
  · rintro (_ | _ | _) <;> rfl

/-- There is a message exactly for what is announced. -/
lemma isSome_ofAction? (action : GroupAction) (g : Group) (m : Member) :
    (Message.ofAction? action g m).isSome = Message.isAnnounced action := by
  cases action <;> rfl

/-- **Everybody is told who is to be told**: the calls that the handling of an event makes, and its
result. -/
inductive Delivered (e : Event) : List Call → Except HandlerError Unit → Prop
  /-- Nothing is asked for events about accounts, -/
  | account {user : Id} {action : AccountAction} (subject : e.subject = .account user action) :
      Delivered e [] (.ok ())
  /-- nor for what is not announced. -/
  | silent {group actor : Id} {action : GroupAction}
      (subject : e.subject = .group group actor action) (silent : ¬ Announced action) :
      Delivered e [] (.ok ())
  /-- Nobody is told when the group cannot be read, is not stored, or does not have the one who
  acted among its members. -/
  | unknown {group actor : Id} {action : GroupAction} {answer : Except Error (Option Group)}
      (subject : e.subject = .group group actor action) (announced : Announced action)
      (stranger : ∀ g, answer = .ok (some g) → actor ∉ g.members.map (·.id)) (text : String) :
      Delivered e [.find group answer] (.error ⟨text, e.id⟩)
  /-- Otherwise there is one delivery of one message to every other member, in the order of the
  members, and an error behind the last of them if one has failed. -/
  | told {group actor : Id} {action : GroupAction} {g : Group} {m : Member} {x : Message}
      {sends : List Call} {result : Except HandlerError Unit}
      (subject : e.subject = .group group actor action) (announced : Announced action)
      (member : g.member? actor = some m) (message : Message.ofAction? action g m = some x)
      (once : List.Forall₂ (fun recipient call => ∃ failure, call = .send recipient x failure)
        ((g.members.map (·.id)).filter (· ≠ actor)) sends)
      (ok : (∀ call ∈ sends, ¬ call.Fails) → result = .ok ())
      (error : (∃ call ∈ sends, call.Fails) → ∃ text, result = .error ⟨text, e.id⟩) :
      Delivered e (.find group (.ok (some g)) :: sends) result

/-- Whatever is answered, every recipient is told once, and it goes on with the number of deliveries
that have failed. -/
lemma Handling.Runs.telling {m : Message} {next : ℕ → Handling} {recipients : List Id} {failed : ℕ}
    {calls : List Call} {result : Except HandlerError Unit}
    (h : (telling m next recipients failed).Runs calls result) :
    ∃ sends rest more, calls = sends ++ rest ∧
      List.Forall₂ (fun recipient call => ∃ failure, call = .send recipient m failure)
        recipients sends ∧
      (more = 0 ↔ ∀ call ∈ sends, ¬ call.Fails) ∧ (next (failed + more)).Runs rest result := by
  induction recipients generalizing failed calls with
  | nil => exact ⟨[], calls, 0, rfl, .nil, by simp, h⟩
  | cons recipient others ih =>
    obtain - | - | @⟨_, _, _, calls, _, failure, rest⟩ | - := h
    cases failure with
    | none =>
      obtain ⟨sends, last, more, rfl, once, kept, rest⟩ := ih rest
      refine ⟨.send recipient m none :: sends, last, more, rfl, .cons ⟨none, rfl⟩ once, ?_, rest⟩
      rw [kept]
      simp [Call.Fails]
    | some reason =>
      obtain - | - | - | ⟨rest⟩ := rest
      obtain ⟨sends, last, more, rfl, once, -, rest⟩ := ih rest
      refine ⟨.send recipient m (some reason) :: sends, last, more + 1, rfl,
        .cons ⟨some reason, rfl⟩ once, ?_, ?_⟩
      · simp [Call.Fails]
      · rwa [Nat.add_assoc, Nat.add_comm 1] at rest

lemma notMem_of_member? {g : Group} {actor : Id} (h : g.member? actor = none) :
    actor ∉ g.members.map (·.id) := by
  intro there
  obtain ⟨m, hm, same⟩ := List.mem_map.mp there
  exact absurd (List.find?_eq_none.mp h m hm) (by simp [same])

/-- Every run of the handling of what a member has done in a group that has been found. -/
lemma delivered_tellingOthers {e : Event} {group actor : Id} {action : GroupAction} {g : Group}
    (subject : e.subject = .group group actor action) (announced : Announced action)
    {calls : List Call} {result : Except HandlerError Unit}
    (h : (tellingOthers e.id actor action g).Runs calls result) :
    Delivered e (.find group (.ok (some g)) :: calls) result := by
  unfold tellingOthers at h
  cases member : g.member? actor with
  | none =>
    rw [member] at h
    cases h
    refine .unknown subject announced ?_ _
    rintro _ ⟨⟩
    exact notMem_of_member? member
  | some m =>
    obtain ⟨x, message⟩ := Option.isSome_iff_exists.mp
      ((isSome_ofAction? action g m).trans ((isAnnounced_iff action).mpr announced))
    rw [member] at h
    simp only [message] at h
    obtain ⟨sends, last, failed, rfl, once, kept, rest⟩ := h.telling
    obtain - | - | - | ⟨⟨⟩⟩ := rest
    rw [recipients, Group.id_of_member? member] at once
    rw [List.append_nil, Nat.zero_add]
    refine .told subject announced member message once (fun ok => ?_) fun broken => ?_
    · exact if_pos (kept.mpr ok)
    · have some_failed : failed ≠ 0 := fun none_failed =>
        have ⟨call, there, fails⟩ := broken
        kept.mp none_failed call there fails
      exact ⟨_, if_neg some_failed⟩

/-- **Everybody but the one who acted is told, once.** Telling the members of a group about an event
comes down to calls on the store and the transport. Whatever these are answered, events about
accounts and what is not announced lead to no call and no error. Otherwise the group is asked for.
If it cannot be read, is not stored, or does not have the one who acted, nobody is told, and the
error names the event. Otherwise each other member is told once, in the order of the members and
with one message, whichever deliveries fail; the error, which names the event, comes behind the last
delivery, exactly if one has failed. -/
theorem delivered_notify {σ τ : Type} (b : Backend σ τ) (e : Event) (w : World σ) :
    ((handling e).run b w).2 = notify b e w ∧
      (handling e).Runs ((handling e).run b w).1 (notify b e w).1 ∧
      ∀ calls result, (handling e).Runs calls result → Delivered e calls result := by
  have same := run_handling b e w
  refine ⟨same, ?_, fun calls result h => ?_⟩
  · have runs := Handling.runs_run b (handling e) w
    rwa [same] at runs
  unfold handling at h
  cases subject : e.subject with
  | account user action =>
    rw [subject] at h
    cases h
    exact .account subject
  | group group actor action =>
    simp only [subject] at h
    split at h
    next announced =>
      rw [isAnnounced_iff] at announced
      obtain - | @⟨_, _, calls, _, answer, rest⟩ | - | - := h
      rcases answer with error | _ | g
      · cases rest
        exact .unknown subject announced (by simp) _
      · cases rest
        exact .unknown subject announced (by simp) _
      · exact delivered_tellingOthers subject announced rest
    next silent =>
      rw [isAnnounced_iff] at silent
      cases h
      exact .silent subject silent

/-- Ada, Ben and Cem share a group. -/
def sampleCrew : Group :=
  let member (n : ℕ) (name : String) : Member :=
    ⟨.ofNat n, .ofNat 9, name, name ++ "@koru.test", n = 1, .usual, .utc 0⟩
  ⟨.ofNat 9, "Sailing", .ofNat 1, .utc 0, [member 1 "Ada", member 2 "Ben", member 3 "Cem"]⟩

/-- Ben has joined them. -/
def sampleJoining : Event := ⟨.ofNat 7, .utc 0, .group (.ofNat 9) (.ofNat 2) (.joined .usual)⟩

/-- Ada cannot be reached, but Cem can. -/
def sampleCalls : List Call :=
  let welcome : Message := ⟨"Ben joined group Sailing", "Ben@koru.test"⟩
  [.find (.ofNat 9) (.ok (some sampleCrew)),
    .send (.ofNat 1) welcome (some "Recipient unreachable"), .send (.ofNat 3) welcome none]

/-- Cem is told about Ben behind a delivery that fails, and the failure is told afterwards. -/
theorem delivered_sampleJoining :
    (handling sampleJoining).Runs sampleCalls
        (.error ⟨"1 of 2 notifications failed", sampleJoining.id⟩) ∧
      Delivered sampleJoining sampleCalls
        (.error ⟨"1 of 2 notifications failed", sampleJoining.id⟩) := by
  have runs : (handling sampleJoining).Runs sampleCalls
      (.error ⟨"1 of 2 notifications failed", sampleJoining.id⟩) :=
    .find _ (.send _ (.note (.send _ (.note (.done _)))))
  let w : World Memory := ⟨.empty [], .queue [] none, .memory [.ofNat 1], ⟨.utc 0, .ofNat⟩, []⟩
  exact ⟨runs, (delivered_notify Memory.backend sampleJoining w).2.2 _ _ runs⟩

end CommonPurse.Notification
