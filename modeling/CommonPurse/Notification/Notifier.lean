import CommonPurse.World

/-!
# Telling the members of a group

When something is announced, every member but the one who acted is told, in the order of the
members. A delivery that fails does not keep the others from being told.

## Main definitions

* `CommonPurse.Notification.HandlerError` — an event could not be handled completely.
* `CommonPurse.Notification.notify` — tell the members of a group about an event.
-/

namespace CommonPurse.Notification

open CommonPurse.Store

/-- An event could not be handled completely. -/
structure HandlerError where
  message : String
  event : Id
  deriving DecidableEq, Repr, Inhabited

variable {σ τ : Type}

/-- What others observe of a delivery. -/
def deliveryTrace (recipient : Id) (m : Message) (d : Delivery) : List Observation :=
  (match d.posted with
    | some r => [Observation.posted r]
    | none => []) ++
  (if d.kept then [.notified recipient m] else []) ++ d.log.map .logged ++
  (match d.failure with
    | some reason =>
      [.logged (.warning "Notification failed"
        [("recipient_id", .text recipient.text), ("error", .text reason)])]
    | none => [])

/-- Deliver a message to one recipient; whether that worked. -/
def deliver (b : Backend σ τ) (recipient : Id) (m : Message) (w : World σ) : Bool × World σ :=
  match w.transport.send (b.view w.store) recipient m with
  | (d, t) =>
    (d.failure.isNone,
      { w with transport := t, trace := w.trace ++ deliveryTrace recipient m d })

/-- Deliver a message to every recipient; how many deliveries failed. -/
def deliverAll (b : Backend σ τ) (m : Message) : List Id → World σ → Nat × World σ
  | [], w => (0, w)
  | r :: rest, w =>
    match deliver b r m w with
    | (worked, w) =>
      match deliverAll b m rest w with
      | (failed, w) => (if worked then failed else failed + 1, w)

/-- The group, the actor and the message of an announced action. -/
def prepare (v : View) (event group actor : Id) (action : GroupAction) :
    Except HandlerError (Option (Group × Member × Message)) :=
  match v.group group with
  | .error _ => .error ⟨"Failed to load group", event⟩
  | .ok none => .error ⟨"Group " ++ group.text ++ " not found", event⟩
  | .ok (some g) =>
    match g.member? actor with
    | none => .error ⟨"Member " ++ actor.text ++ " not found in group", event⟩
    | some m => .ok ((Message.ofAction? action g m).map fun x => (g, m, x))

/-- The members that are told what somebody did. -/
def recipients (g : Group) (actor : Id) : List Id :=
  (g.members.map (·.id)).filter (· ≠ actor)

/-- What is noted when everybody has been told. -/
def sentEntry (action : GroupAction) (count failed : Nat) : Log.Entry :=
  .info "Group notifications sent"
    [("kind", .text action.tag), ("recipients", .integer count), ("failed", .integer failed)]

/-- Tell the members of a group about an event. Events about accounts, and actions that are not
announced, are passed over. -/
def notify (b : Backend σ τ) (e : Event) (w : World σ) : Except HandlerError Unit × World σ :=
  match e.subject with
  | .account _ _ => (.ok (), w)
  | .group group actor action =>
    if Message.isAnnounced action then
      match prepare (b.view w.store) e.id group actor action with
      | .error f => (.error f, w)
      | .ok none => (.ok (), w)
      | .ok (some (g, m, x)) =>
        let told := recipients g m.id
        match deliverAll b x told w with
        | (failed, w) =>
          let w := w.say [sentEntry action told.length failed]
          if failed = 0 then (.ok (), w)
          else (.error ⟨s!"{failed} of {told.length} notifications failed", e.id⟩, w)
    else (.ok (), w)

end CommonPurse.Notification
