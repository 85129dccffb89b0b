import CommonPurse.Proofs.Json.Shown
import CommonPurse.Proofs.Pipeline.Conduct
import CommonPurse.Proofs.Text.Numeral
import CommonPurse.Proofs.Text.Utf8
import Mathlib.Data.List.TakeWhile

/-!
# Identifiers on a channel

Whoever listens on a channel gets messages of every type and with every payload, up to the end of
the stream or to the loss of the connection. Each message has at most one reaction: a dispatch when
it announces an identifier, a note when it should but does not, and nothing for other types. What
is published comes back as the same identifiers, among whatever else is sent on the channel.

There is one kind of message that listeners do not pass over. A payload without a text is taken for
a malformed identifier, but the note about it asks for the text once more, so that it ends the
listening after all.

## Main definitions

* `CommonPurse.Bus.carried` — the identifiers that a connection carries before it fails.
* `CommonPurse.Announcement.Form` — an identifier as a message: its text, or the bytes of that.
* `CommonPurse.Dispatcher.Incoming.announced?` — the identifier that a message announces.
* `CommonPurse.Dispatcher.Incoming.Readable` — a message that has a text, if it needs one.
* `CommonPurse.Dispatcher.reactions` — what messages lead to, in order.
* `CommonPurse.Dispatcher.Source` — a message that was published, or a foreign one.
* `CommonPurse.Dispatcher.Follows` — what is wanted of those who listen.

## Main results

* `CommonPurse.World.publish_channel` — publishing sends one message for each identifier.
* `CommonPurse.Announcement.receive_eq` — what is received of a payload, if it has a text.
* `CommonPurse.Announcement.receive_payload` — an identifier is read back from its messages.
* `CommonPurse.Dispatcher.relays_iff` — what is published is dispatched, among foreign messages, as
  long as all of them can be read.
* `CommonPurse.Dispatcher.not_follows_sampleLong` — a number that is too long ends the listening.
-/

namespace CommonPurse

open CommonPurse.Store CommonPurse.Text

/-! ## Publishing -/

namespace Bus

/-- The identifiers that a connection carries before it fails. -/
def carried (ids : List Id) : Option ℕ → List Id
  | none => ids
  | some n => ids.take n

/-- A channel takes the identifiers that its connection carries, in order. -/
lemma acceptAll_channel (name : String) (ids sent : List Id) (remaining : Option ℕ) :
    (channel name sent remaining).acceptAll ids =
      ((carried ids remaining).length == ids.length,
        channel name (sent ++ carried ids remaining) (remaining.map (· - ids.length))) := by
  induction ids generalizing sent remaining with
  | nil => rcases remaining with _ | n <;> simp [acceptAll, carried]
  | cons i rest ih =>
    rcases remaining with _ | _ | n
    · simp [acceptAll, accept, ih, carried]
    · simp [acceptAll, accept, carried]
    · simp [acceptAll, accept, ih, carried]

end Bus

/-- What others observe of a channel is what has been added to what it has sent. -/
lemma World.busTrace_channel (name : String) (sent taken : List Id) (before after : Option ℕ) :
    World.busTrace (.channel name sent before) (.channel name (sent ++ taken) after) =
      taken.map (Observation.sent name) := by
  simp [World.busTrace, World.sentOn]

/-- **Publishing on a channel sends one message for each identifier**, in order, up to the failure
of the connection. It succeeds exactly when all of them have been sent, and otherwise names the
channel and the whole batch. -/
theorem World.publish_channel {σ : Type} (w : World σ) {name : String} {sent : List Id}
    {remaining : Option ℕ} (opened : w.bus = .channel name sent remaining) (ids : List Id) :
    w.publish ids =
      (if (Bus.carried ids remaining).length = ids.length then .ok ()
        else .error ⟨"Failed to publish on " ++ name, ids⟩,
      { w with
        bus := .channel name (sent ++ Bus.carried ids remaining) (remaining.map (· - ids.length))
        trace := w.trace ++ (Bus.carried ids remaining).map (Observation.sent name) }) := by
  have taken := Bus.acceptAll_channel name ids sent remaining
  have seen := World.busTrace_channel name sent (Bus.carried ids remaining) remaining
    (remaining.map (· - ids.length))
  rw [World.publish, Bus.publish, opened, taken]
  by_cases all : (Bus.carried ids remaining).length = ids.length
  · rw [beq_iff_eq.mpr all, if_pos all]
    simp only [seen]
  · rw [beq_eq_false_iff_ne.mpr all, if_neg all]
    simp only [seen]
    rfl

/-! ## An identifier as a message -/

namespace Announcement

/-- How a message carries a text: as it is, or as bytes. -/
inductive Form where
  | text
  | bytes

/-- An identifier as a message. -/
def Form.payload (i : Id) : Form → Payload
  | .text => .text i.text
  | .bytes => .bytes (encodeUtf8 i.text)

lemma ascii_of_mem_text {i : Id} {c : Char} (h : c ∈ i.text.toList) : c.toNat < 128 := by
  rcases mem_text h with hex | rfl
  · obtain ⟨d, small, rfl⟩ := digits_paddedHex 32 i.value c hex
    have all : ∀ d : Fin 16, (Nat.digitChar d).toNat < 128 := by decide
    exact all ⟨d, small⟩
  · decide

/-- **What is received of a payload** is the identifier that its text announces, or else a warning.
Without a text there is neither: a number that is too long is taken for a malformed identifier, but
the warning about it needs the text, too. -/
theorem receive_eq (p : Payload) :
    receive p = p.toText.map fun s =>
      (read? s, if (read? s).isNone then [malformedEntry s] else []) := by
  unfold receive malformed
  cases p.toText with
  | ok s => cases found : read? s <;> simp [Except.map, found]
  | error u => cases u <;> rfl

/-- **An identifier is read back from its messages.** -/
theorem receive_payload (i : Id) (form : Form) : receive (form.payload i) = .ok (some i, []) := by
  have text : (form.payload i).toText = .ok i.text := by
    cases form with
    | text => rfl
    | bytes =>
      exact congrArg Except.ok (decodeUtf8Lossy_encodeUtf8 fun c hc => ascii_of_mem_text hc)
  rw [receive_eq, text, Except.map, read?_text]
  rfl

/-- A JSON value that arrives has the text of the value. -/
lemma toText_ofJson (room : ℕ) (v : Json) :
    (Payload.ofJson (room + 1) v).toText = v.toText (room + 1) := by
  cases v <;> rfl

/-- Why a payload has no text. -/
def Payload.unshown? (p : Payload) : Option Json.Unshown :=
  match p.toText with
  | .ok _ => none
  | .error u => some u

end Announcement

/-! ## Listening -/

namespace Dispatcher

open Announcement

/-- The identifier that a message announces, if it is of the type `message`. -/
def Incoming.announced? : Incoming → Option Id
  | .message type p =>
    if type = "message" then (Announcement.receive p).toOption.bind (·.1) else none
  | .lost => none

/-- The connection is lost. -/
def Incoming.isLost : Incoming → Bool
  | .message _ _ => false
  | .lost => true

/-- What arrives before the connection is lost. -/
def arrived (messages : List Incoming) : List Incoming := messages.takeWhile fun m => !m.isLost

lemma arrived_cons (type : String) (p : Payload) (rest : List Incoming) :
    arrived (.message type p :: rest) = .message type p :: arrived rest :=
  List.takeWhile_cons_of_pos rfl

/-- A message of the type `message` has a text. -/
def Incoming.Readable : Incoming → Prop
  | .message type p => type = "message" → p.unshown? = none
  | .lost => True

/-- A legible value can be read, if it is not nested too deep, -/
lemma readable_ofJson (type : String) {v : Json} (h : v.Legible) {room : ℕ}
    (shallow : v.depth ≤ room) : (Incoming.message type (.ofJson (room + 1) v)).Readable := by
  intro _
  rw [Payload.unshown?, toText_ofJson, h.toText_eq shallow]

/-- and a whole number of too many digits cannot. -/
lemma not_readable_ofJson (room : ℕ) {n : ℤ}
    (long : Json.mostDigits < (natText n.natAbs).length) :
    ¬(Incoming.message "message" (.ofJson (room + 1) (.integer n))).Readable := by
  intro readable
  have none_ := readable rfl
  rw [Payload.unshown?, toText_ofJson, Json.toText_integer room long] at none_
  cases none_

/-- What a message leads to. -/
inductive Reaction where
  | dispatch (i : Id)
  | note (entry : Log.Entry)

/-- The identifier that a reaction dispatches. -/
def Reaction.dispatched? : Reaction → Option Id
  | .dispatch i => some i
  | .note _ => none

/-- What a text leads to: the dispatch of the identifier that it announces, or a note. -/
def Reaction.ofText (s : String) : Reaction :=
  match read? s with
  | some i => .dispatch i
  | none => .note (malformedEntry s)

/-- What a message leads to. Messages of another type lead to nothing. -/
def Incoming.reaction? : Incoming → Option Reaction
  | .lost => none
  | .message type p => if type = "message" then p.toText.toOption.map .ofText else none

/-- What messages lead to. -/
def reactions (messages : List Incoming) : List Reaction := messages.filterMap Incoming.reaction?

/-- A dispatch for each identifier that a message announces, and no other. -/
lemma dispatched_reactions (messages : List Incoming) :
    (reactions messages).filterMap Reaction.dispatched? =
      messages.filterMap Incoming.announced? := by
  rw [reactions, List.filterMap_filterMap]
  refine List.filterMap_congr fun m _ => ?_
  cases m with
  | lost => rfl
  | message type p =>
    by_cases kind : type = "message"
    case neg => simp [Incoming.reaction?, Incoming.announced?, kind]
    rw [Incoming.reaction?, Incoming.announced?, if_pos kind, if_pos kind, receive_eq]
    cases p.toText with
    | error u => rfl
    | ok s => cases found : read? s <;> simp [Except.map, Except.toOption, Reaction.ofText,
        Reaction.dispatched?, found]

/-! ### How listening ends -/

/-- Why the listening ends with a message: the connection is lost, or the message has no text. -/
def Incoming.ending? : Incoming → Option Interruption
  | .message type p => if type = "message" then p.unshown?.map .unshown else none
  | .lost => some .connectionLost

/-- What is reacted to: what arrives before the listening ends. -/
def handled (messages : List Incoming) : List Incoming :=
  messages.takeWhile fun m => m.ending?.isNone

/-- How listening ends: with the first message that ends it, or with the stream. -/
def ending (messages : List Incoming) : Except Interruption Unit :=
  match messages.findSome? Incoming.ending? with
  | some i => .error i
  | none => .ok ()

/-- How listening is to end: with the loss of the connection, or with the stream. -/
def properEnding (messages : List Incoming) : Except Interruption Unit :=
  if messages.any Incoming.isLost then .error .connectionLost else .ok ()

variable {type : String} {p : Payload}

lemma ending?_message_eq_none_iff :
    (Incoming.message type p).ending? = none ↔ (Incoming.message type p).Readable := by
  by_cases kind : type = "message" <;> simp [Incoming.ending?, Incoming.Readable, kind]

/-- Nothing ends with a message that can be read. -/
lemma handled_cons (goes : (Incoming.message type p).Readable) (rest : List Incoming) :
    handled (.message type p :: rest) = .message type p :: handled rest ∧
      ending (.message type p :: rest) = ending rest := by
  have none_ := ending?_message_eq_none_iff.mpr goes
  constructor
  · rw [handled, List.takeWhile_cons_of_pos (by rw [none_]; rfl), handled]
  · rw [ending, List.findSome?_cons, none_, ending]

/-- With a message that cannot be read everything ends. -/
lemma exists_ending_cons (stops : ¬(Incoming.message type p).Readable) (rest : List Incoming) :
    handled (.message type p :: rest) = [] ∧ ∃ u, p.toText = .error u ∧ type = "message" ∧
      ending (.message type p :: rest) = .error (.unshown u) := by
  obtain ⟨kind, unshown⟩ := Classical.not_imp.mp stops
  obtain ⟨u, text⟩ : ∃ u, p.toText = .error u := by
    cases text : p.toText with
    | ok s => exact absurd (by rw [Payload.unshown?, text]) unshown
    | error u => exact ⟨u, rfl⟩
  have last : (Incoming.message type p).ending? = some (.unshown u) := by
    rw [Incoming.ending?, if_pos kind, Payload.unshown?, text]
    rfl
  refine ⟨?_, u, text, kind, ?_⟩
  · rw [handled, List.takeWhile_cons_of_neg (by rw [last]; exact Bool.false_ne_true)]
  · rw [ending, List.findSome?_cons, last]

/-- If everything that arrives can be read, all of it is reacted to, -/
lemma handled_eq_arrived {messages : List Incoming} (h : ∀ m ∈ arrived messages, m.Readable) :
    handled messages = arrived messages := by
  induction messages with
  | nil => rfl
  | cons m rest ih =>
    cases m with
    | lost => rfl
    | message type p =>
      rw [arrived_cons] at h ⊢
      have goes := h _ List.mem_cons_self
      rw [(handled_cons goes rest).1, ih fun m hm => h m (List.mem_cons_of_mem _ hm)]

/-- and otherwise the listening does not end as it is to. -/
lemma ending_eq_iff (messages : List Incoming) :
    ending messages = properEnding messages ↔ ∀ m ∈ arrived messages, m.Readable := by
  induction messages with
  | nil => exact ⟨fun _ _ hm => absurd hm List.not_mem_nil, fun _ => rfl⟩
  | cons m rest ih =>
    cases m with
    | lost => exact ⟨fun _ _ hm => absurd hm List.not_mem_nil, fun _ => rfl⟩
    | message type p =>
      have proper : properEnding (.message type p :: rest) = properEnding rest := rfl
      rw [arrived_cons, List.forall_mem_cons, proper]
      by_cases goes : (Incoming.message type p).Readable
      · rw [(handled_cons goes rest).2, ih]
        exact ⟨fun all => ⟨goes, all⟩, And.right⟩
      · obtain ⟨-, u, -, -, ends⟩ := exists_ending_cons goes rest
        refine ⟨fun same => ?_, fun all => absurd all.1 goes⟩
        rw [ends, properEnding] at same
        split at same <;> cases same

/-! ### Dispatching what arrives -/

variable {σ τ : Type}

/-- Dispatching raises nothing. -/
def Steady (b : Backend σ τ) (d : Dispatcher σ) : Prop :=
  ∀ i w, ∃ handed, (dispatch b d undisturbed i w).1 = .ok handed

/-- Dispatching raises nothing with an ordinary policy, whatever the processors do. -/
lemma steady_of_policy (b : Backend σ τ) {d : Dispatcher σ} {n : ℕ} {initial most : Binary64}
    (policy : d.policy = doubling n initial most) (once : 1 ≤ n) (few : n ≤ 50) : d.Steady b := by
  intro i w
  obtain ⟨r, run, goes⟩ := exists_run policy once few (answer b undisturbed i w)
  have ending := goes.ending
  rw [dispatch_of_run b undisturbed i w run]
  cases last : answer b undisturbed i w (r.calls - 1) with
  | ok e =>
    rw [last] at ending
    exact ⟨true, by rw [ending]⟩
  | error miss =>
    rw [last] at ending
    cases miss with
    | failed e =>
      have refused : r.ending = .refused (.failed e) := ending
      exact ⟨false, by rw [refused]⟩
    | absent =>
      obtain ⟨-, total, exhausted⟩ := ending
      exact ⟨false, by rw [exhausted]⟩

/-- Carry a reaction out. -/
def carryOut (b : Backend σ τ) (d : Dispatcher σ) (w : World σ) : Reaction → World σ
  | .dispatch i => (dispatch b d undisturbed i w).2
  | .note entry => w.say [entry]

/-- One message that can be read: its reaction is carried out, and nothing is raised. -/
lemma receive_of_readable {b : Backend σ τ} {d : Dispatcher σ} (steady : d.Steady b)
    (goes : (Incoming.message type p).Readable) (w : World σ) :
    receive b d type p w =
      (.ok (), (Incoming.message type p).reaction?.toList.foldl (carryOut b d) w) := by
  by_cases kind : type = "message"
  case neg => simp [receive, Incoming.reaction?, kind]
  have shown := goes kind
  rw [receive, if_pos kind, receive_eq, Incoming.reaction?, if_pos kind]
  cases text : p.toText with
  | error u => rw [Payload.unshown?, text] at shown; cases shown
  | ok s =>
    cases found : read? s with
    | none => simp [Except.map, Except.toOption, Reaction.ofText, found, carryOut]
    | some i =>
      obtain ⟨handed, ok⟩ := steady i w
      have quiet : w.say [] = w := by simp [World.say]
      simp only [Except.map, Except.toOption, Reaction.ofText, found, Option.isNone_some, quiet,
        Bool.false_eq_true, if_false, Option.map_some, Option.toList_some, List.foldl_cons,
        List.foldl_nil, carryOut]
      rcases h : dispatch b d undisturbed i w with ⟨result, w'⟩
      rw [h] at ok
      obtain rfl : result = .ok handed := ok
      rfl

/-- All messages: the reactions are carried out one after the other, up to the message that ends
the listening. -/
lemma receiveAll_eq {b : Backend σ τ} {d : Dispatcher σ} (steady : d.Steady b)
    (messages : List Incoming) (w : World σ) :
    receiveAll b d messages w =
      (ending messages, (reactions (handled messages)).foldl (carryOut b d) w) := by
  induction messages generalizing w with
  | nil => rfl
  | cons m rest ih =>
    cases m with
    | lost => rfl
    | message type p =>
      by_cases goes : (Incoming.message type p).Readable
      · have here : reactions (.message type p :: handled rest) =
            (Incoming.message type p).reaction?.toList ++ reactions (handled rest) := by
          rw [reactions, List.filterMap_cons]
          cases (Incoming.message type p).reaction? <;> rfl
        rw [receiveAll, receive_of_readable steady goes, (handled_cons goes rest).1,
          (handled_cons goes rest).2, here, List.foldl_append]
        exact ih _
      · obtain ⟨none_, u, text, kind, ends⟩ := exists_ending_cons goes rest
        rw [receiveAll, receive, if_pos kind, receive_eq, text, none_, ends]
        rfl

/-- **What listening does**: the messages up to the one that ends it have their reactions, one after
the other, between one subscription and one closing of the connection. -/
theorem listen_eq {b : Backend σ τ} {d : Dispatcher σ} (steady : d.Steady b) (channel : String)
    (messages : List Incoming) (w : World σ) :
    listen b d channel messages w =
      (ending messages, ((reactions (handled messages)).foldl (carryOut b d)
        (w.observe (.subscribed channel))).observe .disconnected) := by
  rw [listen, receiveAll_eq steady]

/-- **What is wanted of those who listen**: what arrives has its reactions, one after the other,
between one subscription and one closing of the connection; the identifiers that the messages
announce are dispatched, each once and in their order; and only the loss of the connection is
raised. -/
structure Follows (b : Backend σ τ) (d : Dispatcher σ) (channel : String)
    (messages : List Incoming) (w : World σ) : Prop where
  result : (listen b d channel messages w).1 = properEnding messages
  world : (listen b d channel messages w).2 =
    ((reactions (arrived messages)).foldl (carryOut b d)
      (w.observe (.subscribed channel))).observe .disconnected
  dispatched : (reactions (arrived messages)).filterMap Reaction.dispatched? =
    (arrived messages).filterMap Incoming.announced?

/-- Listening is as it is wanted exactly when everything that arrives can be read. -/
lemma follows_iff {b : Backend σ τ} {d : Dispatcher σ} (steady : d.Steady b) (channel : String)
    (messages : List Incoming) (w : World σ) :
    Follows b d channel messages w ↔ ∀ m ∈ arrived messages, m.Readable := by
  have listened := listen_eq steady channel messages w
  constructor
  · intro h
    have result := h.result
    rw [listened] at result
    exact (ending_eq_iff messages).mp result
  · intro h
    refine ⟨?_, ?_, dispatched_reactions _⟩
    · rw [listened, (ending_eq_iff messages).mpr h]
    · rw [listened, handled_eq_arrived h]

/-! ## Published and foreign messages -/

/-- Where a message comes from: it has been published for an identifier, or it is foreign. -/
inductive Source where
  | published (i : Id) (form : Form)
  | foreign (type : String) (payload : Payload)

/-- The message as it arrives. -/
def Source.incoming : Source → Incoming
  | .published i form => .message "message" (form.payload i)
  | .foreign type p => .message type p

/-- The identifier that has been published, or that a foreign message happens to announce. -/
def Source.announced? : Source → Option Id
  | .published i _ => some i
  | .foreign type p => (Incoming.message type p).announced?

/-- Published identifiers are announced as they are, in their places among what foreign messages
announce. -/
lemma announced_incoming (sources : List Source) :
    (sources.map Source.incoming).filterMap Incoming.announced? =
      sources.filterMap Source.announced? := by
  rw [List.filterMap_map]
  refine List.filterMap_congr fun s _ => ?_
  cases s with
  | foreign type p => rfl
  | published i form =>
    simp [Source.incoming, Incoming.announced?, Source.announced?, receive_payload,
      Except.toOption]

/-- Messages arrive as long as the connection is not lost. -/
lemma arrived_incoming (sources : List Source) :
    arrived (sources.map Source.incoming) = sources.map Source.incoming := by
  refine List.takeWhile_eq_self_iff.mpr fun m hm => ?_
  obtain ⟨s, -, rfl⟩ := List.mem_map.mp hm
  cases s <;> rfl

/-- **What is published on a channel is dispatched by those who listen on it**, as long as
everything that arrives can be read. When dispatching raises nothing, listening has the reactions of
the messages up to the one that ends it, and closes the connection once. That is what is wanted
exactly when everything that arrives has a text if it is of the type `message`: then the identifiers
that the messages announce are dispatched, each once and in their order, all other messages are
passed over, and only the loss of the connection is raised. Publishing sends one message for each
identifier, in order, until the connection fails; from each of them, as a text or as bytes, the
identifier is read back. So it is dispatched unchanged, in its place among what foreign messages
announce. -/
theorem relays_iff (b : Backend σ τ) (d : Dispatcher σ) (steady : d.Steady b) (channel : String) :
    (∀ messages w, listen b d channel messages w =
      (ending messages, ((reactions (handled messages)).foldl (carryOut b d)
        (w.observe (.subscribed channel))).observe .disconnected)) ∧
      (∀ messages w, Follows b d channel messages w ↔ ∀ m ∈ arrived messages, m.Readable) ∧
      (∀ (w : World σ) (ids sent : List Id) (remaining : Option ℕ),
        w.bus = .channel channel sent remaining →
          w.publish ids =
            (if (Bus.carried ids remaining).length = ids.length then .ok ()
              else .error ⟨"Failed to publish on " ++ channel, ids⟩,
            { w with
              bus := .channel channel (sent ++ Bus.carried ids remaining)
                (remaining.map (· - ids.length))
              trace := w.trace ++ (Bus.carried ids remaining).map (Observation.sent channel) })) ∧
      (∀ (i : Id) (form : Form), Announcement.receive (form.payload i) = .ok (some i, [])) ∧
      ∀ sources : List Source,
        (reactions (arrived (sources.map Source.incoming))).filterMap Reaction.dispatched? =
          sources.filterMap Source.announced? := by
  refine ⟨listen_eq steady channel, follows_iff steady channel,
    fun w ids sent remaining opened => ?_, receive_payload, fun sources => ?_⟩
  · exact w.publish_channel opened ids
  · rw [dispatched_reactions, arrived_incoming, announced_incoming]

/-- A channel whose connection carries one more message. -/
def sampleChannel : World Memory :=
  ⟨.empty [], .channel "events" [] (some 1), .memory [], ⟨.utc 0, .ofNat⟩, []⟩

/-- Two published messages among a confirmation and two malformed payloads. -/
def sampleSources : List Source :=
  [.foreign "subscribe" (.ofJson 1000 (.integer 1)), .published (.ofNat 7) .text,
    .foreign "message" (.bytes [0xff, 0x30]), .published (.ofNat 8) .bytes,
    .foreign "message" (.ofJson 1000 .null)]

lemma steady_sampleAudited : Steady Memory.backend sampleAudited := by
  have policy : sampleAudited.policy = doubling 5 (.ofRatio false 5 100) (.ofInt 1) := rfl
  exact steady_of_policy _ policy (by decide) (by decide)

/-- The second identifier of a batch is lost with the connection. Of those that are published, all
are dispatched, although a processor fails on each of them. -/
theorem relays_sampleSources :
    Steady Memory.backend sampleAudited ∧
      sampleChannel.bus = .channel "events" [] (some 1) ∧
      sampleChannel.publish [.ofNat 7, .ofNat 8] =
        (.error ⟨"Failed to publish on " ++ "events", [.ofNat 7, .ofNat 8]⟩,
          { sampleChannel with
            bus := .channel "events" [.ofNat 7] (some 0)
            trace := [.sent "events" (.ofNat 7)] }) ∧
      Follows Memory.backend sampleAudited "events" (sampleSources.map Source.incoming ++ [.lost])
        sampleChannel ∧
      (reactions (arrived (sampleSources.map Source.incoming))).filterMap Reaction.dispatched? =
        [.ofNat 7, .ofNat 8] := by
  obtain ⟨-, follows, publishes, -, unchanged⟩ :=
    relays_iff Memory.backend sampleAudited steady_sampleAudited "events"
  have malformed : read? (decodeUtf8Lossy [0xff, 0x30]) = none := by decide +kernel
  have nothing : read? "None" = none := by decide +kernel
  have readable : ∀ s ∈ sampleSources, s.incoming.Readable := by
    simp only [sampleSources, List.forall_mem_cons]
    exact ⟨readable_ofJson _ (.integer (by decide)) (Nat.zero_le _), fun _ => rfl, fun _ => rfl,
      fun _ => rfl, readable_ofJson _ .null (Nat.zero_le _),
      fun _ hs => absurd hs List.not_mem_nil⟩
  refine ⟨steady_sampleAudited, rfl, publishes sampleChannel _ [] (some 1) rfl,
    (follows _ _).mpr fun m hm => ?_, ?_⟩
  · rcases List.mem_append.mp ((List.takeWhile_prefix _).subset hm) with hm | hm
    · obtain ⟨s, hs, rfl⟩ := List.mem_map.mp hm
      exact readable s hs
    · obtain rfl := List.mem_singleton.mp hm
      trivial
  · rw [unchanged]
    simp [sampleSources, Source.announced?, Incoming.announced?, receive_eq, malformed, nothing,
      Payload.ofJson, Payload.toText, Json.toText, Json.unshown?, Json.plainShown, Json.shown,
      Except.map, Except.toOption]

/-- A message with the least number that is not written out. -/
def sampleLong : Incoming :=
  .message "message" (.ofJson 1000 (.integer (10 ^ Json.mostDigits : ℕ)))

/-- **A number that is too long ends the listening**, and is not passed over. -/
theorem not_follows_sampleLong :
    Steady Memory.backend sampleAudited ∧
      ¬Follows Memory.backend sampleAudited "events" [sampleLong] sampleChannel := by
  refine ⟨steady_sampleAudited, fun h => ?_⟩
  have readable := (follows_iff steady_sampleAudited "events" [sampleLong] sampleChannel).mp h
    sampleLong List.mem_cons_self
  exact not_readable_ofJson 999 (Json.lt_length_natText_pow Json.mostDigits) readable

end Dispatcher

end CommonPurse
