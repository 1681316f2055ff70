import Rotation.Event.Basic

/-!
# The event bus

Events are published to subscribers in the order of their subscription.  A
channel collects events in an inbox; a callback is called with each event and
may react by using the bus itself.  A subscriber that fails is dropped once
the event has been delivered to all others: a channel fails when nobody reads
its inbox any more, and a callback when its reaction says so.

Identifiers are counted from one and never used twice.  The bus keeps the
calls made to callbacks.
-/

namespace Rotation

/-- What a callback asks of the bus. -/
inductive BusRequest where
  | publish (event : Event)
  | openChannel
  | closeNewest
  deriving DecidableEq, Repr

/-- How a callback takes an event. -/
structure Reaction where
  requests : List BusRequest
  fails : Bool
  deriving DecidableEq, Repr

/-- The reaction of a callback that only takes note. -/
def Reaction.none : Reaction :=
  ⟨[], false⟩

/-- Where the events for a subscriber go. -/
inductive Sink where
  | channel
  | callback (react : Event → Reaction)

/-- Subscribers, the inboxes that are still read, and the calls made so far. -/
structure Bus where
  subscribers : List (Nat × Sink)
  inboxes : List (Nat × List Event)
  lastId : Nat
  calls : Array (Nat × Event)

namespace Bus

/-- The bus without subscribers. -/
def empty : Bus :=
  ⟨[], [], 0, #[]⟩

/-- Add a subscriber under a new identifier. -/
def add (b : Bus) (sink : Sink) : Nat × Bus :=
  (b.lastId + 1,
    { b with subscribers := b.subscribers ++ [(b.lastId + 1, sink)], lastId := b.lastId + 1 })

/-- Add a channel with an empty inbox. -/
def openChannel (b : Bus) : Nat × Bus :=
  let (id, b) := b.add .channel
  (id, { b with inboxes := b.inboxes ++ [(id, [])] })

/-- Add a callback. -/
def addCallback (b : Bus) (react : Event → Reaction) : Nat × Bus :=
  b.add (.callback react)

/-- Remove a subscriber; its inbox keeps what it has. -/
def unsubscribe (b : Bus) (id : Nat) : Bus :=
  { b with subscribers := b.subscribers.filter fun s => s.1 != id }

/-- Stop reading an inbox. -/
def close (b : Bus) (id : Nat) : Bus :=
  { b with inboxes := b.inboxes.filter fun i => i.1 != id }

/-- The events of an inbox, if it is still read. -/
def inbox? (b : Bus) (id : Nat) : Option (List Event) :=
  b.inboxes.lookup id

/-- Take all events out of an inbox. -/
def drain (b : Bus) (id : Nat) : List Event × Bus :=
  ((b.inbox? id).getD [],
    { b with inboxes := b.inboxes.map fun i => if i.1 = id then (id, []) else i })

/-- Put an event into an inbox. -/
def put (b : Bus) (id : Nat) (event : Event) : Bus :=
  { b with inboxes := b.inboxes.map fun i => if i.1 = id then (id, i.2 ++ [event]) else i }

/-- Carry out what a callback asks; `publish` delivers an event. -/
def perform (publish : Bus → Event → Bus) (b : Bus) : BusRequest → Bus
  | .publish event => publish b event
  | .openChannel => b.openChannel.2
  | .closeNewest => b.close b.lastId

/-- Deliver an event to one subscriber.  The result says whether the subscriber
took it. -/
def deliver (publish : Bus → Event → Bus) (b : Bus) (event : Event) (subscriber : Nat × Sink) :
    Bool × Bus :=
  match subscriber with
  | (id, .channel) => if (b.inbox? id).isSome then (true, b.put id event) else (false, b)
  | (id, .callback react) =>
    let reaction := react event
    let called := { b with calls := b.calls.push (id, event) }
    (!reaction.fails, reaction.requests.foldl (perform publish) called)

/-- Deliver an event to a list of subscribers; the result holds those that
failed. -/
def deliverAll (publish : Bus → Event → Bus) (b : Bus) (event : Event) :
    List (Nat × Sink) → List Nat × Bus
  | [] => ([], b)
  | subscriber :: rest =>
    let (taken, b) := deliver publish b event subscriber
    let (failed, b) := deliverAll publish b event rest
    (if taken then failed else subscriber.1 :: failed, b)

/-- Publish an event; reactions may publish again up to a depth. -/
def publishNested : Nat → Bus → Event → Bus
  | depth, b, event =>
    let inner :=
      match depth with
      | 0 => fun b _ => b
      | depth + 1 => publishNested depth
    let (failed, b) := deliverAll inner b event b.subscribers
    { b with subscribers := b.subscribers.filter fun s => !failed.contains s.1 }

/-- How deep reactions to reactions are followed. -/
def nestingLimit : Nat :=
  64

/-- Publish an event. -/
def publish (b : Bus) (event : Event) : Bus :=
  publishNested nestingLimit b event

/-- Publish events one after the other. -/
def publishAll (b : Bus) (events : List Event) : Bus :=
  events.foldl publish b

end Bus

end Rotation
