import Rotation.Proofs.Event.Delivery

/-!
# Traffic on the bus

Channels are opened, read and closed, callbacks are added, subscribers are removed and
events are published, in any order.  What a subscriber gets is told by what has been
published and by what was done with this subscriber: a channel gets each event once
and in order until it is unsubscribed, and a callback until it is unsubscribed or
fails.  What makes a callback fail may change in the course of time.
-/

namespace Rotation

/-- What happens on a bus. -/
inductive BusOp where
  | openChannel
  | addCallback (fails : Event → Bool)
  | turn (id : Nat) (fails : Event → Bool)
  | unsubscribe (id : Nat)
  | close (id : Nat)
  | drain (id : Nat)
  | publish (event : Event)

namespace BusOp

/-- The event that is published. -/
def event? : BusOp → Option Event
  | .publish event => some event
  | _ => none

/-- Whether a new subscriber is added. -/
def subscribes : BusOp → Bool
  | .openChannel | .addCallback _ => true
  | _ => false

/-- Whether a subscriber is removed by its identifier. -/
def unsubscribes (id : Nat) : BusOp → Bool
  | .unsubscribe i => i == id
  | _ => false

/-- What a callback fails at afterwards, unless it has been removed or has failed. -/
def mood (id : Nat) (fails : Event → Bool) : BusOp → Option (Event → Bool)
  | .turn i changed => some (if i = id then changed else fails)
  | .unsubscribe i => if i = id then none else some fails
  | .publish event => if fails event then none else some fails
  | _ => some fails

end BusOp

/-- The events that a channel is sent: all that are published until it is
unsubscribed. -/
def sentTo (id : Nat) : List BusOp → List Event
  | [] => []
  | op :: rest => op.event?.toList ++ if op.unsubscribes id then [] else sentTo id rest

/-- The events that a callback is called with: all that are published until it is
unsubscribed, and up to the first one at which it fails. -/
def calledWith (id : Nat) : (Event → Bool) → List BusOp → List Event
  | _, [] => []
  | fails, op :: rest => op.event?.toList ++
      match op.mood id fails with
      | none => []
      | some fails => calledWith id fails rest

/-- A callback fails at other events from now on; a channel stays as it is. -/
def Sink.turn (fails : Event → Bool) : Sink → Sink
  | .channel => .channel
  | .callback _ => .quiet fails

/-- The bus with a callback that fails at other events from now on. -/
def Bus.turn (b : Bus) (id : Nat) (fails : Event → Bool) : Bus :=
  { b with subscribers := b.subscribers.map fun s =>
      (s.1, if s.1 = id then s.2.turn fails else s.2) }

/-- A bus, and what has been read from its channels, one event after the other. -/
structure Traffic where
  bus : Bus
  readings : List (Nat × Event)

namespace Traffic

/-- The events that have been read from a channel. -/
def read (t : Traffic) (id : Nat) : List Event :=
  (t.readings.filter fun reading => reading.1 == id).map Prod.snd

/-- The events that a channel has received: those that have been read and those that
wait. -/
def received (t : Traffic) (id : Nat) : List Event :=
  t.read id ++ (t.bus.inbox? id).getD []

/-- What comes of an operation. -/
def operate (t : Traffic) : BusOp → Traffic
  | .openChannel => { t with bus := t.bus.openChannel.2 }
  | .addCallback fails => { t with bus := (t.bus.addCallback fun event => ⟨[], fails event⟩).2 }
  | .turn id fails => { t with bus := t.bus.turn id fails }
  | .unsubscribe id => { t with bus := t.bus.unsubscribe id }
  | .close id => { t with bus := t.bus.close id }
  | .drain id =>
    { bus := (t.bus.drain id).2
      readings := t.readings ++ (t.bus.drain id).1.map fun event => (id, event) }
  | .publish event => { t with bus := t.bus.publish event }

/-- What comes of operations one after the other. -/
def operateAll (t : Traffic) (ops : List BusOp) : Traffic :=
  ops.foldl operate t

/-- What comes of operations on a bus without subscribers. -/
def run (ops : List BusOp) : Traffic :=
  operateAll ⟨.empty, []⟩ ops

/-- The bus is orderly, and channels are read under the identifiers they have. -/
structure Orderly (t : Traffic) : Prop where
  bus : t.bus.Orderly
  readings_le : ∀ reading ∈ t.readings, reading.1 ≤ t.bus.lastId

end Traffic

namespace Bus

variable {b : Bus} {id i : Nat}

theorem orderly_empty : empty.Orderly :=
  ⟨List.nodup_nil, by simp [empty], by simp [empty], by simp [empty], by simp [empty]⟩

theorem Orderly.add (orderly : b.Orderly) {sink : Sink} (quiet : sink.Quiet) :
    (b.add sink).2.Orderly where
  nodup := by
    simp only [Bus.add, List.map_append, List.map_cons, List.map_nil]
    rw [List.nodup_append_comm, List.singleton_append, List.nodup_cons]
    refine ⟨?_, orderly.nodup⟩
    intro mem
    obtain ⟨s, s_mem, same⟩ := List.mem_map.mp mem
    have le := orderly.subscribers_le s s_mem
    omega
  subscribers_le := by
    intro s mem
    rcases List.mem_append.mp mem with old | new
    · exact Nat.le_succ_of_le (orderly.subscribers_le s old)
    · rw [List.mem_singleton.mp new]
      exact Nat.le_refl _
  inboxes_le := fun inbox mem => Nat.le_succ_of_le (orderly.inboxes_le inbox mem)
  calls_le := fun call mem => Nat.le_succ_of_le (orderly.calls_le call mem)
  quiet := by
    intro s mem
    rcases List.mem_append.mp mem with old | new
    · exact orderly.quiet s old
    · rw [List.mem_singleton.mp new]
      exact quiet

theorem Orderly.openChannel (orderly : b.Orderly) : b.openChannel.2.Orderly :=
  have quiet : Sink.channel.Quiet := trivial
  { orderly.add quiet with
    inboxes_le := by
      intro inbox mem
      rcases List.mem_append.mp mem with old | new
      · exact Nat.le_succ_of_le (orderly.inboxes_le inbox old)
      · rw [List.mem_singleton.mp new]
        exact Nat.le_refl _ }

/-- Subscribers may leave. -/
theorem Orderly.filter (orderly : b.Orderly) (keep : Nat × Sink → Bool) :
    Orderly { b with subscribers := b.subscribers.filter keep } :=
  { orderly with
    nodup := (List.filter_sublist.map Prod.fst).nodup orderly.nodup
    subscribers_le := fun s mem => orderly.subscribers_le s (List.mem_filter.mp mem).1
    quiet := fun s mem => orderly.quiet s (List.mem_filter.mp mem).1 }

theorem Orderly.turn (orderly : b.Orderly) (id : Nat) (fails : Event → Bool) :
    (b.turn id fails).Orderly :=
  { orderly with
    nodup := by
      have same : (b.turn id fails).subscribers.map Prod.fst = b.subscribers.map Prod.fst := by
        rw [Bus.turn, List.map_map]
        rfl
      rw [same]
      exact orderly.nodup
    subscribers_le := by
      intro s mem
      obtain ⟨old, old_mem, rfl⟩ := List.mem_map.mp mem
      exact orderly.subscribers_le old old_mem
    quiet := by
      intro s mem
      obtain ⟨⟨i, sink⟩, old_mem, rfl⟩ := List.mem_map.mp mem
      dsimp only
      split
      · cases sink with
        | channel => trivial
        | callback => exact fun _ => rfl
      · exact orderly.quiet _ old_mem }

theorem Orderly.close (orderly : b.Orderly) (id : Nat) : (b.close id).Orderly :=
  { orderly with
    inboxes_le := fun inbox mem => orderly.inboxes_le inbox (List.mem_filter.mp mem).1 }

theorem Orderly.drain (orderly : b.Orderly) (id : Nat) : (b.drain id).2.Orderly :=
  { orderly with
    inboxes_le := by
      intro inbox mem
      obtain ⟨old, old_mem, rfl⟩ := List.mem_map.mp mem
      have le := orderly.inboxes_le old old_mem
      split
      · rename_i own
        exact own ▸ le
      · exact le }

theorem Orderly.publish (orderly : b.Orderly) (event : Event) : (b.publish event).Orderly := by
  obtain ⟨result, delivers, publish_eq⟩ := publish_cases orderly event
  have kept := orderly.filter fun s => !b.fails event s
  have lastId_eq := delivers.lastId
  rw [publish_eq]
  refine ⟨kept.nodup, ?_, ?_, ?_, kept.quiet⟩ <;> dsimp only <;> rw [lastId_eq]
  · exact kept.subscribers_le
  · intro inbox mem
    have known : inbox.1 ∈ b.inboxes.map Prod.fst := by
      rw [← delivers.inboxes]
      exact List.mem_map_of_mem mem
    obtain ⟨old, old_mem, same⟩ := List.mem_map.mp known
    exact same ▸ orderly.inboxes_le old old_mem
  · intro call mem
    simp only [delivers.calls, List.mem_append, List.mem_map, List.mem_filter] at mem
    rcases mem with old | ⟨s, ⟨s_mem, _⟩, rfl⟩
    · exact orderly.calls_le call old
    · exact orderly.subscribers_le s s_mem

theorem lastId_publish (orderly : b.Orderly) (event : Event) :
    (b.publish event).lastId = b.lastId := by
  obtain ⟨result, delivers, publish_eq⟩ := publish_cases orderly event
  rw [publish_eq]
  exact delivers.lastId

theorem sinks_turn (b : Bus) (i : Nat) (fails : Event → Bool) (id : Nat) :
    (b.turn i fails).sinks id =
      (b.sinks id).map fun sink => if id = i then sink.turn fails else sink := by
  simp only [sinks, Bus.turn, List.filter_map, List.map_map, Function.comp_def]
  apply List.map_congr_left
  intro s mem
  rw [eq_of_beq (List.mem_filter.mp mem).2]

end Bus

namespace Traffic

variable {t : Traffic} {id : Nat} {events : List Event} {op : BusOp}

theorem Orderly.operate (orderly : t.Orderly) (op : BusOp) : (t.operate op).Orderly := by
  cases op with
  | openChannel =>
      exact ⟨orderly.bus.openChannel, fun r mem => Nat.le_succ_of_le (orderly.readings_le r mem)⟩
  | addCallback fails =>
      exact ⟨orderly.bus.add (fun _ => rfl),
        fun r mem => Nat.le_succ_of_le (orderly.readings_le r mem)⟩
  | turn id fails => exact ⟨orderly.bus.turn id fails, orderly.readings_le⟩
  | unsubscribe id => exact ⟨orderly.bus.filter _, orderly.readings_le⟩
  | close id => exact ⟨orderly.bus.close id, orderly.readings_le⟩
  | drain id =>
      refine ⟨orderly.bus.drain id, ?_⟩
      intro r mem
      rcases List.mem_append.mp mem with old | new
      · exact orderly.readings_le r old
      · obtain ⟨event, waits, rfl⟩ := List.mem_map.mp new
        by_contra unknown
        rw [Bus.drain, Bus.inbox?_of_lt orderly.bus (Nat.lt_of_not_le unknown)] at waits
        contradiction
  | publish event =>
      refine ⟨orderly.bus.publish event, ?_⟩
      dsimp only [Traffic.operate]
      rw [Bus.lastId_publish orderly.bus]
      exact orderly.readings_le

theorem Orderly.operateAll (orderly : t.Orderly) (ops : List BusOp) :
    (t.operateAll ops).Orderly := by
  induction ops generalizing t with
  | nil => exact orderly
  | cons op rest ih => exact ih (orderly.operate op)

theorem orderly_run (ops : List BusOp) : (run ops).Orderly :=
  Orderly.operateAll ⟨Bus.orderly_empty, by simp⟩ ops

theorem run_append (before after : List BusOp) :
    run (before ++ after) = (run before).operateAll after :=
  List.foldl_append

theorem lastId_operate (orderly : t.Orderly) (op : BusOp) :
    (t.operate op).bus.lastId = t.bus.lastId + if op.subscribes then 1 else 0 := by
  cases op with
  | publish event => exact Bus.lastId_publish orderly.bus event
  | _ => rfl

/-- Identifiers are counted, so that no two subscribers ever have the same. -/
theorem lastId_operateAll (orderly : t.Orderly) (ops : List BusOp) :
    (t.operateAll ops).bus.lastId = t.bus.lastId + ops.countP BusOp.subscribes := by
  induction ops generalizing t with
  | nil => rfl
  | cons op rest ih =>
      rw [operateAll, List.foldl_cons, ← operateAll, ih (orderly.operate op),
        lastId_operate orderly, List.countP_cons]
      omega

/-! ## Channels -/

/-- A channel that is still read, and may have been unsubscribed, has received some
events. -/
structure Hears (t : Traffic) (id : Nat) (subscribed : Bool) (events : List Event) : Prop where
  known : id ≤ t.bus.lastId
  sinks : t.bus.sinks id = if subscribed then [.channel] else []
  pending : ∃ pending, t.bus.inbox? id = some pending ∧ t.read id ++ pending = events

theorem Hears.received {subscribed : Bool} (hears : t.Hears id subscribed events) :
    t.received id = events := by
  obtain ⟨pending, inbox_eq, events_eq⟩ := hears.pending
  rw [Traffic.received, inbox_eq]
  exact events_eq

theorem Hears.of_silent {subscribed : Bool} (hears : t.Hears id subscribed events)
    (silent : op.event? = none) (keeps : op.unsubscribes id = false) :
    t.Hears id (subscribed && !op.unsubscribes id)
      (events ++ if subscribed then op.event?.toList else []) := by
  rw [silent, keeps]
  simpa using hears

theorem read_drain (t : Traffic) (i : Nat) (id : Nat) :
    (t.operate (.drain i)).read id =
      t.read id ++ if i = id then (t.bus.inbox? id).getD [] else [] := by
  simp only [operate, Traffic.read, Bus.drain, List.filter_append, List.map_append,
    List.filter_map, List.map_map, Function.comp_def, List.map_id']
  by_cases own : i = id <;> simp [own]

/-- A channel that is subscribed receives what is published, and nothing else makes a
difference to it, as long as it is not closed. -/
theorem Hears.operate (orderly : t.Orderly) {subscribed : Bool}
    (hears : t.Hears id subscribed events) (stays : op ≠ .close id) :
    (t.operate op).Hears id (subscribed && !op.unsubscribes id)
      (events ++ if subscribed then op.event?.toList else []) := by
  obtain ⟨known, sinks_eq, pending, inbox_eq, events_eq⟩ := hears
  cases op with
  | openChannel =>
      exact .of_silent ⟨Nat.le_succ_of_le known,
        (Bus.sinks_add_of_le known .channel).trans sinks_eq, pending,
        (Bus.inbox?_openChannel_of_le known).trans inbox_eq, events_eq⟩ rfl rfl
  | addCallback fails =>
      exact .of_silent ⟨Nat.le_succ_of_le known, (Bus.sinks_add_of_le known _).trans sinks_eq,
        pending, inbox_eq, events_eq⟩ rfl rfl
  | turn i fails =>
      refine .of_silent ⟨known, ?_, pending, inbox_eq, events_eq⟩ rfl rfl
      refine (Bus.sinks_turn t.bus i fails id).trans ?_
      rw [sinks_eq]
      cases subscribed <;> simp [Sink.turn]
  | unsubscribe i =>
      refine ⟨known, ?_, pending, inbox_eq, ?_⟩
      · refine (Bus.sinks_unsubscribe t.bus i id).trans ?_
        rw [sinks_eq]
        by_cases own : i = id <;> simp [own, BusOp.unsubscribes]
      · have read_eq : (t.operate (.unsubscribe i)).read id = t.read id := rfl
        rw [read_eq, events_eq]
        simp [BusOp.event?]
  | close i =>
      have other : i ≠ id := fun own => stays (own ▸ rfl)
      refine .of_silent ⟨known, sinks_eq, pending, ?_, events_eq⟩ rfl rfl
      rw [Traffic.operate, Bus.inbox?_close, if_neg other, inbox_eq]
  | drain i =>
      refine .of_silent ⟨known, sinks_eq, if i = id then [] else pending, ?_, ?_⟩ rfl rfl
      · rw [Traffic.operate, Bus.inbox?_drain, inbox_eq]
        rfl
      · rw [read_drain, inbox_eq, ← events_eq]
        by_cases own : i = id <;> simp [own]
  | publish event =>
      refine ⟨?_, ?_, pending ++ if subscribed then [event] else [], ?_, ?_⟩
      · rw [Traffic.operate, Bus.lastId_publish orderly.bus]
        exact known
      · rw [Traffic.operate, Bus.sinks_publish orderly.bus, sinks_eq]
        cases subscribed <;> simp [Bus.fails, inbox_eq, BusOp.unsubscribes]
      · rw [Traffic.operate, Bus.inbox?_publish orderly.bus, inbox_eq, sinks_eq]
        cases subscribed <;> rfl
      · rw [← List.append_assoc]
        exact congrArg (· ++ _) events_eq

theorem Hears.operateAll (orderly : t.Orderly) {subscribed : Bool} {ops : List BusOp}
    (hears : t.Hears id subscribed events) (stays : .close id ∉ ops) :
    (t.operateAll ops).received id = events ++ if subscribed then sentTo id ops else [] := by
  induction ops generalizing t subscribed events with
  | nil => exact hears.received.trans (by simp [sentTo])
  | cons op rest ih =>
      obtain ⟨op_stays, rest_stays⟩ := List.ne_and_not_mem_of_not_mem_cons stays
      refine (ih (orderly.operate op) (hears.operate orderly op_stays.symm) rest_stays).trans ?_
      rw [List.append_assoc]
      cases subscribed with
      | false => simp
      | true => cases gone : op.unsubscribes id <;> simp [sentTo, gone]

/-- A channel is open and empty at first. -/
theorem hears_openChannel (orderly : t.Orderly) :
    (t.operate .openChannel).Hears (t.bus.lastId + 1) true [] := by
  refine ⟨Nat.le_refl _, Bus.sinks_add_self orderly.bus .channel, [],
    Bus.inbox?_openChannel_self orderly.bus, ?_⟩
  rw [List.append_nil, read, List.map_eq_nil_iff, List.filter_eq_nil_iff]
  intro reading mem same
  have le := orderly.readings_le reading mem
  rw [eq_of_beq same] at le
  omega

/-- Nothing is read from a channel any more once it has been closed. -/
theorem read_operateAll (orderly : t.Orderly) (known : id ≤ t.bus.lastId)
    (closed : t.bus.inbox? id = none) (ops : List BusOp) :
    (t.operateAll ops).read id = t.read id := by
  induction ops generalizing t with
  | nil => rfl
  | cons op rest ih =>
      refine (ih (orderly.operate op) ?_ ?_).trans ?_
      · rw [lastId_operate orderly]
        omega
      · cases op with
        | openChannel => exact (Bus.inbox?_openChannel_of_le known).trans closed
        | close i => rw [operate, Bus.inbox?_close, closed, ite_self]
        | drain i => rw [operate, Bus.inbox?_drain, closed]; rfl
        | publish event => rw [operate, Bus.inbox?_publish orderly.bus, closed]; rfl
        | addCallback | turn | unsubscribe => exact closed
      · cases op with
        | drain i => rw [read_drain, closed]; simp
        | openChannel | addCallback | turn | unsubscribe | close | publish => rfl

/-! ## Callbacks -/

/-- A callback that fails at some events, or that is gone, has been called with some
events. -/
structure Answers (t : Traffic) (id : Nat) (mood : Option (Event → Bool)) (events : List Event) :
    Prop where
  known : id ≤ t.bus.lastId
  sinks : t.bus.sinks id = (mood.map Sink.quiet).toList
  called : t.bus.called id = events

/-- A callback is called with what is published, and nothing else makes a difference to
it. -/
theorem Answers.operate (orderly : t.Orderly) {mood : Option (Event → Bool)}
    (answers : t.Answers id mood events) (op : BusOp) :
    (t.operate op).Answers id (mood.bind fun fails => op.mood id fails)
      (events ++ if mood.isSome then op.event?.toList else []) := by
  obtain ⟨known, sinks_eq, called_eq⟩ := answers
  have silent {u : Traffic} (answers : u.Answers id mood events) :
      u.Answers id (mood.bind some) (events ++ if mood.isSome then [] else []) := by
    simpa using answers
  cases op with
  | openChannel =>
      exact silent ⟨Nat.le_succ_of_le known,
        (Bus.sinks_add_of_le known .channel).trans sinks_eq, called_eq⟩
  | addCallback fails =>
      exact silent ⟨Nat.le_succ_of_le known, (Bus.sinks_add_of_le known _).trans sinks_eq,
        called_eq⟩
  | close | drain => exact silent ⟨known, sinks_eq, called_eq⟩
  | turn i changed =>
      refine ⟨known, (Bus.sinks_turn t.bus i changed id).trans ?_, called_eq.trans ?_⟩
      · rw [sinks_eq]
        cases mood with
        | none => rfl
        | some fails =>
            by_cases own : i = id
            · simp [own, BusOp.mood, Sink.turn, Sink.quiet]
            · simp [own, Ne.symm own, BusOp.mood]
      · simp [BusOp.event?]
  | unsubscribe i =>
      refine ⟨known, (Bus.sinks_unsubscribe t.bus i id).trans ?_, called_eq.trans ?_⟩
      · rw [sinks_eq]
        by_cases own : i = id
        · cases mood <;> simp [own, BusOp.mood]
        · cases mood <;> simp [own, BusOp.mood]
      · simp [BusOp.event?]
  | publish event =>
      refine ⟨?_, ?_, ?_⟩
      · rw [Traffic.operate, Bus.lastId_publish orderly.bus]
        exact known
      · rw [Traffic.operate, Bus.sinks_publish orderly.bus, sinks_eq]
        cases mood with
        | none => rfl
        | some fails =>
            cases failing : fails event <;> simp [Sink.quiet, Bus.fails, BusOp.mood, failing]
      · rw [Traffic.operate, Bus.called_publish orderly.bus, sinks_eq, called_eq]
        cases mood <;> rfl

theorem Answers.operateAll (orderly : t.Orderly) {mood : Option (Event → Bool)}
    (answers : t.Answers id mood events) (ops : List BusOp) :
    (t.operateAll ops).bus.called id =
      events ++ (mood.map fun fails => calledWith id fails ops).getD [] := by
  induction ops generalizing t mood events with
  | nil => exact answers.called.trans (by cases mood <;> simp [calledWith])
  | cons op rest ih =>
      refine (ih (orderly.operate op) (answers.operate orderly op)).trans ?_
      rw [List.append_assoc]
      cases mood with
      | none => simp
      | some fails => cases next : op.mood id fails <;> simp [calledWith, next]

theorem answers_addCallback (orderly : t.Orderly) (fails : Event → Bool) :
    (t.operate (.addCallback fails)).Answers (t.bus.lastId + 1) (some fails) [] := by
  have uncalled : t.bus.called (t.bus.lastId + 1) = [] :=
    Bus.called_of_lt orderly.bus (Nat.lt_succ_self _)
  exact ⟨Nat.le_refl _, Bus.sinks_add_self orderly.bus (.quiet fails), uncalled⟩

/-! ## Histories -/

/-- The bus neither loses nor repeats nor reorders events.  Subscribers are numbered in
the order of their subscription.  A channel has received, while it is read, exactly
what was published since its subscription, unless it has been unsubscribed, and
nothing is read from it after it has been closed.  A callback has been called exactly
with what was published since its subscription, until it was unsubscribed or failed.
After an event there remain exactly the subscribers that have not failed at it. -/
theorem run_delivers (before after : List BusOp) :
    let id := before.countP BusOp.subscribes + 1
    ((run before).bus.openChannel.1 = id ∧
      ∀ react, ((run before).bus.addCallback react).1 = id) ∧
    (.close id ∉ after → (run (before ++ .openChannel :: after)).received id = sentTo id after) ∧
    (∀ later, (run (before ++ .openChannel :: after ++ .close id :: later)).read id =
      (run (before ++ .openChannel :: after)).read id) ∧
    (∀ fails, (run (before ++ .addCallback fails :: after)).bus.called id =
      calledWith id fails after) ∧
    ∀ event, (run (before ++ [.publish event])).bus.subscribers =
      (run before).bus.subscribers.filter fun s => !(run before).bus.fails event s := by
  intro id
  have orderly := orderly_run before
  have id_eq : (run before).bus.lastId + 1 = id := by
    have counted := lastId_operateAll (t := ⟨.empty, []⟩) ⟨Bus.orderly_empty, by simp⟩ before
    rw [run, counted]
    exact Nat.succ_inj.mpr (Nat.zero_add _)
  refine ⟨⟨id_eq, fun _ => id_eq⟩, ?_, ?_, ?_, ?_⟩
  · intro stays
    have hears := hears_openChannel orderly
    rw [id_eq] at hears
    rw [run_append]
    exact hears.operateAll (orderly.operate .openChannel) stays
  · intro later
    have opened := orderly.operate .openChannel
    have closing := opened.operateAll after
    have known : id ≤ (((run before).operate .openChannel).operateAll after).bus.lastId := by
      rw [lastId_operateAll opened, lastId_operate orderly, ← id_eq]
      exact Nat.le_add_right _ _
    rw [run_append, run_append]
    refine read_operateAll (closing.operate (.close id)) known ?_ later
    exact (Bus.inbox?_close _ id id).trans (if_pos rfl)
  · intro fails
    have answers := answers_addCallback orderly fails
    rw [id_eq] at answers
    rw [run_append]
    exact answers.operateAll (orderly.operate (.addCallback fails)) after
  · intro event
    obtain ⟨result, _, publish_eq⟩ := Bus.publish_cases orderly.bus event
    rw [run_append]
    change ((run before).bus.publish event).subscribers = _
    rw [publish_eq]

/-- A channel that has been unsubscribed gets nothing, although it is still read. -/
theorem unsubscribed_channel_hears_nothing :
    let ops := [BusOp.openChannel, .unsubscribe 1, .publish (.enginePaused 1)]
    (run ops).bus.inbox? 1 = some [] ∧ (run ops).received 1 ≠ [.enginePaused 1] := by
  decide +kernel

end Traffic

end Rotation
