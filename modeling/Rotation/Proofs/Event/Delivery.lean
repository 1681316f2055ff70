import Mathlib.Data.List.Nodup
import Rotation.Event.Bus

/-!
# Delivery

An event is delivered to all who have subscribed when it is published, and those that
fail are removed afterwards, so that nobody misses an event because of somebody else.
What is under an identifier is seen apart from all else: its sinks, its inbox and the
calls made to it.  Callbacks do not use the bus here, but they may fail.
-/

namespace Rotation

/-! ## Lists under identifiers -/

section

variable {α : Type} {id : Nat}

theorem lookup_map_of_fst {f : Nat × α → Nat × α} (same : ∀ entry, (f entry).1 = entry.1)
    (entries : List (Nat × α)) :
    (entries.map f).lookup id = (entries.lookup id).map fun a => (f (id, a)).2 := by
  induction entries with
  | nil => rfl
  | cons entry rest ih =>
      rcases entry with ⟨i, a⟩
      have head_eq : f (i, a) = (i, (f (i, a)).2) := Prod.ext (same (i, a)) rfl
      by_cases found : id = i
      · subst found
        rw [List.map_cons, head_eq, List.lookup_cons_self, List.lookup_cons_self]
        rfl
      · rw [List.map_cons, head_eq, List.lookup_cons, List.lookup_cons, beq_false_of_ne found]
        exact ih

theorem lookup_filter_of_ne {i : Nat} (other : id ≠ i) (entries : List (Nat × α)) :
    (entries.filter fun entry => entry.1 != i).lookup id = entries.lookup id := by
  induction entries with
  | nil => rfl
  | cons entry rest ih =>
      rcases entry with ⟨first, a⟩
      by_cases dropped : first = i
      · rw [List.filter_cons_of_neg (by simp [dropped]), ih, List.lookup_cons, dropped,
          beq_false_of_ne other]
      · rw [List.filter_cons_of_pos (by simpa using dropped), List.lookup_cons, List.lookup_cons,
          ih]

theorem lookup_filter_self (entries : List (Nat × α)) :
    (entries.filter fun entry => entry.1 != id).lookup id = none := by
  rw [List.lookup_eq_none_iff]
  intro entry mem
  have other := (List.mem_filter.mp mem).2
  simpa [bne, Bool.beq_comm] using other

end

/-! ## Observing a bus -/

/-- A callback that does not use the bus; it fails at some events. -/
def Sink.quiet (fails : Event → Bool) : Sink :=
  .callback fun event => ⟨[], fails event⟩

/-- The sink does not use the bus. -/
def Sink.Quiet : Sink → Prop
  | .channel => True
  | .callback react => ∀ event, (react event).requests = []

/-- Whether the sink is a channel. -/
def Sink.isChannel : Sink → Bool
  | .channel => true
  | .callback _ => false

namespace Bus

/-- The sinks under an identifier. -/
def sinks (b : Bus) (id : Nat) : List Sink :=
  (b.subscribers.filter fun s => s.1 == id).map Prod.snd

/-- The events that a callback has been called with, one after the other. -/
def called (b : Bus) (id : Nat) : List Event :=
  (b.calls.toList.filter fun call => call.1 == id).map Prod.snd

/-- Whether a subscriber fails at an event: a channel that is not read any more, or a
callback that does not bear the event. -/
def fails (b : Bus) (event : Event) : Nat × Sink → Bool
  | (id, .channel) => (b.inbox? id).isNone
  | (_, .callback react) => (react event).fails

/-- No two subscribers have the same identifier, the next one is free, and callbacks do
not use the bus. -/
structure Orderly (b : Bus) : Prop where
  nodup : (b.subscribers.map Prod.fst).Nodup
  subscribers_le : ∀ s ∈ b.subscribers, s.1 ≤ b.lastId
  inboxes_le : ∀ inbox ∈ b.inboxes, inbox.1 ≤ b.lastId
  calls_le : ∀ call ∈ b.calls.toList, call.1 ≤ b.lastId
  quiet : ∀ s ∈ b.subscribers, s.2.Quiet

variable {b : Bus} {id i : Nat} {event : Event} {sink : Sink}

/-! ## Delivering an event -/

theorem inbox?_put (b : Bus) (i : Nat) (event : Event) (id : Nat) :
    (b.put i event).inbox? id =
      (b.inbox? id).map fun events => if id = i then events ++ [event] else events := by
  rw [put, inbox?, inbox?, lookup_map_of_fst]
  · congr 1
    funext events
    split <;> rfl
  · intro entry
    split
    · rename_i same
      exact same.symm
    · rfl

theorem put_of_unread (unread : b.inbox? i = none) (event : Event) : b.put i event = b := by
  have same : (b.inboxes.map fun inbox => if inbox.1 = i then (i, inbox.2 ++ [event]) else inbox) =
      b.inboxes.map fun inbox => inbox := by
    apply List.map_congr_left
    intro inbox mem
    have other := bne_iff_ne.mp (List.lookup_eq_none_iff.mp unread inbox mem)
    exact if_neg other.symm
  rw [put, same, List.map_id']

theorem map_fst_put (b : Bus) (i : Nat) (event : Event) :
    (b.put i event).inboxes.map Prod.fst = b.inboxes.map Prod.fst := by
  rw [put, List.map_map]
  apply List.map_congr_left
  intro inbox _
  dsimp only [Function.comp_apply]
  split
  · rename_i same
    exact same.symm
  · rfl

theorem deliver_channel (publish : Bus → Event → Bus) (b : Bus) (event : Event) (id : Nat) :
    deliver publish b event (id, .channel) = (!b.fails event (id, .channel), b.put id event) := by
  cases read : b.inbox? id with
  | none => simp only [deliver, fails, read, put_of_unread read]; rfl
  | some events => simp only [deliver, fails, read]; rfl

theorem deliver_callback (publish : Bus → Event → Bus) (b : Bus) {react : Event → Reaction}
    (quiet : Sink.Quiet (.callback react)) (event : Event) (id : Nat) :
    deliver publish b event (id, .callback react) =
      (!b.fails event (id, .callback react), { b with calls := b.calls.push (id, event) }) := by
  simp only [deliver, quiet event, List.foldl_nil, fails]

/-- Nobody but the subscriber itself decides whether it fails. -/
theorem fails_put (b : Bus) (i : Nat) (e : Event) : (b.put i e).fails event = b.fails event := by
  funext s
  rcases s with ⟨id, _ | react⟩
  · simp [fails, inbox?_put]
  · rfl

/-- What the delivery of an event to some subscribers comes to. -/
structure Delivers (b : Bus) (event : Event) (targets : List (Nat × Sink))
    (result : List Nat × Bus) : Prop where
  failed : result.1 = (targets.filter (b.fails event)).map Prod.fst
  subscribers : result.2.subscribers = b.subscribers
  lastId : result.2.lastId = b.lastId
  inboxes : result.2.inboxes.map Prod.fst = b.inboxes.map Prod.fst
  inbox? : ∀ id, result.2.inbox? id = (b.inbox? id).map fun events =>
    events ++ (targets.filter fun s => s.1 == id && s.2.isChannel).map fun _ => event
  calls : result.2.calls.toList =
    b.calls.toList ++ (targets.filter fun s => !s.2.isChannel).map fun s => (s.1, event)

theorem delivers_deliverAll (publish : Bus → Event → Bus) (b : Bus) (event : Event)
    {targets : List (Nat × Sink)} (quiet : ∀ s ∈ targets, s.2.Quiet) :
    b.Delivers event targets (deliverAll publish b event targets) := by
  induction targets generalizing b with
  | nil => exact ⟨rfl, rfl, rfl, rfl, by simp [deliverAll], by simp [deliverAll]⟩
  | cons s rest ih =>
      have rest_quiet := fun t mem => quiet t (List.mem_cons_of_mem s mem)
      rcases s with ⟨i, _ | react⟩
      · have tail := ih (b.put i event) rest_quiet
        rw [deliverAll, deliver_channel]
        refine ⟨?_, tail.subscribers, tail.lastId, tail.inboxes.trans (map_fst_put b i event), ?_,
          tail.calls.trans (by simp [Sink.isChannel, put])⟩
        · dsimp only
          rw [tail.failed, fails_put, List.filter_cons]
          cases b.fails event (i, .channel) <;> rfl
        · intro id
          dsimp only
          rw [tail.inbox?, inbox?_put, Option.map_map]
          congr 1
          funext events
          by_cases own : i = id
          · simp [own, Sink.isChannel]
          · simp [own, Ne.symm own]
      · have tail := ih { b with calls := b.calls.push (i, event) } rest_quiet
        rw [deliverAll, deliver_callback publish b (quiet _ List.mem_cons_self)]
        refine ⟨?_, tail.subscribers, tail.lastId, tail.inboxes, ?_,
          tail.calls.trans (by simp [Sink.isChannel])⟩
        · have same : fails { b with calls := b.calls.push (i, event) } event = b.fails event := rfl
          dsimp only
          rw [tail.failed, same, List.filter_cons]
          cases b.fails event (i, .callback react) <;> rfl
        · intro id
          dsimp only
          rw [tail.inbox?, List.filter_cons_of_neg (by simp [Sink.isChannel])]
          rfl

/-- Publishing delivers to all subscribers and keeps those that have not failed. -/
theorem publish_cases (orderly : b.Orderly) (event : Event) :
    ∃ result, b.Delivers event b.subscribers result ∧ b.publish event =
      { result.2 with subscribers := b.subscribers.filter fun s => !b.fails event s } := by
  have published : ∃ publish : Bus → Event → Bus, b.publish event =
      { (deliverAll publish b event b.subscribers).2 with
        subscribers := (deliverAll publish b event b.subscribers).2.subscribers.filter fun s =>
          !(deliverAll publish b event b.subscribers).1.contains s.1 } :=
    ⟨_, rfl⟩
  obtain ⟨publish, publish_eq⟩ := published
  have delivers := delivers_deliverAll publish b event orderly.quiet
  refine ⟨_, delivers, publish_eq.trans ?_⟩
  have same : b.subscribers.filter (fun s =>
      !(deliverAll publish b event b.subscribers).1.contains s.1) =
        b.subscribers.filter fun s => !b.fails event s := by
    apply List.filter_congr
    intro s mem
    rw [delivers.failed, Bool.not_inj_iff, Bool.eq_iff_iff, List.contains_iff_mem, List.mem_map]
    constructor
    · rintro ⟨other, failing, same_id⟩
      obtain ⟨other_mem, fails⟩ := List.mem_filter.mp failing
      rwa [List.inj_on_of_nodup_map orderly.nodup other_mem mem same_id] at fails
    · intro fails
      exact ⟨s, List.mem_filter.mpr ⟨mem, fails⟩, rfl⟩
  rw [delivers.subscribers, same]

/-! ## What is under an identifier -/

theorem sinks_filter (keep : Nat × Sink → Bool) (b : Bus) (id : Nat) :
    sinks { b with subscribers := b.subscribers.filter keep } id =
      (b.sinks id).filter fun sink => keep (id, sink) := by
  rw [sinks, sinks, List.filter_map, List.filter_filter, List.filter_filter]
  congr 1
  apply List.filter_congr
  intro s _
  by_cases own : s.1 = id
  · subst own
    simp
  · simp [beq_false_of_ne own]

theorem sinks_unsubscribe (b : Bus) (i id : Nat) :
    (b.unsubscribe i).sinks id = if i = id then [] else b.sinks id := by
  rw [unsubscribe, sinks_filter]
  split
  · rename_i own
    simp [own]
  · rename_i other
    simp [Ne.symm other]

theorem sinks_add_of_le (known : id ≤ b.lastId) (sink : Sink) :
    (b.add sink).2.sinks id = b.sinks id := by
  have other : b.lastId + 1 ≠ id := by omega
  simp [sinks, add, other]

theorem sinks_add_self (orderly : b.Orderly) (sink : Sink) :
    (b.add sink).2.sinks (b.lastId + 1) = [sink] := by
  have unused : (b.subscribers.filter fun s => s.1 == b.lastId + 1) = [] := by
    rw [List.filter_eq_nil_iff]
    intro s mem same
    have le := orderly.subscribers_le s mem
    rw [eq_of_beq same] at le
    omega
  simp [sinks, add, unused]

theorem called_of_lt (orderly : b.Orderly) (unknown : b.lastId < id) : b.called id = [] := by
  rw [called, List.map_eq_nil_iff, List.filter_eq_nil_iff]
  intro call mem same
  have le := orderly.calls_le call mem
  rw [eq_of_beq same] at le
  omega

theorem inbox?_of_lt (orderly : b.Orderly) (unknown : b.lastId < id) : b.inbox? id = none := by
  rw [inbox?, List.lookup_eq_none_iff]
  intro inbox mem
  have le := orderly.inboxes_le inbox mem
  simp only [bne_iff_ne]
  omega

theorem inbox?_openChannel_of_le (known : id ≤ b.lastId) :
    b.openChannel.2.inbox? id = b.inbox? id := by
  have other : id ≠ b.lastId + 1 := by omega
  simp [openChannel, add, inbox?, List.lookup_append, List.lookup_cons, beq_false_of_ne other]

theorem inbox?_openChannel_self (orderly : b.Orderly) :
    b.openChannel.2.inbox? (b.lastId + 1) = some [] := by
  have unused := inbox?_of_lt orderly (Nat.lt_succ_self b.lastId)
  rw [inbox?] at unused
  simp [openChannel, add, inbox?, List.lookup_append, unused]

theorem inbox?_close (b : Bus) (i id : Nat) :
    (b.close i).inbox? id = if i = id then none else b.inbox? id := by
  rw [close, inbox?]
  split
  · rename_i own
    subst own
    exact lookup_filter_self b.inboxes
  · rename_i other
    exact lookup_filter_of_ne (Ne.symm other) b.inboxes

theorem inbox?_drain (b : Bus) (i id : Nat) :
    (b.drain i).2.inbox? id = (b.inbox? id).map fun events => if i = id then [] else events := by
  rw [drain, inbox?, inbox?, lookup_map_of_fst]
  · congr 1
    funext events
    split
    · rename_i own
      rw [if_pos own.symm]
    · rename_i other
      rw [if_neg (Ne.symm other)]
  · intro entry
    split
    · rename_i same
      exact same.symm
    · rfl

theorem sinks_publish (orderly : b.Orderly) (event : Event) (id : Nat) :
    (b.publish event).sinks id = (b.sinks id).filter fun sink => !b.fails event (id, sink) := by
  obtain ⟨result, _, publish_eq⟩ := publish_cases orderly event
  rw [publish_eq]
  exact sinks_filter _ b id

theorem inbox?_publish (orderly : b.Orderly) (event : Event) (id : Nat) :
    (b.publish event).inbox? id = (b.inbox? id).map fun events =>
      events ++ ((b.sinks id).filter Sink.isChannel).map fun _ => event := by
  obtain ⟨result, delivers, publish_eq⟩ := publish_cases orderly event
  rw [publish_eq]
  refine (delivers.inbox? id).trans ?_
  simp only [sinks, List.filter_map, List.filter_filter, List.map_map, Function.comp_def,
    Bool.and_comm]

theorem called_publish (orderly : b.Orderly) (event : Event) (id : Nat) :
    (b.publish event).called id =
      b.called id ++ ((b.sinks id).filter fun sink => !sink.isChannel).map fun _ => event := by
  obtain ⟨result, delivers, publish_eq⟩ := publish_cases orderly event
  rw [publish_eq, called, delivers.calls, called]
  simp only [List.filter_append, List.map_append, sinks, List.filter_map, List.filter_filter,
    List.map_map, Function.comp_def, Bool.and_comm]

end Bus

end Rotation
