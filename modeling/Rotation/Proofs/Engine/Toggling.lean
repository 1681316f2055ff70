import Mathlib.Algebra.Ring.Parity
import Rotation.Proofs.Engine.Pausing

/-!
# Toggling the pause

Who toggles the pause looks at the status of the engine and then asks for the other
state.  The status changes only when the run reads the command, which may be much
later.  A call that looks before that sees the old state, asks for the same as the
call before it, and is answered the same: it is lost.  A call is heeded when it finds
the engine in the state that was answered last.  Only the heeded calls count, and a
call that finds no commands waiting is always heeded.
-/

namespace Rotation

/-- Whether a run is paused after a command. -/
def Command.pausing (paused : Bool) : Command → Bool
  | .pause | .step => true
  | .resume => false
  | .stop _ => paused

namespace Run

theorem paused_applied (r : Run) (command : Command) (rest : List Command) :
    (r.applied command rest).paused = command.pausing r.paused := by
  cases command with
  | pause | resume | stop => rfl
  | step =>
      simp only [applied, Command.effect]
      split <;> rfl

/-- Whether a run is paused once it has read all commands that wait. -/
def willPause (r : Run) : Bool :=
  r.queue.foldl Command.pausing r.paused

theorem willPause_of_nil {r : Run} (empty : r.queue = []) : r.willPause = r.paused := by
  rw [willPause, empty, List.foldl_nil]

/-- A command that is applied has been counted before. -/
theorem willPause_applied {r : Run} {command : Command} {rest : List Command}
    (first : r.queue = command :: rest) : (r.applied command rest).willPause = r.willPause := by
  rw [willPause, willPause, paused_applied, first]
  rfl

theorem willPause_concat (r : Run) (command : Command) :
    willPause { r with queue := r.queue ++ [command] } = command.pausing r.willPause :=
  List.foldl_concat ..

end Run

namespace RunState

/-- The state of an engine whose run is paused, or goes on. -/
def ofPaused (paused : Bool) : RunState :=
  if paused then .paused else .running

theorem ofPaused_inj {a b : Bool} : ofPaused a = ofPaused b ↔ a = b := by
  cases a <;> cases b <;> simp [ofPaused]

/-- The state after so many toggles of an engine that goes on at first. -/
def afterToggles (n : Nat) : RunState :=
  ofPaused (decide (Odd n))

theorem afterToggles_succ {n : Nat} {paused : Bool} (now : ofPaused paused = afterToggles n) :
    ofPaused (!paused) = afterToggles (n + 1) := by
  rw [afterToggles, ofPaused_inj] at now
  rw [afterToggles, ofPaused_inj, now, ← decide_not, decide_eq_decide, Nat.odd_add_one]

end RunState

namespace Engine

open RunState

variable {τ : Type}

/-! ## A client -/

/-- What a call that looks at the engine knows and sees, and what it does not see: the
answer to the call before, the state of the engine, and the commands that wait. -/
structure Look where
  last : RunState
  state : RunState
  waiting : List Command

/-- Whether a call finds the engine in the state that was answered last. -/
def Look.heeded (look : Look) : Bool :=
  look.state == look.last

/-- A client that toggles the pause: at what it has looked, what it is about to ask
for, and what it has been answered. -/
structure Toggler where
  looks : List Look
  intent : Option (Command × RunState)
  answers : List (Except EngineError RunState)

namespace Toggler

/-- A client that has not called. -/
def fresh : Toggler :=
  ⟨[], none, []⟩

/-- The state that was answered last; the engine goes on at first. -/
def last (t : Toggler) : RunState :=
  match t.answers.getLast? with
  | some (.ok state) => state
  | _ => .running

/-- The number of calls that were heeded. -/
def heeded (t : Toggler) : Nat :=
  t.looks.countP Look.heeded

end Toggler

/-- The commands that wait. -/
def waiting (e : Engine τ) : List Command :=
  (e.run.map Run.queue).getD []

/-- What may happen next to an engine and its only client: a step of the run, something
that others do to the session, or the next half of a call. -/
inductive Beat (τ : Type) where
  | go
  | stir (stir : Stir (Watch τ))
  | call

/-- An engine among others, and its client. -/
abbrev Toggling (τ : Type) :=
  Among τ × Toggler

namespace Toggling

/-- The first half of a call looks at the status; the second gives the command. -/
def call (x : Toggling τ) : Toggling τ :=
  let (a, t) := x
  match t.intent with
  | none =>
    let looks := t.looks ++ [⟨t.last, a.1.status.state, a.1.waiting⟩]
    match toggleCommand? a.1.status.state with
    | none => (a, { t with looks, answers := t.answers ++ [.error .notRunning] })
    | some intent => (a, { t with looks, intent := some intent })
  | some (command, after) =>
    let (sent, e) := a.1.send command
    ((e, a.2), { t with intent := none, answers := t.answers ++ [sent.map fun _ => after] })

/-- The engine and its client after a beat. -/
def beat (d : Devices τ) (x : Toggling τ) : Beat τ → Toggling τ
  | .go => (x.1.move d .go, x.2)
  | .stir stir => (x.1.move d (.stir stir), x.2)
  | .call => x.call

/-- The engine and its client after beats one after the other. -/
def beats (d : Devices τ) (x : Toggling τ) (beats : List (Beat τ)) : Toggling τ :=
  beats.foldl (beat d) x

/-- Two halves of a call with nothing in between are a toggle of the pause. -/
theorem call_call_eq (a : Among τ) {t : Toggler} (resting : t.intent = none)
    (active : a.1.status.state ≠ .idle) :
    (call (call (a, t))).1 = (a.1.togglePause.2, a.2) ∧
      (call (call (a, t))).2.answers = t.answers ++ [a.1.togglePause.1] := by
  obtain ⟨intent, asks⟩ : ∃ intent, toggleCommand? a.1.status.state = some intent := by
    cases state : a.1.status.state with
    | idle => exact absurd state active
    | running | paused => exact ⟨_, rfl⟩
  simp [call, togglePause, resting, asks]

end Toggling

/-! ## What a client and its run are at -/

variable {d : Devices τ} {e : Engine τ} {r r' : Run} {acts : List (Act (Watch τ))}
  {status : EngineStatus}

/-- A step applies a command, or leaves the queue and the pause as they are. -/
theorem queue_cases (strides : Strides d e r acts status r') :
    (∃ command rest, r.queue = command :: rest ∧ r' = r.applied command rest) ∨
      r'.queue = r.queue ∧ r'.paused = r.paused := by
  cases strides with
  | applies reads first => exact .inl ⟨_, _, first, rfl⟩
  | turns | casts | crashes | finishes => exact .inr ⟨rfl, rfl⟩
  | executes c choosing allowed picked works => exact .inr ⟨works.queue, works.paused⟩
  | concludes casting strides finished works => exact .inr ⟨works.queue, works.paused⟩

theorem willPause_of_strides (strides : Strides d e r acts status r') :
    r'.willPause = r.willPause := by
  rcases queue_cases strides with ⟨command, rest, first, rfl⟩ | ⟨queue_eq, paused_eq⟩
  · exact Run.willPause_applied first
  · rw [Run.willPause, Run.willPause, queue_eq, paused_eq]

/-- A run that has not ended takes commands. -/
theorem send_of_active (run : e.run = some r) (active : e.status.state ≠ .idle)
    (command : Command) : e.send command = (.ok (), e.receive command) := by
  have running : e.isRunning = true := by simpa [isRunning] using active
  simp [send, listens, receive, running, run]

/-- A client between two calls, or in the middle of one. -/
inductive Toggler.Stands (t : Toggler) : Prop
  | rests (intent : t.intent = none) (length : t.answers.length = t.looks.length)
      (last : t.last = afterToggles t.heeded)
  | calls {command : Command} {after : RunState} (intent : t.intent = some (command, after))
      (length : t.answers.length + 1 = t.looks.length)
      (asks : ∀ paused, ofPaused (command.pausing paused) = after)
      (after_eq : after = afterToggles t.heeded)

theorem Toggler.Stands.of_rests {t : Toggler} (stands : t.Stands) (intent : t.intent = none) :
    t.answers.length = t.looks.length ∧ t.last = afterToggles t.heeded := by
  cases stands with
  | rests _ length last => exact ⟨length, last⟩
  | calls calling => simp [intent] at calling

theorem Toggler.Stands.of_calls {t : Toggler} (stands : t.Stands) {command : Command}
    {after : RunState} (intent : t.intent = some (command, after)) :
    t.answers.length + 1 = t.looks.length ∧
      (∀ paused, ofPaused (command.pausing paused) = after) ∧ after = afterToggles t.heeded := by
  cases stands with
  | rests resting => simp [intent] at resting
  | calls calling length asks after_eq =>
      cases intent.symm.trans calling
      exact ⟨length, asks, after_eq⟩

/-- How a run stands that has not ended, and its client. -/
structure Toggles (t : Toggler) (status : EngineStatus) (r : Run) : Prop where
  state : status.state = ofPaused r.paused
  last : t.last = ofPaused r.willPause
  stands : t.Stands
  answered : ∀ k < t.answers.length, t.answers[k]? =
    some (.ok (afterToggles ((t.looks.take (k + 1)).countP Look.heeded)))
  prompt : ∀ look ∈ t.looks, look.waiting = [] → look.heeded = true

namespace Toggles

variable {t : Toggler}

theorem steps (toggles : Toggles t e.status r) (strides : Strides d e r acts status r')
    (lasting : r'.phase ≠ .ended) : Toggles t status r' where
  state := state_of_strides strides lasting toggles.state
  last := by rw [willPause_of_strides strides, toggles.last]
  stands := toggles.stands
  answered := toggles.answered
  prompt := toggles.prompt

theorem active (toggles : Toggles t e.status r) : e.status.state ≠ .idle := by
  rw [toggles.state]
  cases r.paused <;> simp [ofPaused]

/-- The first half of a call: the client sees whether the run is paused, and will ask
for the contrary. -/
theorem look {a : Among τ} (toggles : Toggles t a.1.status r) (run : a.1.run = some r)
    (intent : t.intent = none) :
    ∃ t', Toggling.call (a, t) = (a, t') ∧ Toggles t' a.1.status r := by
  let seen : Look := ⟨t.last, a.1.status.state, a.1.waiting⟩
  let command : Command := if r.paused then .resume else .pause
  obtain ⟨length, last⟩ := toggles.stands.of_rests intent
  have asks : toggleCommand? a.1.status.state = some (command, ofPaused (!r.paused)) := by
    rw [toggles.state]
    cases paused : r.paused <;> simp [toggleCommand?, ofPaused, command, paused]
  have heeded_iff : seen.heeded = true ↔ r.paused = r.willPause := by
    simp only [seen, Look.heeded, beq_iff_eq, toggles.state, toggles.last, ofPaused_inj]
  refine ⟨{ t with looks := t.looks ++ [seen], intent := some (command, ofPaused (!r.paused)) },
    by simp only [Toggling.call, intent, asks, seen], toggles.state, toggles.last, ?_, ?_, ?_⟩
  · refine .calls rfl (by simp [length]) ?_ ?_
    · intro paused
      cases own : r.paused <;> simp [command, Command.pausing, own]
    · have count_eq : (t.looks ++ [seen]).countP Look.heeded =
          t.heeded + if seen.heeded then 1 else 0 := by
        rw [List.countP_append, List.countP_singleton, Toggler.heeded]
      rw [toggles.last] at last
      rw [Toggler.heeded, count_eq]
      split
      · rename_i heeded
        rw [← heeded_iff.mp heeded] at last
        exact afterToggles_succ last
      · rename_i lost
        have contrary : (!r.paused) = r.willPause :=
          Bool.not_eq.mpr fun same => lost (heeded_iff.mpr same)
        rw [contrary, last, Nat.add_zero]
  · intro k k_lt
    have within : k + 1 ≤ t.looks.length := length ▸ k_lt
    rw [List.take_append_of_le_length within]
    exact toggles.answered k k_lt
  · intro look mem
    rcases List.mem_append.mp mem with earlier | now
    · exact toggles.prompt look earlier
    · rw [List.mem_singleton.mp now]
      intro empty
      have queue : r.queue = [] := by simpa [seen, waiting, run] using empty
      exact heeded_iff.mpr (Run.willPause_of_nil queue).symm

/-- The second half of a call: the command reaches the run, and the client is told what
it has asked for. -/
theorem send {a : Among τ} (toggles : Toggles t a.1.status r) (run : a.1.run = some r)
    {command : Command} {after : RunState} (intent : t.intent = some (command, after)) :
    ∃ t', Toggling.call (a, t) = (a.move d (.arrive command), t') ∧
      Toggles t' a.1.status { r with queue := r.queue ++ [command] } := by
  obtain ⟨length, asks, after_eq⟩ := toggles.stands.of_calls intent
  have last_eq : Toggler.last ⟨t.looks, none, t.answers ++ [.ok after]⟩ = after := by
    simp [Toggler.last]
  refine ⟨⟨t.looks, none, t.answers ++ [.ok after]⟩, ?_, toggles.state, ?_, ?_, ?_,
    toggles.prompt⟩
  · simp only [Toggling.call, intent, send_of_active run toggles.active, Among.move]
    rfl
  · rw [last_eq, Run.willPause_concat, asks]
  · exact .rests rfl (by simp [length]) (last_eq.trans after_eq)
  · intro k k_lt
    rw [List.length_append, List.length_singleton, Nat.lt_succ_iff_lt_or_eq] at k_lt
    rcases k_lt with earlier | rfl
    · rw [List.getElem?_append_left earlier]
      exact toggles.answered k earlier
    · rw [List.getElem?_concat_length, length, List.take_length, after_eq, Toggler.heeded]

/-- Nothing but commands and steps of the run matters to the client. -/
theorem goes {a a' : Among τ} {move : Move τ} (toggles : Toggles t a.1.status r)
    (goes : Among.Goes d a r move a' r') (silent : ∀ command, move ≠ .arrive command)
    (lasting : r'.phase ≠ .ended) : Toggles t a'.1.status r' := by
  cases goes with
  | steps strides => exact toggles.steps strides lasting
  | arrives command => exact absurd rfl (silent command)
  | stirs | hangsUp =>
      exact ⟨toggles.state, toggles.last, toggles.stands, toggles.answered, toggles.prompt⟩

end Toggles

theorem Among.Goes.not_ended {a a' : Among τ} {move : Move τ} (goes : Among.Goes d a r move a' r')
    (lasting : r'.phase ≠ .ended) : r.phase ≠ .ended := by
  cases goes with
  | steps strides => exact fun ended => lasting (ended_of_strides strides (.inl ended))
  | stirs | arrives | hangsUp => exact lasting

theorem Among.Sound.arrives {a : Among τ} (sound : a.Sound d r) (command : Command) :
    Among.Goes d a r (.arrive command) (a.move d (.arrive command))
      { r with queue := r.queue ++ [command] } := by
  rw [Among.move, receive, sound.run]
  exact .arrives command

namespace Toggling

/-- A run among others, and its client. -/
structure Sound (d : Devices τ) (x : Toggling τ) (r : Run) : Prop where
  among : x.1.Sound d r
  toggles : r.phase ≠ .ended → Toggles x.2 x.1.1.status r

variable {x : Toggling τ}

/-- A call gives a command, or changes nothing but the client. -/
theorem call_cases (d : Devices τ) (x : Toggling τ) :
    x.call.1 = x.1 ∨ ∃ command, x.call.1 = x.1.move d (.arrive command) := by
  obtain ⟨a, t⟩ := x
  cases intent : t.intent with
  | none =>
      left
      simp only [call, intent]
      split <;> rfl
  | some asked =>
      rcases send_cases a.1 asked.1 with refused | taken
      · left
        simp only [call, intent, refused]
      · right
        exact ⟨asked.1, by simp only [call, intent, taken, Among.move]⟩

theorem Sound.moves {move : Move τ} (sound : x.Sound d r)
    (silent : ∀ command, move ≠ .arrive command) :
    ∃ r', Sound d (x.1.move d move, x.2) r' := by
  obtain ⟨r', goes⟩ := sound.among.exists_goes move
  refine ⟨r', goes.sound sound.among, fun lasting => ?_⟩
  exact (sound.toggles (goes.not_ended lasting)).goes goes silent lasting

theorem Sound.call (sound : x.Sound d r) : ∃ r', Sound d x.call r' := by
  by_cases ended : r.phase = .ended
  · rcases call_cases d x with same | ⟨command, given⟩
    · exact ⟨r, same ▸ sound.among, fun lasting => absurd ended lasting⟩
    · refine ⟨{ r with queue := r.queue ++ [command] }, ?_, fun lasting => absurd ended lasting⟩
      exact given ▸ (sound.among.arrives command).sound sound.among
  · have toggles := sound.toggles ended
    obtain ⟨a, t⟩ := x
    cases intent : t.intent with
    | none =>
        obtain ⟨t', call_eq, toggles'⟩ := toggles.look sound.among.run intent
        exact ⟨r, call_eq ▸ sound.among, fun _ => call_eq ▸ toggles'⟩
    | some asked =>
        obtain ⟨command, after⟩ := asked
        obtain ⟨t', call_eq, toggles'⟩ := toggles.send (d := d) sound.among.run intent
        have arrives := sound.among.arrives command
        refine ⟨{ r with queue := r.queue ++ [command] }, ?_, fun _ => ?_⟩
        · exact call_eq ▸ arrives.sound sound.among
        · have status_eq : (Among.move d a (.arrive command)).1.status = a.1.status := by
            rw [Among.move, receive, sound.among.run]
            rfl
          rw [call_eq]
          exact status_eq ▸ toggles'

theorem Sound.beat (sound : x.Sound d r) (beat : Beat τ) : ∃ r', Sound d (x.beat d beat) r' := by
  cases beat with
  | go => exact sound.moves (by simp)
  | stir stir => exact sound.moves (by simp)
  | call => exact sound.call

theorem Sound.beats (sound : x.Sound d r) (beats : List (Beat τ)) :
    ∃ r', Sound d (x.beats d beats) r' := by
  induction beats generalizing x r with
  | nil => exact ⟨r, sound⟩
  | cons beat rest ih =>
      obtain ⟨r₁, sound₁⟩ := sound.beat beat
      exact ih sound₁

end Toggling

theorem Toggles.fresh (begun : Begun e r) : Toggles .fresh e.status r where
  state := by rw [begun.state, begun.unpaused]; rfl
  last := by rw [Run.willPause_of_nil begun.queue, begun.unpaused]; rfl
  stands := .rests rfl rfl rfl
  answered k k_lt := absurd k_lt (Nat.not_lt_zero k)
  prompt look mem := absurd mem List.not_mem_nil

/-- What a client has been told that is not in the middle of a call, and what has
become of his calls.  The answer to a call, and the state of the engine when all
commands have been read, are those after as many toggles as calls were heeded; a call
is heeded if it finds no commands waiting.  So if no call finds any, no toggle is
lost. -/
structure Toggled (t : Toggler) (status : EngineStatus) (r : Run) : Prop where
  length : t.answers.length = t.looks.length
  answered : ∀ k < t.answers.length, t.answers[k]? =
    some (.ok (afterToggles ((t.looks.take (k + 1)).countP Look.heeded)))
  settled : r.queue = [] → status.state = afterToggles t.heeded
  prompt : ∀ look ∈ t.looks, look.waiting = [] → look.heeded = true
  exactly : (∀ look ∈ t.looks, look.waiting = []) →
    (∀ k < t.answers.length, t.answers[k]? = some (.ok (afterToggles (k + 1)))) ∧
      (r.queue = [] → status.state = afterToggles t.answers.length)

theorem Toggles.toggled {t : Toggler} (toggles : Toggles t status r)
    (resting : t.intent = none) : Toggled t status r := by
  obtain ⟨length, last⟩ := toggles.stands.of_rests resting
  have settled : r.queue = [] → status.state = afterToggles t.heeded := by
    intro empty
    rw [toggles.state, ← Run.willPause_of_nil empty, ← toggles.last, last]
  refine ⟨length, toggles.answered, settled, toggles.prompt, fun unhurried => ?_⟩
  have all_heeded : ∀ looks ⊆ t.looks, looks.countP Look.heeded = looks.length := by
    intro looks within
    apply List.countP_eq_length.mpr
    exact fun look mem => toggles.prompt look (within mem) (unhurried look (within mem))
  constructor
  · intro k k_lt
    rw [toggles.answered k k_lt, all_heeded _ (List.take_subset ..), List.length_take,
      Nat.min_eq_left (length ▸ k_lt)]
  · intro empty
    rw [settled empty, Toggler.heeded, all_heeded _ (List.Subset.refl _), length]

variable {e₀ : Engine τ} {preset : Preset} {time : String}

/-- However the halves of the calls of a client come among the steps of a run that has
been launched: while the run has not ended, just the heeded calls count. -/
theorem toggled_of_launch (launched : e₀.launch d preset time = .ok e) (beats : List (Beat τ)) :
    ∃ r, (Toggling.beats d ((e, e.session.lock.holder), .fresh) beats).1.1.run = some r ∧
      (r.phase ≠ .ended →
        (Toggling.beats d ((e, e.session.lock.holder), .fresh) beats).2.intent = none →
        Toggled (Toggling.beats d ((e, e.session.lock.holder), .fresh) beats).2
          (Toggling.beats d ((e, e.session.lock.holder), .fresh) beats).1.1.status r) := by
  obtain ⟨r₀, begun, _⟩ := begun_of_launch launched
  have start : Toggling.Sound d ((e, e.session.lock.holder), .fresh) r₀ :=
    ⟨begun.sound, fun _ => .fresh begun⟩
  obtain ⟨r, sound⟩ := start.beats beats
  exact ⟨r, sound.among.run, fun lasting => (sound.toggles lasting).toggled⟩

/-! ## Two calls to a choir -/

/-- Whether a choir and its client are where they are thought to be after beats. -/
def Toggling.hums (beats : List (Beat Unit)) (there : Toggler → RunState → Run → Bool) : Bool :=
  match choir.launch (darkness (.ok (.ok ()))) humming "now" with
  | .error _ => false
  | .ok e =>
    let last := Toggling.beats (darkness (.ok (.ok ()))) ((e, none), .fresh) beats
    last.1.1.run.any (there last.2 last.1.1.status.state)

theorem Toggling.exists_of_hums {beats : List (Beat Unit)}
    {there : Toggler → RunState → Run → Bool} (done : Toggling.hums beats there = true) :
    ∃ e r, choir.launch (darkness (.ok (.ok ()))) humming "now" = .ok e ∧
      e.session.lock.holder = none ∧
      (Toggling.beats (darkness (.ok (.ok ()))) ((e, none), .fresh) beats).1.1.run = some r ∧
      there (Toggling.beats (darkness (.ok (.ok ()))) ((e, none), .fresh) beats).2
        (Toggling.beats (darkness (.ok (.ok ()))) ((e, none), .fresh) beats).1.1.status.state r =
          true := by
  unfold Toggling.hums at done
  split at done
  · contradiction
  · rename_i e launched
    obtain ⟨r, run, holds⟩ := (Option.any_eq_true _ _).mp done
    obtain ⟨_, _, _, lock_eq⟩ := begun_of_launch launched
    exact ⟨e, r, launched, congrArg CastLock.holder lock_eq, run, holds⟩

/-- A choir that reads one command before the next call pauses, and then goes on. -/
theorem choir_heeds_two_calls :
    ∃ e r, choir.launch (darkness (.ok (.ok ()))) humming "now" = .ok e ∧
      let x := Toggling.beats (darkness (.ok (.ok ()))) ((e, none), .fresh)
        [.call, .call, .go, .call, .call, .go]
      x.1.1.run = some r ∧ Toggled x.2 x.1.1.status r ∧
        x.2.answers[0]? = some (.ok .paused) ∧ x.2.answers[1]? = some (.ok .running) ∧
        x.1.1.status.state = .running := by
  have called : Toggling.hums [.call, .call, .go, .call, .call, .go]
      (fun t _ r => r.phase matches .draining && t.intent.isNone && t.answers.length == 2 &&
        (t.looks.all fun look => look.waiting.isEmpty) && r.queue.isEmpty) = true := by
    decide +kernel
  obtain ⟨e, r, launched, free, run, there⟩ := Toggling.exists_of_hums called
  simp only [Bool.and_eq_true, beq_iff_eq, List.all_eq_true, List.isEmpty_iff,
    Option.isNone_iff_eq_none] at there
  obtain ⟨⟨⟨⟨draining, resting⟩, two⟩, unhurried⟩, empty⟩ := there
  have lasting : r.phase ≠ .ended := by
    intro ended
    simp [ended] at draining
  have toggled := toggled_of_launch launched [.call, .call, .go, .call, .call, .go]
  rw [free] at toggled
  obtain ⟨_, own, toggled⟩ := toggled
  obtain rfl := Option.some.inj (run.symm.trans own)
  have account := toggled lasting resting
  obtain ⟨answered, settled⟩ := account.exactly unhurried
  refine ⟨e, r, launched, run, account, ?_, ?_, ?_⟩
  · exact answered 0 (by omega)
  · exact answered 1 (by omega)
  · exact (settled empty).trans (by rw [two]; rfl)

/-- Of two calls that come before the run reads a command, the second is lost: both are
answered alike, and the choir stays paused. -/
theorem choir_loses_a_call :
    ∃ e r, choir.launch (darkness (.ok (.ok ()))) humming "now" = .ok e ∧
      let x := Toggling.beats (darkness (.ok (.ok ()))) ((e, none), .fresh)
        [.call, .call, .call, .call, .go, .go]
      x.1.1.run = some r ∧ r.phase = .draining ∧ r.queue = [] ∧ x.2.intent = none ∧
        x.2.answers = [.ok .paused, .ok .paused] ∧ x.1.1.status.state = .paused := by
  have called : Toggling.hums [.call, .call, .call, .call, .go, .go]
      (fun t state r => r.phase matches .draining && r.queue.isEmpty && t.intent.isNone &&
        t.answers == [.ok .paused, .ok .paused] && state == .paused) = true := by
    decide +kernel
  obtain ⟨e, r, launched, _, run, there⟩ := Toggling.exists_of_hums called
  simp only [Bool.and_eq_true, beq_iff_eq, List.isEmpty_iff, Option.isNone_iff_eq_none] at there
  obtain ⟨⟨⟨⟨draining, empty⟩, resting⟩, alike⟩, paused⟩ := there
  refine ⟨e, r, launched, run, ?_, empty, resting, alike, paused⟩
  split at draining
  · assumption
  · contradiction

end Engine

end Rotation
