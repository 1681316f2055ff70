import Rotation.Proofs.Cast.Completion
import Rotation.Proofs.Engine.Strides

/-!
# Runs among others

Between the steps of a run commands arrive, nobody gives commands any more, and
others do to the session what they like.  The steps themselves tell of events,
whoever listens.  What is known of a run all along is which attempt it is at,
that its store is in order, and how it shares the lock with the others.
-/

namespace Rotation.Engine

variable {τ : Type}

/-! ## What a stride keeps -/

variable {d : Devices τ} {e : Engine τ} {r r' : Run} {acts : List (Act (Watch τ))}
  {status : EngineStatus}

/-- Under which name a run holds the lock. -/
def held (r : Run) : Option String :=
  r.phase.attempt?.bind fun attempt => Cast.Caster.held attempt.1.attempted attempt.2

theorem attempt?_of_reads {phase : RunPhase} (reads : phase.reads = true) :
    phase.attempt? = none := by
  cases phase with
  | draining | listening => rfl
  | checking | choosing | casting | resting | ending | ended => contradiction

theorem attempt?_applied (r : Run) (command : Command) (rest : List Command) :
    (r.applied command rest).phase.attempt? = none := by
  cases command with
  | pause | resume | stop => rfl
  | step =>
      simp only [Run.applied, Command.effect]
      split <;> rfl

/-- A run that turns to another phase stays at its attempt, or at none. -/
theorem attempt?_of_turns {e : Engine τ} {phase later : RunPhase} (turns : e.Turns r phase later) :
    later.attempt? = phase.attempt? := by
  cases turns with
  | looks | chooses | obeys | waits | wakes | listens | rises | rests | stands => rfl
  | hangsUp reads empty disconnected => exact (attempt?_of_reads reads).symm

/-- The work at a node leaves a run at no attempt, or at the beginning of one. -/
theorem attempt?_of_works {ends : StopReason → Prop} {status status' : EngineStatus}
    {acts : List (Act (Watch τ))} (works : Works ends status r acts status' r') :
    r'.phase.attempt? = none ∨ ∃ errand, r'.phase.attempt? = some (errand, .opening) := by
  rcases works.phase with draining | ⟨errand, casting⟩ | ⟨reason, ending, _⟩
  · rw [draining]
    exact .inl rfl
  · rw [casting]
    exact .inr ⟨errand, rfl⟩
  · rw [ending]
    exact .inl rfl

theorem held_of_attempt?_eq_none (idle : r.phase.attempt? = none) : held r = none := by
  rw [held, idle]
  rfl

theorem held_of_attempt?_eq_some {errand : Errand} {phase : Cast.Phase}
    (under_way : r.phase.attempt? = some (errand, phase)) :
    held r = Cast.Caster.held errand.attempted phase := by
  rw [held, under_way]
  rfl

theorem held_of_works {ends : StopReason → Prop} {status status' : EngineStatus}
    {acts : List (Act (Watch τ))} (works : Works ends status r acts status' r') :
    held r' = none := by
  rcases attempt?_of_works works with idle | ⟨errand, opening⟩
  · exact held_of_attempt?_eq_none idle
  · exact held_of_attempt?_eq_some opening

/-- What is told when a run is paused or goes on. -/
def turnNews (now : Nat) (before after : Bool) : List Event :=
  if before = after then [] else if after then [.enginePaused now] else [.engineResumed now]

/-- What is told when a run in a phase has ended. -/
def endNews (now : Nat) : RunPhase → List Event
  | .ending reason => [.engineStopped reason.text now]
  | _ => []

/-- What a step tells of the run as a whole: that it is paused or goes on, and that
it has ended. -/
def news (now : Nat) (r r' : Run) : List Event :=
  turnNews now r.paused r'.paused ++ endNews now r.phase

theorem news_of_going (now : Nat) (going : ∀ reason, r.phase ≠ .ending reason) :
    news now r r' = turnNews now r.paused r'.paused := by
  unfold news endNews
  split
  · exact absurd ‹_› (going _)
  · exact List.append_nil _

theorem lock?_flips (now : Nat) (before after : Bool) :
    ∀ act ∈ (flips now before after : List (Act (Watch τ))), act.lock? = none := by
  unfold flips
  split
  · simp
  · split <;> simp [Act.lock?]

theorem fits_of_strides (strides : Strides d e r acts status r')
    (fits : ∀ errand phase, r.phase.attempt? = some (errand, phase) →
      (e.caster d).Fits errand.attempted phase)
    {errand : Errand} {phase : Cast.Phase} (under_way : r'.phase.attempt? = some (errand, phase)) :
    (e.caster d).Fits errand.attempted phase := by
  have fits_works : ∀ {ends : StopReason → Prop} {r : Run} {status : EngineStatus}
      {more : List (Act (Watch τ))} {status' : EngineStatus},
      Works ends status r more status' r' → (e.caster d).Fits errand.attempted phase := by
    intro ends r status more status' works
    rcases attempt?_of_works works with idle | ⟨own, opening⟩
    · rw [idle] at under_way
      contradiction
    · rw [opening] at under_way
      cases under_way
      trivial
  cases strides with
  | applies reads first =>
      rw [attempt?_applied] at under_way
      contradiction
  | turns turns =>
      exact fits errand phase ((attempt?_of_turns turns).symm.trans under_way)
  | executes c choosing allowed picked works => exact fits_works works
  | casts casting strides on phase'_eq =>
      obtain ⟨rfl, rfl⟩ := Prod.mk.inj (Option.some.inj (phase'_eq.symm.trans under_way))
      exact strides.fits on
  | concludes casting strides finished works => exact fits_works works
  | crashes | finishes => contradiction

theorem splits_of_strides {theirs : Option String} (strides : Strides d e r acts status r')
    (splits : Shared.Splits (e.session, theirs) (held r)) :
    Shared.Splits (Act.applyAll d.rig e.session acts, theirs) (held r') := by
  have lockless : ∀ {s : Session (Watch τ)} {acts : List (Act (Watch τ))},
      (∀ act ∈ acts, act.lock? = none) → Shared.Splits (s, theirs) none →
      Shared.Splits (Act.applyAll d.rig s acts, theirs) none :=
    fun none splits => splits.of_lock_eq (Act.lock_applyAll_eq _ _ none)
  have held_casting : ∀ {errand : Errand} {phase : Cast.Phase},
      r.phase = .casting errand phase → held r = Cast.Caster.held errand.attempted phase :=
    fun casting => held_of_attempt?_eq_some (casting ▸ rfl)
  cases strides with
  | applies reads first =>
      rw [held_of_attempt?_eq_none (attempt?_of_reads reads)] at splits
      rw [held_of_attempt?_eq_none (attempt?_applied ..)]
      exact lockless (lock?_flips _ _ _) splits
  | turns turns =>
      rw [held, attempt?_of_turns turns]
      exact splits
  | executes c choosing allowed picked works =>
      rw [held_of_attempt?_eq_none (choosing ▸ rfl)] at splits
      rw [held_of_works works]
      exact lockless (fun act mem => (works.plain act mem).lockless) splits
  | casts casting strides on phase'_eq =>
      rw [held_casting casting] at splits
      have after := strides.splits splits
      rw [Cast.Caster.heldAfter, on] at after
      rw [held_of_attempt?_eq_some phase'_eq]
      exact after
  | concludes casting strides finished works =>
      rw [held_casting casting] at splits
      rw [held_of_works works, Act.applyAll_append]
      exact lockless (fun act mem => (works.plain act mem).lockless) (strides.splits splits)
  | crashes casting strides crashed =>
      rw [held_casting casting] at splits
      exact strides.splits splits
  | finishes f ending =>
      rw [held_of_attempt?_eq_none (ending ▸ rfl)] at splits
      exact lockless (by simp [Act.lock?]) splits

theorem toldAll_flips (rig : Rig (Watch τ)) (s : Session (Watch τ)) (now : Nat)
    (before after : Bool) : Act.toldAll rig s (flips now before after) =
      turnNews now before after := by
  unfold flips turnNews
  split
  · rfl
  · split <;> rfl

/-- What a stride tells of the run as a whole can be seen by the run before and
after it. -/
theorem filter_isControl_of_strides (strides : Strides d e r acts status r') :
    (Act.toldAll d.rig e.session acts).filter Event.isControl = news e.session.now r r' := by
  have of_mute : ∀ {acts : List (Act (Watch τ))}, (∀ act ∈ acts, act.IsMute) →
      (Act.toldAll d.rig e.session acts).filter Event.isControl = [] := by
    intro acts mute
    simpa [List.filter_eq_nil_iff] using Act.isControl_toldAll d.discreet_rig mute
  have of_works : ∀ {ends : StopReason → Prop} {status status' : EngineStatus} {r r' : Run}
      {more : List (Act (Watch τ))}, Works ends status r more status' r' →
      ∀ act ∈ more, act.IsMute := fun works act mem => (works.plain act mem).mute
  cases strides with
  | applies reads first =>
      rw [toldAll_flips, news_of_going _ (RunPhase.going_of_reads reads).2, turnNews]
      split
      · rfl
      · split <;> rfl
  | turns turns =>
      cases phase : r.phase with
      | ending reason =>
          rw [phase] at turns
          cases turns
          contradiction
      | _ => simp [news, turnNews, endNews, phase, Act.toldAll]
  | executes c choosing allowed picked works =>
      simp [news, turnNews, endNews, choosing, works.paused, of_mute (of_works works)]
  | casts casting strides on phase'_eq =>
      simp [news, turnNews, endNews, casting, of_mute strides.mute]
  | concludes casting strides finished works =>
      rw [of_mute fun act mem => (List.mem_append.mp mem).elim (strides.mute act)
        (of_works works act)]
      simp [news, turnNews, endNews, casting, works.paused]
  | crashes casting strides crashed =>
      simp [news, turnNews, endNews, casting, of_mute strides.mute]
  | finishes f ending =>
      rename_i reason
      have closing : ∀ event ∈ (e.session.store.stopAll reason.code e.session.now).events,
          event.isControl = false := fun event mem =>
        Event.isControl_of_skill? (Store.skill?_of_outcome
          (.stopAll reason.code e.session.now) event mem)
      have closing_nil := List.filter_eq_nil_iff.mpr fun event mem =>
        Bool.eq_false_iff.mp (closing event mem)
      simp only [news, turnNews, endNews, ending, Act.toldAll, Act.told, List.filter_append,
        if_true, List.nil_append, List.append_nil]
      exact (congrArg (· ++ _) closing_nil)

/-! ## Runs among others -/

/-- A command reaches a run. -/
def receive (e : Engine τ) (command : Command) : Engine τ :=
  match e.run with
  | none => e
  | some r => e.put { r with queue := r.queue ++ [command] }

theorem sendStop_eq (e : Engine τ) (reason : String) :
    e.sendStop reason = e.receive (.stop reason) :=
  rfl

/-- Giving a command is refused, or the command reaches the run. -/
theorem send_cases (e : Engine τ) (command : Command) :
    e.send command = (.error .notRunning, e) ∨ e.send command = (.ok (), e.receive command) := by
  unfold send listens
  split
  · exact .inl rfl
  · rename_i r listening
    split at listening
    · right
      rw [receive, listening]
    · contradiction

/-- What may happen next to an engine: its run does a step, others do something to
its session, a command arrives, or nobody gives commands any more. -/
inductive Move (τ : Type) where
  | go
  | stir (stir : Stir (Watch τ))
  | arrive (command : Command)
  | hangUp

/-- An engine and who of the others holds its lock. -/
abbrev Among (τ : Type) :=
  Engine τ × Option String

/-- What the next step of a run tells of. -/
def told (e : Engine τ) (d : Devices τ) : List Event :=
  ((e.on .recorder).step d).session.bus.heard

namespace Among

/-- The engine after a move. -/
def move (d : Devices τ) (a : Among τ) : Move τ → Among τ
  | .go => (a.1.step d, a.2)
  | .stir stir =>
    let shared := Shared.stir (a.1.session, a.2) stir
    ({ a.1 with session := shared.1 }, shared.2)
  | .arrive command => (a.1.receive command, a.2)
  | .hangUp => (a.1.disconnect, a.2)

/-- The engine after moves one after the other. -/
def moves (d : Devices τ) (a : Among τ) (moves : List (Move τ)) : Among τ :=
  moves.foldl (move d) a

/-- What a move of the run tells of. -/
def toldBy (d : Devices τ) (a : Among τ) : Move τ → List Event
  | .go => a.1.told d
  | .stir _ | .arrive _ | .hangUp => []

/-- What is gathered in the course of moves, of which each contributes something. -/
def gather {β : Type} (d : Devices τ) (f : Among τ → Move τ → List β) (a : Among τ) :
    List (Move τ) → List β
  | [] => []
  | move :: rest => f a move ++ gather d f (a.move d move) rest

/-- All that the run tells of in the course of moves. -/
def heard (d : Devices τ) : Among τ → List (Move τ) → List Event :=
  gather d (toldBy d)

variable {a a' : Among τ}

theorem moves_append (d : Devices τ) (a : Among τ) (past more : List (Move τ)) :
    a.moves d (past ++ more) = (a.moves d past).moves d more :=
  List.foldl_append

theorem moves_concat (d : Devices τ) (a : Among τ) (past : List (Move τ)) (move : Move τ) :
    a.moves d (past ++ [move]) = (a.moves d past).move d move :=
  moves_append d a past [move]

theorem gather_append {β : Type} (d : Devices τ) (f : Among τ → Move τ → List β) (a : Among τ)
    (past more : List (Move τ)) :
    gather d f a (past ++ more) = gather d f a past ++ gather d f (a.moves d past) more := by
  induction past generalizing a with
  | nil => rfl
  | cons first rest ih =>
      rw [List.cons_append, gather, gather, ih, List.append_assoc]
      rfl

theorem gather_concat {β : Type} (d : Devices τ) (f : Among τ → Move τ → List β) (a : Among τ)
    (past : List (Move τ)) (move : Move τ) :
    gather d f a (past ++ [move]) = gather d f a past ++ f (a.moves d past) move := by
  rw [gather_append, gather, gather, List.append_nil]

theorem heard_concat (d : Devices τ) (a : Among τ) (past : List (Move τ)) (move : Move τ) :
    a.heard d (past ++ [move]) = a.heard d past ++ (a.moves d past).toldBy d move :=
  gather_concat d (toldBy d) a past move

/-! ## What is known all along -/

/-- The run of an engine among others, whose attempt fits its node, whose store is
in order, and who shares the lock with the others. -/
structure Sound (d : Devices τ) (a : Among τ) (r : Run) : Prop where
  run : a.1.run = some r
  fits : ∀ errand phase, r.phase.attempt? = some (errand, phase) →
    (a.1.caster d).Fits errand.attempted phase
  linked : a.1.session.store.Linked
  splits : Shared.Splits (a.1.session, a.2) (held r)

/-- How a move changes the engine and its run. -/
inductive Goes (d : Devices τ) (a : Among τ) (r : Run) : Move τ → Among τ → Run → Prop
  | steps {acts : List (Act (Watch τ))} {status : EngineStatus} {r' : Run}
      (strides : Strides d a.1 r acts status r')
      (step_eq : a.1.step d = { a.1.after d acts with status, run := some r' })
      (told : a.1.told d = Act.toldAll d.rig a.1.session acts) :
      Goes d a r .go ({ a.1.after d acts with status, run := some r' }, a.2) r'
  | stirs (stir : Stir (Watch τ)) :
      Goes d a r (.stir stir) ({ a.1 with session := (Shared.stir (a.1.session, a.2) stir).1 },
        (Shared.stir (a.1.session, a.2) stir).2) r
  | arrives (command : Command) :
      Goes d a r (.arrive command)
        ({ a.1 with run := some { r with queue := r.queue ++ [command] } }, a.2)
        { r with queue := r.queue ++ [command] }
  | hangsUp :
      Goes d a r .hangUp ({ a.1 with run := some { r with connected := false } }, a.2)
        { r with connected := false }

theorem Sound.exists_strides (sound : a.Sound d r) :
    ∃ acts status r', Strides d a.1 r acts status r' ∧
      a.1.step d = { a.1.after d acts with status, run := some r' } ∧
      a.1.told d = Act.toldAll d.rig a.1.session acts := by
  obtain ⟨acts, status, r', does, strides⟩ := acts_step sound.run sound.fits
  refine ⟨acts, status, r', strides, does a.1.session.bus, ?_⟩
  have step_on := does .recorder
  rw [on_after] at step_on
  exact (congrArg (fun e => e.session.bus.heard) step_on).trans (Bus.heard_publishAll_recorder _)

/-- Who listens hears what the step tells of. -/
theorem Sound.bus_step (sound : a.Sound d r) :
    (a.1.step d).session.bus = a.1.session.bus.publishAll (a.1.told d) := by
  obtain ⟨acts, status, r', _, step_eq, told_eq⟩ := sound.exists_strides
  have same := Act.applyAll_on d.rig a.1.session a.1.session.bus acts
  rw [step_eq, told_eq]
  exact congrArg Session.bus same

theorem Sound.exists_goes (sound : a.Sound d r) (move : Move τ) :
    ∃ r', Goes d a r move (a.move d move) r' := by
  cases move with
  | go =>
      obtain ⟨acts, status, r', strides, step_eq, told_eq⟩ := sound.exists_strides
      refine ⟨r', ?_⟩
      rw [Among.move, step_eq]
      exact .steps strides step_eq told_eq
  | stir stir => exact ⟨r, .stirs stir⟩
  | arrive command =>
      refine ⟨{ r with queue := r.queue ++ [command] }, ?_⟩
      rw [Among.move, receive, sound.run]
      exact .arrives command
  | hangUp =>
      refine ⟨{ r with connected := false }, ?_⟩
      rw [Among.move, disconnect, sound.run]
      exact .hangsUp

/-- Every move keeps a run sound. -/
theorem Goes.sound {move : Move τ} (goes : Goes d a r move a' r') (sound : a.Sound d r) :
    a'.Sound d r' := by
  cases goes with
  | steps strides step_eq told =>
      refine ⟨rfl, fun errand phase => fits_of_strides strides sound.fits, ?_,
        splits_of_strides strides sound.splits⟩
      have store_eq := Act.store_applyAll d.rig a.1.session
      rename_i acts status
      exact (store_eq acts).symm ▸ sound.linked.operateAll _
  | stirs stir =>
      have linked : (Shared.stir (a.1.session, a.2) stir).1.store.Linked :=
        (Shared.store_stir (a.1.session, a.2) stir).symm ▸ sound.linked
      exact ⟨sound.run, sound.fits, linked, sound.splits.stir stir⟩
  | arrives | hangsUp => exact ⟨rfl, sound.fits, sound.linked, sound.splits⟩

/-- What a sound run has at first and every move keeps is known all along. -/
theorem Sound.along {P : List (Move τ) → Run → Prop} (sound : a.Sound d r) (start : P [] r)
    (keeps : ∀ past move r r', (a.moves d past).Sound d r → P past r →
      Goes d (a.moves d past) r move ((a.moves d past).move d move) r' → P (past ++ [move]) r')
    (moves : List (Move τ)) : ∃ r', (a.moves d moves).Sound d r' ∧ P moves r' := by
  induction moves using List.reverseRecOn with
  | nil => exact ⟨r, sound, start⟩
  | append_singleton past move ih =>
      obtain ⟨r₁, sound, holds⟩ := ih
      obtain ⟨r₂, goes⟩ := sound.exists_goes move
      rw [moves_concat]
      exact ⟨r₂, goes.sound sound, keeps past move r₁ r₂ sound holds goes⟩

end Among

/-! ## The beginning -/

/-- A run that has just begun. -/
structure Begun (e : Engine τ) (r : Run) : Prop where
  run : e.run = some r
  phase : r.phase = .draining
  unpaused : r.paused = false
  steps : r.steps = 0
  queue : r.queue = []
  connected : r.connected = true
  going : e.session.cancelled = false
  state : e.status.state = .running
  lastStop : e.status.lastStop = none
  lastError : e.status.lastError = none
  store : e.session.store = .empty e.settings.engine.limits

variable {e₀ : Engine τ} {preset : Preset} {time : String}

/-- A preset that is launched begins to run, and the lock stays with whom holds
it. -/
theorem begun_of_launch (launched : e₀.launch d preset time = .ok e) :
    ∃ r, Begun e r ∧ r.preset = preset ∧ e.session.lock = e₀.session.lock := by
  unfold launch at launched
  obtain ⟨watched, watching, made⟩ := Checked.bind_eq_ok_iff.mp launched
  obtain ⟨changed, _, rest⟩ := Checked.bind_eq_ok_iff.mp watching
  cases rest
  cases made
  exact ⟨_, ⟨rfl, rfl, rfl, rfl, rfl, rfl, rfl, rfl, rfl, rfl, rfl⟩, rfl, rfl⟩

/-- A run that has just begun is sound, whoever of the others holds the lock. -/
theorem Begun.sound {r : Run} (begun : Begun e r) : Among.Sound d (e, e.session.lock.holder) r where
  run := begun.run
  fits := by
    rw [begun.phase]
    intro errand phase under_way
    contradiction
  linked := begun.store ▸ Store.linked_empty _
  splits := by
    rw [held_of_attempt?_eq_none (begun.phase ▸ rfl)]
    exact ⟨rfl, .inl rfl⟩

/-! ## A choir -/

/-- A preset that hums over and over again. -/
def humming : Preset where
  id := "humming"
  name := "Humming"
  entryMode := none
  globalTracks := [⟨"voice", [.skill (Cast.Caster.blindSinger.extraNode "hum")]⟩]
  modes := []

/-- An engine of a choir that has sung nothing. -/
def choir : Engine Unit :=
  .start .choir .standard ()

/-- No screen, and a keyboard that always answers the same. -/
def darkness (answer : Except Crash (Except PressError Unit)) : Devices Unit where
  source := ⟨fun _ => [], fun _ _ _ => .ok (.error .emptyRegion, ())⟩
  press := fun _ _ => (answer, ())

/-- Whether a choir that hums in the dark is where it is thought to be after moves. -/
def hums (answer : Except Crash (Except PressError Unit)) (moves : List (Move Unit))
    (there : EngineStatus → Run → Bool) : Bool :=
  match choir.launch (darkness answer) humming "now" with
  | .error _ => false
  | .ok e =>
    let last := (Among.moves (darkness answer) (e, none) moves).1
    last.run.any (there last.status)

theorem exists_of_hums {answer : Except Crash (Except PressError Unit)}
    {moves : List (Move Unit)} {there : EngineStatus → Run → Bool}
    (done : hums answer moves there = true) :
    ∃ e r, choir.launch (darkness answer) humming "now" = .ok e ∧
      e.session.lock.holder = none ∧
      (Among.moves (darkness answer) (e, none) moves).1.run = some r ∧
      there (Among.moves (darkness answer) (e, none) moves).1.status r = true := by
  unfold hums at done
  split at done
  · contradiction
  · rename_i e launched
    obtain ⟨r, run, holds⟩ := (Option.any_eq_true _ _).mp done
    obtain ⟨_, _, _, lock_eq⟩ := begun_of_launch launched
    exact ⟨e, r, launched, congrArg CastLock.holder lock_eq, run, holds⟩

end Rotation.Engine
