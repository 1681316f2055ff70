import Mathlib.Data.List.Chain
import Rotation.Proofs.Engine.End

/-!
# Pauses and steps

A paused run lets a node run only for a step that has been asked for.  Each step
of a run applies at most one command or runs at most one node, and what it does
to the pending steps can be told by the run before and after it.  Added up over
all steps of a run, in whatever order commands arrive, every step asked for has
let one node run, has been discarded, or is still pending.
-/

namespace Rotation

/-- Whether an event tells that a run is paused, or that it goes on. -/
def Event.turn? : Event → Option Bool
  | .enginePaused _ => some true
  | .engineResumed _ => some false
  | _ => none

theorem Event.filterMap_turn? (events : List Event) :
    events.filterMap Event.turn? = (events.filter Event.isControl).filterMap Event.turn? := by
  rw [List.filterMap_filter]
  congr
  funext event
  cases event <;> rfl

namespace Run

/-- The command that the next step of a run reads. -/
def reads? (r : Run) : Option Command :=
  if r.phase.reads then r.queue.head? else none

/-- The command that the next step of a run applies.  A step that cannot be counted
is not applied, but ends the run. -/
def applies? (r : Run) : Option Command :=
  r.reads?.filter fun command => command ≠ .step || Unsigned.Fits 32 (r.steps + 1)

/-- How many pending steps the next step of a run discards. -/
def discards (r : Run) : Nat :=
  match r.reads? with
  | some .pause | some .resume => r.steps
  | _ => 0

/-- Whether a run has run a node by a step: it was to choose one, and has not begun
to wait. -/
def ran (r r' : Run) : Bool :=
  match r.phase, r'.phase with
  | .choosing, .listening _ => false
  | .choosing, _ => true
  | _, _ => false

theorem reads?_of_head {r : Run} {command : Command} {rest : List Command}
    (reads : r.phase.reads = true) (first : r.queue = command :: rest) :
    r.reads? = some command := by
  simp [reads?, reads, first]

theorem discards_of_applies?_eq_none {r : Run} (nothing : r.applies? = none) : r.discards = 0 := by
  unfold discards
  split
  · rename_i read
    simp [applies?, read] at nothing
  · rename_i read
    simp [applies?, read] at nothing
  · rfl

theorem ran_of_reads {r : Run} (r' : Run) (reads : r.phase.reads = true) : r.ran r' = false := by
  cases phase : r.phase with
  | draining | listening => simp [ran, phase]
  | checking | choosing | casting | resting | ending | ended =>
      rw [phase] at reads
      contradiction

end Run

namespace Engine

variable {τ : Type} {d : Devices τ} {e : Engine τ} {r r' : Run} {acts : List (Act (Watch τ))}
  {status : EngineStatus}

/-! ## What one step does -/

theorem ran_of_works {ends : StopReason → Prop} {status' : EngineStatus} {r₀ : Run}
    (choosing : r.phase = .choosing) (works : Works ends status r₀ acts status' r') :
    r.ran r' = true := by
  rcases works.phase with later | ⟨errand, later⟩ | ⟨reason, later, _⟩
  all_goals simp [Run.ran, choosing, later]

/-- A step applies a command, runs a node, or has nothing to do with pauses. -/
theorem pace_cases (strides : Strides d e r acts status r') :
    (∃ command rest, r.phase.reads = true ∧ r.queue = command :: rest ∧
      r' = r.applied command rest) ∨
    (r.phase = .choosing ∧ r.ran r' = true ∧ (r.paused = true → 0 < r.steps) ∧
      r'.paused = r.paused ∧ r'.steps = if r.paused then r.steps - 1 else r.steps) ∨
    r.reads? = none ∧ r.ran r' = false ∧ r'.paused = r.paused ∧ r'.steps = r.steps := by
  cases strides with
  | applies reads first => exact .inl ⟨_, _, reads, first, rfl⟩
  | turns turns =>
      refine .inr (.inr ⟨?_, ?_, rfl, rfl⟩)
      · unfold Run.reads?
        cases phase : r.phase with
        | draining | listening =>
            rw [phase] at turns
            cases turns <;> simp [*]
        | checking | choosing | casting | resting | ending | ended => rfl
      · cases phase : r.phase with
        | choosing =>
            rw [phase] at turns
            cases turns with
            | hangsUp => contradiction
            | waits => simp [Run.ran, phase]
        | draining | listening | checking | casting | resting | ending | ended =>
            simp [Run.ran, phase]
  | executes c choosing allowed picked works =>
      exact .inr (.inl ⟨choosing, ran_of_works choosing works, allowed, works.paused,
        works.steps⟩)
  | casts casting | crashes casting =>
      exact .inr (.inr ⟨by simp [Run.reads?, casting, RunPhase.reads], by simp [Run.ran, casting],
        rfl, rfl⟩)
  | concludes casting strides finished works =>
      exact .inr (.inr ⟨by simp [Run.reads?, casting, RunPhase.reads], by simp [Run.ran, casting],
        works.paused, works.steps⟩)
  | finishes f ending =>
      exact .inr (.inr ⟨by simp [Run.reads?, ending, RunPhase.reads], by simp [Run.ran, ending],
        rfl, rfl⟩)

/-- Every step that is applied is pending at first, and stops being so when it lets a
node run or is discarded. -/
theorem balance_of_strides (strides : Strides d e r acts status r') :
    r.steps + (if r.applies? = some .step then 1 else 0) =
      (if r.paused && r.ran r' then 1 else 0) + r.discards + r'.steps := by
  rcases pace_cases strides with ⟨command, rest, reads, first, rfl⟩ |
    ⟨choosing, ran, allowed, _, steps⟩ | ⟨unread, ran, _, steps⟩
  · have read := Run.reads?_of_head reads first
    simp only [Run.ran_of_reads _ reads, Bool.and_false, Bool.false_eq_true, if_false]
    cases command with
    | pause | resume =>
        simp [Run.applies?, Run.discards, read, Run.applied, Command.effect]
    | stop reason =>
        simp [Run.applies?, Run.discards, read, Run.applied, Command.effect]
    | step =>
        by_cases fits : r.steps + 1 < Unsigned.count 32
        · simp [Run.applies?, Run.discards, read, Run.applied, Command.effect, Unsigned.add,
            Unsigned.Fits, fits]
        · simp [Run.applies?, Run.discards, read, Run.applied, Command.effect, Unsigned.add,
            Unsigned.Fits, fits]
  · have unread : r.reads? = none := by simp [Run.reads?, choosing, RunPhase.reads]
    cases paused : r.paused with
    | false => simp [Run.applies?, Run.discards, unread, steps, paused]
    | true =>
        have pending := allowed paused
        simp [Run.applies?, Run.discards, unread, steps, paused, ran]
        omega
  · simp [Run.applies?, Run.discards, unread, ran, steps]

/-- Commands alone make a run go on that was paused. -/
theorem paused_of_strides (strides : Strides d e r acts status r')
    (unapplied : ∀ command, r.applies? = some command → command ≠ .resume)
    (paused : r.paused = true) : r'.paused = true := by
  rcases pace_cases strides with ⟨command, rest, reads, first, rfl⟩ |
    ⟨_, _, _, same, _⟩ | ⟨_, _, same, _⟩
  · have read := Run.reads?_of_head reads first
    cases command with
    | resume => exact absurd rfl (unapplied .resume (by simp [Run.applies?, read]))
    | pause => rfl
    | stop reason => exact paused
    | step =>
        simp only [Run.applied, Command.effect]
        split <;> rfl
  · exact same.trans paused
  · exact same.trans paused

/-- A run that goes on has no step pending. -/
theorem steps_of_strides (strides : Strides d e r acts status r')
    (clear : r.paused = false → r.steps = 0) (unpaused : r'.paused = false) : r'.steps = 0 := by
  rcases pace_cases strides with ⟨command, rest, reads, first, rfl⟩ |
    ⟨_, _, _, same, steps⟩ | ⟨_, _, same, steps⟩
  · cases command with
    | resume => rfl
    | pause => contradiction
    | stop reason => exact clear unpaused
    | step =>
        simp only [Run.applied, Command.effect] at unpaused
        split at unpaused <;> contradiction
  · rw [same] at unpaused
    simp [steps, unpaused, clear]
  · rw [steps]
    exact clear (same.symm.trans unpaused)

/-- A run that is to choose a node runs one if one is due and, while paused, a step is
pending. -/
theorem ran_iff_of_strides (strides : Strides d e r acts status r')
    (choosing : r.phase = .choosing) :
    r.ran r' = true ↔
      (r.paused = true → 0 < r.steps) ∧ ∃ c, r.schedule.pick e.session.now = some c := by
  have unread : r.phase.reads = false := by simp [choosing, RunPhase.reads]
  cases strides with
  | applies reads => simp [unread] at reads
  | turns turns =>
      rw [choosing] at turns
      cases turns with
      | hangsUp => contradiction
      | waits deadline idle =>
          simp only [Run.ran, choosing, Bool.false_eq_true, false_iff, not_and, not_exists]
          rintro allowed c picked
          rcases idle with ⟨paused, none_pending⟩ | none_due
          · have pending := allowed paused
            omega
          · rw [none_due] at picked
            contradiction
  | executes c _ allowed picked works =>
      exact iff_of_true (ran_of_works choosing works) ⟨allowed, c, picked⟩
  | casts casting | concludes casting | crashes casting | finishes f casting =>
      rw [choosing] at casting
      contradiction

/-- The engine is paused exactly when its run is. -/
theorem state_of_strides (strides : Strides d e r acts status r') (lasting : r'.phase ≠ .ended)
    (state : e.status.state = if r.paused then .paused else .running) :
    status.state = if r'.paused then .paused else .running := by
  cases strides with
  | applies reads first =>
      unfold flipped
      split
      · rename_i same
        rw [state, same]
      · rfl
  | turns | casts | crashes => exact state
  | executes c choosing allowed picked works | concludes casting strides finished works =>
      rw [works.state, state, works.paused]
  | finishes => exact absurd rfl lasting

/-- A step tells of a pause, or of its end, when there is one. -/
theorem filterMap_turn?_of_strides (strides : Strides d e r acts status r') :
    (Act.toldAll d.rig e.session acts).filterMap Event.turn? =
      if r.paused = r'.paused then [] else [r'.paused] := by
  have no_turn : (endNews e.session.now r.phase).filterMap Event.turn? = [] := by
    unfold endNews
    split <;> rfl
  rw [Event.filterMap_turn?, filter_isControl_of_strides strides, news, List.filterMap_append,
    no_turn, List.append_nil, turnNews]
  split
  · rfl
  · cases paused : r'.paused <;> rfl

/-! ## What adds up -/

/-- The commands that steps of a run have applied, each step given by the run before
and after it. -/
def applied (paces : List (Run × Run)) : List Command :=
  paces.filterMap fun pace => pace.1.applies?

/-- How many nodes steps of a run have run. -/
def nodesRun (paces : List (Run × Run)) : Nat :=
  paces.countP fun pace => pace.1.ran pace.2

/-- How many nodes steps of a run have run while it was paused. -/
def nodesStepped (paces : List (Run × Run)) : Nat :=
  paces.countP fun pace => pace.1.paused && pace.1.ran pace.2

/-- How many pending steps have been discarded. -/
def stepsDiscarded (paces : List (Run × Run)) : Nat :=
  (paces.map fun pace => pace.1.discards).sum

namespace Among

/-- The run before and after a move, if the move is a step. -/
def pacesBy (d : Devices τ) (a : Among τ) : Move τ → List (Run × Run)
  | .go => (a.1.run.bind fun r => (a.1.step d).run.map fun r' => (r, r')).toList
  | .stir _ | .arrive _ | .hangUp => []

/-- The run before and after each of its steps in the course of moves. -/
def paces (d : Devices τ) : Among τ → List (Move τ) → List (Run × Run) :=
  gather d (pacesBy d)

variable {a a' : Among τ} {paces : List (Run × Run)} {told : List Event} {move : Move τ}

theorem paces_concat (d : Devices τ) (a : Among τ) (past : List (Move τ)) (move : Move τ) :
    a.paces d (past ++ [move]) = a.paces d past ++ (a.moves d past).pacesBy d move :=
  gather_concat d (pacesBy d) a past move

theorem pacesBy_go (run : a.1.run = some r) {status : EngineStatus}
    (step_eq : a.1.step d = { a.1.after d acts with status, run := some r' }) :
    a.pacesBy d .go = [(r, r')] := by
  simp [pacesBy, run, step_eq]

/-- How a run stands, given the run before and after each of its steps and what it
has told of. -/
structure Account (paces : List (Run × Run)) (told : List Event) (status : EngineStatus)
    (r : Run) : Prop where
  clear : r.paused = false → r.steps = 0
  state : r.phase ≠ .ended → status.state = if r.paused then .paused else .running
  balance : (applied paces).count .step = nodesStepped paces + stepsDiscarded paces + r.steps
  alternates : (false :: told.filterMap Event.turn?).IsChain (· ≠ ·)
  last : (false :: told.filterMap Event.turn?).getLast? = some r.paused

theorem Account.steps (account : Account paces told e.status r)
    (strides : Strides d e r acts status r') :
    Account (paces ++ [(r, r')]) (told ++ Act.toldAll d.rig e.session acts) status r' where
  clear := steps_of_strides strides account.clear
  state lasting := by
    have unended : r.phase ≠ .ended :=
      fun ended => lasting (ended_of_strides strides (.inl ended))
    exact state_of_strides strides lasting (account.state unended)
  balance := by
    have before := account.balance
    have step := balance_of_strides strides
    simp only [applied, nodesStepped, stepsDiscarded, List.filterMap_append, List.count_append,
      List.countP_append, List.map_append, List.sum_append] at before ⊢
    have counted : (List.filterMap (fun pace : Run × Run => pace.1.applies?) [(r, r')]).count
        .step = if r.applies? = some .step then 1 else 0 := by
      cases applies : r.applies? with
      | none => simp [applies]
      | some command => simp [applies, List.count_singleton]
    rw [counted]
    simp only [List.countP_singleton, List.map_singleton, List.sum_singleton]
    omega
  alternates := by
    rw [List.filterMap_append, filterMap_turn?_of_strides strides, ← List.cons_append,
      List.isChain_append]
    refine ⟨account.alternates, ?_, ?_⟩
    · split <;> simp
    · rw [account.last]
      split <;> simp_all
  last := by
    rw [List.filterMap_append, filterMap_turn?_of_strides strides, ← List.cons_append]
    split
    · rename_i same
      rw [List.append_nil, account.last, same]
    · exact List.getLast?_concat

theorem Account.goes (account : Account paces told a.1.status r) (run : a.1.run = some r)
    (goes : Goes d a r move a' r') :
    Account (paces ++ a.pacesBy d move) (told ++ a.toldBy d move) a'.1.status r' := by
  cases goes with
  | steps strides step_eq told_eq =>
      rw [pacesBy_go run step_eq, toldBy, told_eq]
      exact account.steps strides
  | stirs | arrives | hangsUp =>
      rw [pacesBy, toldBy, List.append_nil, List.append_nil]
      exact ⟨account.clear, account.state, account.balance, account.alternates, account.last⟩

/-! ## While nobody asks for more -/

theorem applied_append (paces more : List (Run × Run)) :
    applied (paces ++ more) = applied paces ++ applied more :=
  List.filterMap_append

theorem nodesRun_append (paces more : List (Run × Run)) :
    nodesRun (paces ++ more) = nodesRun paces + nodesRun more :=
  List.countP_append

/-- A run stays paused, and runs no more nodes than steps have been pending; when no
command is applied at all, each of these has let a node run or is still pending. -/
structure Holds (steps : Nat) (paces : List (Run × Run)) (r : Run) : Prop where
  paused : r.paused = true
  bound : nodesRun paces + r.steps ≤ steps
  exactly : applied paces = [] → nodesRun paces + r.steps = steps

theorem Holds.steps {steps : Nat} (holds : Holds steps paces r)
    (strides : Strides d e r acts status r')
    (unasked : ∀ command ∈ applied [(r, r')], command ≠ .resume ∧ command ≠ .step) :
    Holds steps (paces ++ [(r, r')]) r' := by
  have applied_eq : applied [(r, r')] = r.applies?.toList := by
    cases applies : r.applies? <;> simp [applied, applies]
  have unapplied : ∀ command, r.applies? = some command →
      command ≠ .resume ∧ command ≠ .step := by
    intro command applies
    rw [applied_eq, applies] at unasked
    exact unasked command (List.mem_singleton_self command)
  have balance := balance_of_strides strides
  rw [if_neg fun applies => (unapplied .step applies).2 rfl, holds.paused, Bool.true_and]
    at balance
  have ran_eq : nodesRun [(r, r')] = if r.ran r' = true then 1 else 0 := List.countP_singleton
  refine ⟨paused_of_strides strides (fun command applies => (unapplied command applies).1)
    holds.paused, ?_, fun nothing => ?_⟩
  · have bound := holds.bound
    rw [nodesRun_append, ran_eq]
    omega
  · rw [applied_append, List.append_eq_nil_iff, applied_eq, Option.toList_eq_nil_iff] at nothing
    have kept := Run.discards_of_applies?_eq_none nothing.2
    have exactly := holds.exactly nothing.1
    rw [nodesRun_append, ran_eq]
    omega

theorem Holds.goes {steps : Nat} (holds : Holds steps paces r) (run : a.1.run = some r)
    (goes : Goes d a r move a' r')
    (unasked : ∀ command ∈ applied (a.pacesBy d move), command ≠ .resume ∧ command ≠ .step) :
    Holds steps (paces ++ a.pacesBy d move) r' := by
  cases goes with
  | steps strides step_eq told_eq =>
      rw [pacesBy_go run step_eq] at unasked ⊢
      exact holds.steps strides unasked
  | stirs | arrives | hangsUp =>
      rw [pacesBy, List.append_nil]
      exact ⟨holds.paused, holds.bound, holds.exactly⟩

/-- A paused run stays so while nobody asks for more. -/
theorem Sound.holds (sound : a.Sound d r) (paused : r.paused = true) (moves : List (Move τ))
    (unasked : ∀ command ∈ applied (a.paces d moves), command ≠ .resume ∧ command ≠ .step) :
    ∃ r', (a.moves d moves).1.run = some r' ∧ Holds r.steps (a.paces d moves) r' := by
  obtain ⟨r', sound', holds⟩ := sound.along
    (P := fun moves r' => (∀ command ∈ applied (a.paces d moves),
      command ≠ .resume ∧ command ≠ .step) → Holds r.steps (a.paces d moves) r')
    (fun _ => ⟨paused, Nat.le_of_eq (Nat.zero_add _), fun _ => Nat.zero_add _⟩)
    (by
      intro past move r₁ r₂ sound₁ holds goes unasked
      rw [paces_concat] at unasked ⊢
      rw [applied_append, List.forall_mem_append] at unasked
      exact (holds unasked.1).goes sound₁.run goes unasked.2)
    moves
  exact ⟨r', sound'.run, holds unasked⟩

/-! ## Account of a run -/

/-- Account of a run that has come so far by moves.  Each step that has been applied
has let a node run while the run was paused, has been discarded, or is pending; a
paused run runs a node only for a pending step, and then does so when one is due;
with no step pending, none runs until more is asked for; a step that is asked for of
a run that goes on pauses it and lets one node run; pauses and resumptions
alternate; and the status tells which of them is the case. -/
structure Paced (d : Devices τ) (a : Among τ) (moves : List (Move τ)) (r : Run) : Prop where
  balance : (applied (a.paces d moves)).count .step =
    nodesStepped (a.paces d moves) + stepsDiscarded (a.paces d moves) + r.steps
  spends : ∀ r', ((a.moves d moves).1.step d).run = some r' → r.paused = true →
    r.ran r' = true → r'.steps + 1 = r.steps
  runs : ∀ r', ((a.moves d moves).1.step d).run = some r' → r.phase = .choosing →
    (r.ran r' = true ↔ (r.paused = true → 0 < r.steps) ∧
      ∃ c, r.schedule.pick (a.moves d moves).1.session.now = some c)
  halts : r.paused = true → r.steps = 0 → ∀ more,
    (∀ command ∈ applied ((a.moves d moves).paces d more),
      command ≠ .resume ∧ command ≠ .step) →
    nodesRun ((a.moves d moves).paces d more) = 0
  once : r.paused = false → r.applies? = some .step → ∀ more,
    applied (((a.moves d moves).move d .go).paces d more) = [] →
    ∃ r', (((a.moves d moves).move d .go).moves d more).1.run = some r' ∧ r'.paused = true ∧
      nodesRun (((a.moves d moves).move d .go).paces d more) + r'.steps = 1
  alternates : (false :: (a.heard d moves).filterMap Event.turn?).IsChain (· ≠ ·)
  state : r.phase ≠ .ended → ((a.moves d moves).1.status.state = .paused ↔ r.paused = true)

/-- A step that is asked for of a run that goes on pauses it, and one step is
pending. -/
theorem stepped_of_strides (strides : Strides d e r acts status r') (clear : r.steps = 0)
    (applies : r.applies? = some .step) : r'.paused = true ∧ r'.steps = 1 := by
  obtain ⟨read, _⟩ := Option.filter_eq_some_iff.mp applies
  have counted : Unsigned.add 32 r.steps 1 = .ok 1 := by
    rw [clear]
    decide
  rcases pace_cases strides with ⟨command, rest, reads, first, rfl⟩ |
    ⟨choosing, _⟩ | ⟨unread, _⟩
  · rw [Run.reads?_of_head reads first] at read
    cases read
    simp [Run.applied, Command.effect, counted]
  · simp [Run.reads?, choosing, RunPhase.reads] at read
  · rw [unread] at read
    contradiction

variable {e₀ : Engine τ} {preset : Preset} {time : String}

/-- However commands arrive among the steps of a run that has been launched, it keeps
account of its pauses and steps. -/
theorem paced_of_launch (launched : e₀.launch d preset time = .ok e) (moves : List (Move τ)) :
    ∃ r, (Among.moves d (e, e.session.lock.holder) moves).1.run = some r ∧
      Paced d (e, e.session.lock.holder) moves r := by
  obtain ⟨r₀, begun, _⟩ := begun_of_launch launched
  let a : Among τ := (e, e.session.lock.holder)
  obtain ⟨r, sound, account⟩ := begun.sound.along
    (P := fun moves r => Account (a.paces d moves) (a.heard d moves) (a.moves d moves).1.status r)
    ⟨fun _ => begun.steps, fun _ => begun.state.trans (by rw [begun.unpaused]; rfl),
      by rw [begun.steps]; rfl, .singleton false, congrArg some begun.unpaused.symm⟩
    (by
      intro past move r r' sound account goes
      rw [moves_concat, paces_concat, heard_concat]
      exact account.goes sound.run goes)
    moves
  obtain ⟨acts, status, r₁, strides, step_eq, _⟩ := sound.exists_strides
  have next : ∀ r', ((a.moves d moves).1.step d).run = some r' → r₁ = r' := by
    intro r' run
    rw [step_eq] at run
    exact Option.some.inj run
  refine ⟨r, sound.run, account.balance, ?_, ?_, ?_, ?_, account.alternates, ?_⟩
  · intro r' run paused ran
    obtain rfl := next r' run
    rcases pace_cases strides with ⟨_, _, reads, _⟩ | ⟨_, _, allowed, _, steps⟩ |
      ⟨_, not_ran, _⟩
    · rw [Run.ran_of_reads _ reads] at ran
      contradiction
    · have pending := allowed paused
      rw [steps, if_pos paused]
      omega
    · rw [not_ran] at ran
      contradiction
  · intro r' run choosing
    obtain rfl := next r' run
    exact ran_iff_of_strides strides choosing
  · intro paused none_pending more unasked
    obtain ⟨_, _, holds⟩ := sound.holds paused more unasked
    have bound := holds.bound
    omega
  · intro unpaused applies more nothing
    obtain ⟨paused, one⟩ := stepped_of_strides strides (account.clear unpaused) applies
    obtain ⟨r₂, goes⟩ := sound.exists_goes .go
    have sound₂ := goes.sound sound
    obtain rfl : r₁ = r₂ := next r₂ sound₂.run
    obtain ⟨r', run, holds⟩ := sound₂.holds paused more (by simp [nothing])
    exact ⟨r', run, holds.paused, (holds.exactly nothing).trans one⟩
  · intro unended
    rw [account.state unended]
    cases r.paused <;> simp

/-- A choir that is asked for a step pauses and begins to hum once. -/
theorem choir_steps :
    ∃ e r, choir.launch (darkness (.ok (.ok ()))) humming "now" = .ok e ∧
      e.session.lock.holder = none ∧
      (Among.moves (darkness (.ok (.ok ()))) (e, none)
        [.arrive .step, .go, .go, .go, .go]).1.run = some r ∧
      r.paused = true ∧ r.steps = 0 ∧
      Paced (darkness (.ok (.ok ()))) (e, none) [.arrive .step, .go, .go, .go, .go] r := by
  have stepped : hums (.ok (.ok ())) [.arrive .step, .go, .go, .go, .go]
      (fun _ r => r.paused && r.steps == 0) = true := by decide +kernel
  obtain ⟨e, r, launched, free, ran, there⟩ := exists_of_hums stepped
  obtain ⟨paused, none_pending⟩ := Bool.and_eq_true_iff.mp there
  have paced := paced_of_launch launched [.arrive .step, .go, .go, .go, .go]
  rw [free] at paced
  obtain ⟨_, run, account⟩ := paced
  obtain rfl := Option.some.inj (ran.symm.trans run)
  exact ⟨e, r, launched, free, ran, paused, beq_iff_eq.mp none_pending, account⟩

end Among

end Engine

end Rotation
