import Rotation.Proofs.Engine.Agreement
import Rotation.Proofs.Engine.Pausing

/-!
# What clients are refused

An engine knows in two ways whether there is a run: by its status, which is idle
from the end of a run on, and by the run itself, whose end one client can wait for.
Commands and starts are refused by the status.  A stop is refused by the other: it
is refused unless a run has begun whose end nobody has waited for since.  So a stop
goes through once after a run has ended by itself, and is refused for a run that
goes on while somebody waits for its end.
-/

namespace Rotation

/-- What a run makes of the state of its engine. -/
def Run.state (r : Run) : RunState :=
  match r.phase with
  | .ended => .idle
  | _ => if r.paused then .paused else .running

theorem Run.state_of_unended {r : Run} (unended : r.phase ≠ .ended) :
    r.state = if r.paused then .paused else .running := by
  unfold state
  split
  · contradiction
  · rfl

theorem Run.state_of_ended {r : Run} (ended : r.phase = .ended) : r.state = .idle := by
  rw [state, ended]

theorem Run.state_eq_idle_iff {r : Run} : r.state = .idle ↔ r.phase = .ended := by
  refine ⟨fun idle => ?_, state_of_ended⟩
  by_contra unended
  rw [state_of_unended unended] at idle
  split at idle <;> contradiction

namespace Engine

variable {τ : Type}

/-! ## Who waits for the end -/

/-- Whether the end of the run has been waited for, if there is a run. -/
def joined? (e : Engine τ) : Option Bool :=
  e.run.map Run.joined

variable (e : Engine τ) (d : Devices τ) (r : Run)

include d in
theorem joined?_applyFirst (command : Command) (rest : List Command) :
    (e.applyFirst r command rest).joined? = some r.joined :=
  congrArg joined? (applyFirst_eq e d r command rest e.session.bus)

theorem joined?_advanceAfter (place : Place) (delay : Nat) :
    (e.advanceAfter r place delay).joined? = some r.joined := by
  unfold advanceAfter
  split <;> rfl

theorem joined?_holdAfter (place : Place) (delay : Nat) :
    (e.holdAfter r place delay).joined? = some r.joined := by
  unfold holdAfter
  split <;> rfl

theorem joined?_conclude (outcome : Cast.Outcome) (errand : Errand) :
    (e.conclude r outcome errand).joined? = some r.joined := by
  cases errand with
  | node c skill =>
      simp only [conclude]
      split
      · rfl
      · split
        · exact joined?_advanceAfter ..
        · exact joined?_holdAfter ..
  | extra c skill delay =>
      simp only [conclude]
      split
      · rfl
      · exact joined?_advanceAfter ..

theorem joined?_cast (errand : Errand) (phase : Cast.Phase) :
    (e.cast d r errand phase).joined? = some r.joined := by
  unfold cast
  split
  case h_2 => exact joined?_conclude ..
  all_goals rfl

theorem joined?_carryOut (c : Candidate) (g : Gateway) (delay now : Nat) (effect : Effect) :
    (e.carryOut d r c g delay now effect).joined? = some r.joined := by
  cases effect with
  | switched source target =>
      simp only [carryOut]
      split <;> rfl
  | ended | jumped | cast => rfl

theorem joined?_fire (c : Candidate) (g : Gateway) (delay : Nat) :
    (e.fire d r c g delay).joined? = some r.joined := by
  simp only [fire]
  split
  · rfl
  · rfl
  · exact joined?_carryOut ..

theorem joined?_gateway (c : Candidate) (g : Gateway) :
    (e.gateway d r c g).joined? = some r.joined := by
  unfold gateway
  split
  · rfl
  · split
    · exact joined?_fire ..
    · exact joined?_advanceAfter ..

theorem joined?_execute (c : Candidate) : (e.execute d r c).joined? = some r.joined := by
  unfold execute
  split
  · rfl
  · rfl
  · exact joined?_gateway ..

theorem joined?_choose : (e.choose d r).joined? = some r.joined := by
  simp only [choose]
  split
  · rfl
  · cases r.schedule.pick e.session.now with
    | none => rfl
    | some c =>
        exact (joined?_execute ..).trans (by split <;> rfl)

/-- A run does not wait for its own end. -/
theorem joined?_step : (e.step d).joined? = e.joined? := by
  unfold step
  split
  · rfl
  · rename_i r run
    have own : e.joined? = some r.joined := congrArg (Option.map Run.joined) run
    rw [own]
    split
    · unfold drain
      split
      · exact joined?_applyFirst e d ..
      · rfl
    · rfl
    · exact joined?_choose ..
    · unfold listen
      split
      · exact joined?_applyFirst e d ..
      · split
        · rfl
        · split
          · rfl
          · exact own
    · exact joined?_cast ..
    · unfold wake
      split
      · rfl
      · exact own
    · rfl
    · exact own

/-! ## What clients do -/

/-- What may happen to an engine: something happens to its run or its session, or a
client starts a draft and is answered, gives a command, stops the run or waits for
its end. -/
inductive Deed (τ : Type) where
  | goes (move : Move τ)
  | starts (draft : Draft) (time : String) (answer : Except EngineError Validation)
  | gives (command : Command)
  | stops (reason : String)
  | joins

/-- Whether there is a run after a deed whose end nobody has waited for, given whether
there was one before. -/
def Deed.leaves (unawaited : Bool) : Deed τ → Bool
  | .starts _ _ (.ok _) => true
  | .starts _ _ (.error (.invalid _)) | .stops _ | .joins => false
  | .goes _ | .gives _ | .starts _ _ (.error _) => unawaited

/-- A run has begun whose end nobody has waited for since: it has been neither stopped
nor joined, and no start of an invalid draft has come after it. -/
def Unawaited (past : List (Deed τ)) : Prop :=
  past.foldl Deed.leaves false = true

/-- What a deed does to an engine, and the client who starts a draft is answered. -/
inductive Does (d : Devices τ) (a : Among τ) : Deed τ → Among τ → Prop
  | goes (move : Move τ) : Does d a (.goes move) (a.move d move)
  | starts {draft : Draft} {time : String} {answer : Except EngineError Validation} {e : Engine τ}
      (started : a.1.startDraft d draft time = .ok (answer, e)) :
      Does d a (.starts draft time answer) (e, a.2)
  | gives (command : Command) : Does d a (.gives command) ((a.1.send command).2, a.2)
  | stops (reason : String) : Does d a (.stops reason) ((a.1.stop reason).2, a.2)
  | joins : Does d a .joins (a.1.join.2, a.2)

/-- What has happened to an engine from some time on. -/
inductive History (d : Devices τ) (a₀ : Among τ) : List (Deed τ) → Among τ → Prop
  | nothing : History d a₀ [] a₀
  | more {past : List (Deed τ)} {a a' : Among τ} {deed : Deed τ} (history : History d a₀ past a)
      (does : Does d a deed a') : History d a₀ (past ++ [deed]) a'

/-! ## What an engine knows of its run -/

/-- An engine that has run nothing and is idle, or whose status tells how its run
stands, and its run whether anybody has waited for its end. -/
inductive Kept (d : Devices τ) (a : Among τ) (unawaited : Bool) : Prop
  | fresh (run : a.1.run = none) (state : a.1.status.state = .idle)
      (splits : Shared.Splits (a.1.session, a.2) none) (none_begun : unawaited = false)
  | of {r : Run} (sound : a.Sound d r) (state : a.1.status.state = r.state)
      (awaited : unawaited = !r.joined)

variable {e e₀ e' : Engine τ} {d : Devices τ} {r r' : Run} {a a' : Among τ} {unawaited : Bool}
  {draft : Draft} {preset : Preset} {time : String} {past : List (Deed τ)} {deed : Deed τ}

theorem runState_of_strides {acts : List (Act (Watch τ))} {status : EngineStatus}
    (strides : Strides d e r acts status r') (state : e.status.state = r.state) :
    status.state = r'.state := by
  by_cases last : r'.phase = .ended
  · rw [Run.state_of_ended last]
    rcases continues_or_ends strides with
      continues | ⟨_, _, _, _, rfl, _⟩ | ⟨ended, _, rfl, _⟩
    · exact absurd last continues.lasting
    · rfl
    · exact state.trans (Run.state_of_ended ended)
  · have unended : r.phase ≠ .ended :=
      fun ended => last (ended_of_strides strides (.inl ended))
    rw [Run.state_of_unended last]
    exact state_of_strides strides last (state.trans (Run.state_of_unended unended))

/-- What happens to the run itself does not change who has waited for its end. -/
theorem Kept.move (kept : Kept d a unawaited) (move : Move τ) : Kept d (a.move d move) unawaited := by
  cases kept with
  | fresh run state splits none_begun =>
      cases move with
      | stir stir => exact .fresh run state (splits.stir stir) none_begun
      | go =>
          have still : a.1.step d = a.1 := by simp only [step, run]
          rw [Among.move, still]
          exact .fresh run state splits none_begun
      | arrive command =>
          have still : a.1.receive command = a.1 := by simp only [receive, run]
          rw [Among.move, still]
          exact .fresh run state splits none_begun
      | hangUp =>
          refine .fresh ?_ state splits none_begun
          rw [Among.move, disconnect, run]
          rfl
  | of sound state awaited =>
      rename_i r
      obtain ⟨r', goes⟩ := sound.exists_goes move
      have sound' := goes.sound sound
      generalize a.move d move = a' at goes sound' ⊢
      cases goes with
      | steps strides step_eq told_eq =>
          refine .of sound' (runState_of_strides strides state) ?_
          have same := joined?_step a.1 d
          rw [step_eq, joined?, joined?, sound.run] at same
          rw [awaited, Option.some.inj same]
      | stirs | arrives | hangsUp => exact .of sound' state awaited

theorem Kept.join (kept : Kept d a unawaited) : Kept d (a.1.join.2, a.2) false := by
  cases kept with
  | fresh run state splits none_begun =>
      have still : a.1.join.2 = a.1 := by simp only [Engine.join, run]
      rw [still]
      exact .fresh run state splits rfl
  | of sound state awaited =>
      simp only [Engine.join, sound.run]
      exact .of ⟨rfl, sound.fits, sound.linked, sound.splits⟩ state rfl

theorem isRunning_join (e : Engine τ) : e.join.2.isRunning = e.isRunning := by
  unfold Engine.join
  split <;> rfl

theorem foldl_remark {β : Type} (f : β → Journal → Journal) (items : List β) (e : Engine τ) :
    items.foldl (fun e item => e.remark (f item)) e =
      e.remark fun journal => items.foldl (fun journal item => f item journal) journal := by
  induction items generalizing e with
  | nil => rfl
  | cons item rest ih => exact ih _

theorem Kept.remark (kept : Kept d a unawaited) (f : Journal → Journal) :
    Kept d (a.1.remark f, a.2) unawaited := by
  cases kept with
  | fresh run state splits none_begun =>
      exact .fresh run state (splits.of_lock_eq rfl) none_begun
  | of sound state awaited =>
      exact .of ⟨sound.run, sound.fits, sound.linked, sound.splits.of_lock_eq rfl⟩ state awaited

/-- The lock of an idle engine is with the others, or free. -/
theorem Kept.holder (kept : Kept d a unawaited) (idle : a.1.isRunning = false) :
    a.1.session.lock.holder = a.2 := by
  cases kept with
  | fresh run state splits none_begun => exact splits.holder
  | of sound state awaited =>
      rename_i r
      have ended : r.phase = .ended := by
        rw [isRunning, state, bne_eq_false_iff_eq] at idle
        exact Run.state_eq_idle_iff.mp idle
      have splits := sound.splits
      rw [held_of_attempt?_eq_none (ended ▸ rfl)] at splits
      exact splits.holder

theorem joined?_of_launch (launched : e₀.launch d preset time = .ok e) :
    e.joined? = some false := by
  unfold launch at launched
  obtain ⟨watched, _, made⟩ := Checked.bind_eq_ok_iff.mp launched
  cases made
  rfl

/-- Nobody has waited for the end of a run that has just been launched. -/
theorem kept_of_launch (launched : e₀.launch d preset time = .ok e) :
    Kept d (e, e₀.session.lock.holder) true := by
  obtain ⟨r, begun, _, lock_eq⟩ := begun_of_launch launched
  have sound := begun.sound (d := d)
  rw [lock_eq] at sound
  refine .of sound ?_ ?_
  · rw [Run.state_of_unended (by simp [begun.phase]), begun.unpaused]
    exact begun.state
  · have unjoined := joined?_of_launch launched
    rw [joined?, begun.run] at unjoined
    rw [Option.some.inj unjoined]
    rfl

/-- A start is refused while the engine runs, or because the draft is invalid, or a
preset is launched. -/
theorem startDraft_cases {answer : Except EngineError Validation}
    (started : e.startDraft d draft time = .ok (answer, e')) :
    e.isRunning = true ∧ (∃ preset, answer = .error (.alreadyRunning preset)) ∧ e' = e ∨
    (∃ diagnostics f, answer = .error (.invalid diagnostics) ∧ e' = e.join.2.remark f) ∨
    e.isRunning = false ∧ ∃ report preset, answer = .ok report ∧
      e.join.2.launch d preset time = .ok e' := by
  unfold startDraft at started
  split at started
  · rename_i running
    cases started
    exact .inl ⟨running, ⟨_, rfl⟩, rfl⟩
  · rename_i idle
    simp only at started
    split at started
    · cases started
      exact .inr (.inl ⟨_, _, rfl, foldl_remark _ _ _⟩)
    · obtain ⟨e₁, launched, made⟩ := Checked.bind_eq_ok_iff.mp started
      cases made
      exact .inr (.inr ⟨Bool.eq_false_iff.mpr idle, _, _, rfl, launched⟩)

theorem stop_of_none (run : e.run = none) (reason : String) :
    e.stop reason = (.error .notRunning, e) := by
  simp only [stop, run]

theorem stop_of_some (run : e.run = some r) (reason : String) :
    e.stop reason = (if r.joined then .error .notRunning else .ok (),
      (e.receive (.stop reason)).cancel.join.2) := by
  simp only [stop, sendStop_eq, run, receive]
  cases joined : r.joined <;> simp [cancel, put, Engine.join]

theorem Kept.does (kept : Kept d a unawaited) (does : Does d a deed a') :
    Kept d a' (deed.leaves unawaited) := by
  cases does with
  | goes move => exact kept.move move
  | starts started =>
      rcases startDraft_cases started with
        ⟨_, ⟨_, rfl⟩, rfl⟩ | ⟨_, f, rfl, rfl⟩ | ⟨idle, _, _, rfl, launched⟩
      · exact kept
      · exact kept.join.remark f
      · have launched_kept := kept_of_launch launched
        rwa [kept.join.holder ((isRunning_join a.1).trans idle)] at launched_kept
  | gives command =>
      rcases send_cases a.1 command with refused | sent
      · rw [refused]
        exact kept
      · rw [sent]
        exact kept.move (.arrive command)
  | stops reason =>
      cases run : a.1.run with
      | none =>
          have still : a.1.join.2 = a.1 := by simp only [Engine.join, run]
          have joined := kept.join
          rw [stop_of_none run]
          rwa [still] at joined
      | some r =>
          rw [stop_of_some run]
          exact ((kept.move (.arrive (.stop reason))).move (.stir .cancel)).join
  | joins => exact kept.join

theorem kept_start (catalogue : Catalogue) (settings : Settings) (devices : τ) :
    Kept d (.start catalogue settings devices, none) false :=
  .fresh rfl rfl ⟨rfl, .inl rfl⟩ rfl

/-- An engine knows of its run whatever has happened. -/
theorem History.kept {a₀ : Among τ} (history : History d a₀ past a) (start : Kept d a₀ false) :
    Kept d a (past.foldl Deed.leaves false) := by
  induction history with
  | nothing => exact start
  | more _ does ih =>
      rw [List.foldl_append]
      exact ih.does does

/-! ## Refusals -/

theorem Kept.send_eq_error_iff (kept : Kept d a unawaited) (command : Command) :
    (a.1.send command).1 = .error .notRunning ↔ a.1.status.state = .idle := by
  cases running : a.1.isRunning with
  | false =>
      rw [isRunning, bne_eq_false_iff_eq] at running
      simp [send, listens, isRunning, running]
  | true =>
      have listening : a.1.listens = a.1.run := by rw [listens, running, if_pos rfl]
      rw [isRunning, bne_iff_ne] at running
      cases kept with
      | fresh run state => exact absurd state running
      | of sound => simp [send, listening, sound.run, running]

theorem startDraft_eq_alreadyRunning_iff (e : Engine τ) (d : Devices τ) (draft : Draft)
    (time : String) :
    (∃ preset e', e.startDraft d draft time = .ok (.error (.alreadyRunning preset), e')) ↔
      e.status.state ≠ .idle := by
  rw [← bne_iff_ne, ← isRunning]
  refine ⟨?_, fun running => ⟨_, _, if_pos running⟩⟩
  rintro ⟨preset, e', started⟩
  rcases startDraft_cases started with ⟨running, _⟩ | ⟨_, _, same, _⟩ | ⟨_, _, _, same, _⟩
  · exact running
  · cases same
  · cases same

theorem Kept.stop_eq_error_iff (kept : Kept d a unawaited) (reason : String) :
    (a.1.stop reason).1 = .error .notRunning ↔ unawaited = false := by
  cases kept with
  | fresh run state splits none_begun => simp [stop_of_none run, none_begun]
  | of sound state awaited =>
      rename_i r
      rw [stop_of_some sound.run, awaited]
      cases r.joined <;> simp

/-- While nobody waits for the end of a run that goes on, no stop of such a run is
refused. -/
theorem Kept.idle_of_stop (kept : Kept d a unawaited)
    (quiet : ∀ r, a.1.run = some r → r.joined = true → r.phase = .ended) {reason : String}
    (refused : (a.1.stop reason).1 = .error .notRunning) : a.1.status.state = .idle := by
  have awaited := (kept.stop_eq_error_iff reason).mp refused
  cases kept with
  | fresh run state => exact state
  | of sound state own =>
      rename_i r
      have joined : r.joined = true := by simpa [awaited] using own
      rw [state, Run.state_eq_idle_iff]
      exact quiet r sound.run joined

/-- What an engine refuses after a past.  Commands and starts are refused by its
status; a stop is refused if there is no run whose end nobody has waited for.  So the
status tells of stops, too, exactly if there is such a run just when the engine is
not idle; and if it does not, this is because a run has ended that nobody has waited
for, unless somebody waits for one that goes on. -/
structure Refuses (d : Devices τ) (past : List (Deed τ)) (a : Among τ) : Prop where
  commands : ∀ command,
    (a.1.send command).1 = .error .notRunning ↔ a.1.status.state = .idle
  starts : ∀ draft time,
    (∃ preset e, a.1.startDraft d draft time = .ok (.error (.alreadyRunning preset), e)) ↔
      a.1.status.state ≠ .idle
  stops : ∀ reason, (a.1.stop reason).1 = .error .notRunning ↔ ¬Unawaited past
  agrees : (∀ reason, (a.1.stop reason).1 = .error .notRunning ↔ a.1.status.state = .idle) ↔
    (Unawaited past ↔ a.1.status.state ≠ .idle)
  quiet : (∀ r, a.1.run = some r → r.joined = true → r.phase = .ended) →
    ∀ reason, (a.1.stop reason).1 = .error .notRunning → a.1.status.state = .idle

variable {catalogue : Catalogue} {settings : Settings} {devices : τ}

/-- Whatever has happened to an engine since it was made, its status tells which
commands and starts it refuses, and what its clients have done tells which stops. -/
theorem refuses_of_history
    (history : History d (.start catalogue settings devices, none) past a) :
    Refuses d past a := by
  have kept := history.kept (kept_start catalogue settings devices)
  have stops : ∀ reason, (a.1.stop reason).1 = .error .notRunning ↔ ¬Unawaited past := by
    intro reason
    rw [kept.stop_eq_error_iff, Unawaited, Bool.not_eq_true]
  refine ⟨kept.send_eq_error_iff, startDraft_eq_alreadyRunning_iff a.1 d, stops, ?_,
    fun quiet _ => kept.idle_of_stop quiet⟩
  simp only [stops, forall_const]
  tauto

/-- Whether a choir that starts a chorus in the dark is where it is thought to be
after steps. -/
def strikesUp (answer : Except Crash (Except PressError Unit)) (steps : Nat)
    (there : Engine Unit → Bool) : Bool :=
  match choir.startDraft (darkness answer) .chorus "now" with
  | .ok (.ok _, e) => there (Among.moves (darkness answer) (e, none) (List.replicate steps .go)).1
  | _ => false

theorem History.goes {a₀ : Among τ} (history : History d a₀ past a) (steps : Nat) :
    History d a₀ (past ++ List.replicate steps (.goes .go))
      (a.moves d (List.replicate steps .go)) := by
  induction steps with
  | zero =>
      rw [List.replicate_zero, List.replicate_zero, List.append_nil]
      exact history
  | succ steps ih =>
      rw [List.replicate_succ', List.replicate_succ', Among.moves_concat, ← List.append_assoc]
      exact ih.more (.goes .go)

theorem exists_of_strikesUp {answer : Except Crash (Except PressError Unit)} {steps : Nat}
    {there : Engine Unit → Bool} (done : strikesUp answer steps there = true) :
    ∃ report a, History (darkness answer) (choir, none)
        (.starts .chorus "now" (.ok report) :: List.replicate steps (.goes .go)) a ∧
      there a.1 = true := by
  unfold strikesUp at done
  split at done
  · rename_i report e started
    have begun : History (darkness answer) (choir, none) [.starts .chorus "now" (.ok report)]
        (e, none) := .more .nothing (.starts started)
    exact ⟨report, _, begun.goes steps, done⟩
  · contradiction

/-- A chorus that goes on is not idle, so that no stop of it is refused. -/
theorem chorus_refuses_starts :
    ∃ report a, History (darkness (.ok (.ok ()))) (.start .choir .standard (), none)
        (.starts .chorus "now" (.ok report) :: List.replicate 3 (.goes .go)) a ∧
      a.1.status.state = .running ∧
      Refuses (darkness (.ok (.ok ())))
        (.starts .chorus "now" (.ok report) :: List.replicate 3 (.goes .go)) a := by
  have running : strikesUp (.ok (.ok ())) 3 (fun e => e.status.state == .running) = true := by
    decide +kernel
  obtain ⟨report, a, history, there⟩ := exists_of_strikesUp running
  exact ⟨report, a, history, beq_iff_eq.mp there, refuses_of_history history⟩

/-- A chorus that has broken off is idle, and is stopped all the same, but not twice. -/
theorem chorus_stops_late :
    ∃ report a, History (darkness (.error (.raised "broken"))) (.start .choir .standard (), none)
        (.starts .chorus "now" (.ok report) :: List.replicate 7 (.goes .go)) a ∧
      a.1.status.state = .idle ∧ (a.1.stop "late").1 = .ok () ∧
      ((a.1.stop "late").2.stop "again").1 = .error .notRunning := by
  have late : strikesUp (.error (.raised "broken")) 7 (fun e => e.status.state == .idle &&
      decide ((e.stop "late").1 = .ok ()) &&
      decide (((e.stop "late").2.stop "again").1 = .error .notRunning)) = true := by
    decide +kernel
  obtain ⟨report, a, history, there⟩ := exists_of_strikesUp late
  simp only [Bool.and_eq_true, beq_iff_eq, decide_eq_true_eq] at there
  exact ⟨report, a, history, there.1.1, there.1.2, there.2⟩

end Engine

end Rotation
