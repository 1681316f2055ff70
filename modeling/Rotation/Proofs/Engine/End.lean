import Rotation.Proofs.Engine.Course

/-!
# The end of a run

A run ends because it is told to, because a node ends it, or because something
breaks down, perhaps in the middle of an attempt.  However it ends, it leaves the
same order behind: no attempt is open, the lock is with the others or free, the
engine is idle and knows why, and the last that is told is that the run has
ended.
-/

namespace Rotation

namespace Run

/-- Whether a run has ended. -/
def isOver (r : Run) : Bool :=
  match r.phase with
  | .ended => true
  | _ => false

theorem isOver_iff {r : Run} : r.isOver = true ↔ r.phase = .ended := by
  unfold isOver
  split <;> simp_all

end Run

namespace Engine

variable {τ : Type}

/-- What brings a run to its end by its next step: a stop that it reads, a step
that it cannot count, that nobody gives commands any more, the stop flag, the
node that it runs, or the attempt that it is at. -/
inductive Brings (d : Devices τ) (e : Engine τ) (r : Run) : StopReason → Prop
  | stop {reason : String} {rest : List Command} (reads : r.phase.reads = true)
      (first : r.queue = .stop reason :: rest) : Brings d e r (.requested reason)
  | uncounted {rest : List Command} {f : Fault} (reads : r.phase.reads = true)
      (first : r.queue = .step :: rest) (full : Unsigned.add 32 r.steps 1 = .error f) :
      Brings d e r (.fault f.message)
  | leaves (reads : r.phase.reads = true) (empty : r.queue = [])
      (disconnected : r.connected = false) : Brings d e r .disconnected
  | flag (checking : r.phase = .checking) (cancelled : e.session.cancelled = true) :
      Brings d e r (.requested "cancelled")
  | node {c : Candidate} {reason : StopReason} (choosing : r.phase = .choosing)
      (picked : r.schedule.pick e.session.now = some c) (ends : EndsAt r c reason) :
      Brings d e r reason
  | crash {errand : Errand} {phase : Cast.Phase} {crash : Crash}
      (casting : r.phase = .casting errand phase)
      (crashed : (e.perform ((e.caster d).step errand.attempted phase)).1 = .error crash) :
      Brings d e r (.fault crash.message)
  | outcome {errand : Errand} {phase : Cast.Phase} {outcome : Cast.Outcome} {reason : StopReason}
      (casting : r.phase = .casting errand phase)
      (finished : (e.perform ((e.caster d).step errand.attempted phase)).1 =
        .ok (.finished outcome)) (fault : IsFault reason) : Brings d e r reason

variable {d : Devices τ} {e : Engine τ} {r r' : Run}

theorem ending_of_works {ends : StopReason → Prop} {status status' : EngineStatus}
    {acts : List (Act (Watch τ))} {reason : StopReason}
    (works : Works ends status r acts status' r') (ending : r'.phase = .ending reason) :
    ends reason := by
  rcases works.phase with draining | ⟨errand, casting⟩ | ⟨own, own_ending, holds⟩
  · rw [draining] at ending
    contradiction
  · rw [casting] at ending
    contradiction
  · rw [own_ending] at ending
    cases ending
    exact holds

theorem brings_of_strides {acts : List (Act (Watch τ))} {status : EngineStatus}
    {reason : StopReason} (strides : Strides d e r acts status r')
    (ending : r'.phase = .ending reason) : Brings d e r reason := by
  cases strides with
  | applies reads first =>
      rename_i command rest
      cases command with
      | pause | resume => contradiction
      | stop own =>
          cases ending
          exact .stop reads first
      | step =>
          simp only [Run.applied, Command.effect] at ending
          split at ending
          · contradiction
          · rename_i full
            cases ending
            exact .uncounted reads first full
  | turns turns =>
      cases ending
      cases phase : r.phase with
      | checking =>
          rw [phase] at turns
          cases turns with
          | hangsUp => contradiction
          | obeys cancelled => exact .flag phase cancelled
      | draining | choosing | listening | casting | resting | ending | ended =>
          rw [phase] at turns
          cases turns
          exact .leaves (phase ▸ ‹_›) ‹_› ‹_›
  | executes c choosing allowed picked works =>
      exact .node choosing picked (ending_of_works works ending)
  | casts casting strides on phase'_eq =>
      cases ending
      contradiction
  | concludes casting strides finished works =>
      exact .outcome casting finished (ending_of_works works ending)
  | crashes casting strides crashed =>
      cases ending
      exact .crash casting crashed
  | finishes => contradiction

theorem lastError_flipped (status : EngineStatus) (before after : Bool) :
    (flipped status before after).lastError = status.lastError := by
  unfold flipped
  split <;> rfl

/-- A stride of a run that is not about to end. -/
structure Continues (e : Engine τ) (r : Run) (status : EngineStatus) (r' : Run) : Prop where
  unended : r.phase ≠ .ended
  going : ∀ reason, r.phase ≠ .ending reason
  lasting : r'.phase ≠ .ended
  lastError : status.lastError = e.status.lastError

/-- A run goes on, finishes, or has ended before. -/
theorem continues_or_ends {acts : List (Act (Watch τ))} {status : EngineStatus}
    (strides : Strides d e r acts status r') :
    Continues e r status r' ∨
      (∃ reason f, r.phase = .ending reason ∧
        acts = [.remarks f, .operates (.stopAll reason.code e.session.now),
          .tells [.engineStopped reason.text e.session.now]] ∧
        status = { e.status with
          state := .idle
          lastError := reason.fault?.or e.status.lastError
          lastStop := some reason } ∧
        r' = { r with phase := .ended }) ∨
      r.phase = .ended ∧ acts = [] ∧ status = e.status ∧ r' = r := by
  cases strides with
  | applies reads first =>
      rename_i command rest
      obtain ⟨unended, going⟩ := RunPhase.going_of_reads reads
      refine .inl ⟨unended, going, ?_, lastError_flipped ..⟩
      cases command with
      | pause | resume | stop => simp [Run.applied, Command.effect]
      | step =>
          simp only [Run.applied, Command.effect]
          split <;> simp
  | turns turns =>
      cases phase : r.phase with
      | ended =>
          rw [phase] at turns
          cases turns with
          | hangsUp => contradiction
          | stands => exact .inr (.inr ⟨rfl, rfl, rfl, by rw [← phase]⟩)
      | ending reason =>
          rw [phase] at turns
          cases turns
          contradiction
      | draining | checking | choosing | listening | casting | resting =>
          rw [phase] at turns
          refine .inl ⟨by simp [phase], by simp [phase], ?_, rfl⟩
          cases turns <;> simp
  | executes c choosing allowed picked works =>
      exact .inl ⟨by simp [choosing], by simp [choosing], works.phase_ne (by simp) (by simp) (by simp),
        works.lastError⟩
  | casts casting strides on phase'_eq =>
      refine .inl ⟨by simp [casting], by simp [casting], ?_, rfl⟩
      rintro ⟨⟩
      contradiction
  | concludes casting strides finished works =>
      exact .inl ⟨by simp [casting], by simp [casting], works.phase_ne (by simp) (by simp) (by simp),
        works.lastError⟩
  | crashes casting strides crashed =>
      exact .inl ⟨by simp [casting], by simp [casting], by simp, rfl⟩
  | finishes f ending => exact .inr (.inl ⟨_, f, ending, rfl, rfl, rfl⟩)

/-- A run that is about to end, or has ended before, has ended after a step. -/
theorem ended_of_strides {acts : List (Act (Watch τ))} {status : EngineStatus}
    (strides : Strides d e r acts status r')
    (done : r.phase = .ended ∨ ∃ reason, r.phase = .ending reason) : r'.phase = .ended := by
  rcases continues_or_ends strides with
    continues | ⟨_, _, _, _, _, rfl⟩ | ⟨ended, _, _, rfl⟩
  · rcases done with ended | ⟨reason, ending⟩
    · exact absurd ended continues.unended
    · exact absurd ending (continues.going reason)
  · rfl
  · exact ended

/-- A run tells that it has ended by its last step only. -/
theorem not_mem_engineStopped {acts : List (Act (Watch τ))} {status : EngineStatus}
    (strides : Strides d e r acts status r') (going : ∀ reason, r.phase ≠ .ending reason)
    (text : String) (time : Nat) :
    .engineStopped text time ∉ Act.toldAll d.rig e.session acts := by
  intro told
  have control : Event.engineStopped text time ∈ news e.session.now r r' := by
    rw [← filter_isControl_of_strides strides]
    exact List.mem_filter.mpr ⟨told, rfl⟩
  rw [news_of_going _ going, turnNews] at control
  split at control
  · contradiction
  · split at control <;> simp at control

namespace Among

variable {a a' : Among τ}

/-- What a run that has ended for a reason leaves behind, when it has told of
events. -/
structure Left (told : List Event) (a : Among τ) (reason : StopReason) : Prop where
  state : a.1.status.state = .idle
  lastStop : a.1.status.lastStop = some reason
  lastError : a.1.status.lastError = reason.fault?
  live : a.1.session.store.live = []
  holder : a.1.session.lock.holder = a.2
  told : ∃ before time, told = before ++ [.engineStopped reason.text time] ∧
    ∀ text time, .engineStopped text time ∉ before

/-- What is known of a run at every time, when it has told of events: before its
end it tells of none, something brings it about, and then it leaves everything in
order. -/
structure Ends (brought : StopReason → Prop) (told : List Event) (a : Among τ) (r : Run) :
    Prop where
  lastError : r.phase ≠ .ended → a.1.status.lastError = none
  silent : r.phase ≠ .ended → ∀ text time, .engineStopped text time ∉ told
  cause : ∀ reason, r.phase = .ending reason → brought reason
  left : r.phase = .ended → ∃ reason, brought reason ∧ Left told a reason

theorem Ends.mono {brought brought' : StopReason → Prop} {told : List Event}
    (ends : Ends brought told a r) (kept : ∀ reason, brought reason → brought' reason) :
    Ends brought' told a r where
  lastError := ends.lastError
  silent := ends.silent
  cause reason ending := kept reason (ends.cause reason ending)
  left ended := (ends.left ended).imp fun reason => And.imp_left (kept reason)

/-- What leaves the phase, the status and the store alone keeps what is known. -/
theorem Ends.keep {brought brought' : StopReason → Prop} {told : List Event}
    (ends : Ends brought told a r) (kept : ∀ reason, brought reason → brought' reason)
    (phase : r'.phase = r.phase) (status : a'.1.status = a.1.status)
    (store : a'.1.session.store = a.1.session.store)
    (holder : a.1.session.lock.holder = a.2 → r.phase = .ended →
      a'.1.session.lock.holder = a'.2) : Ends brought' told a' r' where
  lastError := by
    rw [phase, status]
    exact ends.lastError
  silent := by
    rw [phase]
    exact ends.silent
  cause reason := by
    rw [phase]
    exact fun ending => kept reason (ends.cause reason ending)
  left := by
    rw [phase]
    intro ended
    obtain ⟨reason, brought, left⟩ := ends.left ended
    refine ⟨reason, kept reason brought, ?_, ?_, ?_, ?_, holder left.holder ended, left.told⟩
    · rw [status]
      exact left.state
    · rw [status]
      exact left.lastStop
    · rw [status]
      exact left.lastError
    · rw [store]
      exact left.live

theorem Ends.steps {brought brought' : StopReason → Prop} {told : List Event}
    {acts : List (Act (Watch τ))} {status : EngineStatus} (sound : a.Sound d r)
    (ends : Ends brought told a r) (strides : Strides d a.1 r acts status r')
    (kept : ∀ reason, brought reason → brought' reason)
    (brings : ∀ reason, Brings d a.1 r reason → brought' reason) :
    Ends brought' (told ++ Act.toldAll d.rig a.1.session acts)
      ({ a.1.after d acts with status, run := some r' }, a.2) r' := by
  have brought_now : ∀ reason, r'.phase = .ending reason → brought' reason :=
    fun reason ending => brings reason (brings_of_strides strides ending)
  rcases continues_or_ends strides with
    ⟨unended, going, lasting, lastError⟩ | ⟨reason, f, ending, acts_eq, rfl, rfl⟩ |
    ⟨ended, rfl, rfl, rfl⟩
  · refine ⟨fun _ => lastError.trans (ends.lastError unended), fun _ text time told => ?_,
      brought_now, fun ended => absurd ended lasting⟩
    rcases List.mem_append.mp told with before | now
    · exact ends.silent unended text time before
    · exact not_mem_engineStopped strides going text time now
  · have unended : r.phase ≠ .ended := by simp [ending]
    refine ⟨fun lasting => absurd rfl lasting, fun lasting => absurd rfl lasting, brought_now,
      fun _ => ⟨reason, kept reason (ends.cause reason ending), rfl, rfl, ?_, ?_, ?_, ?_⟩⟩
    · change reason.fault?.or a.1.status.lastError = reason.fault?
      rw [ends.lastError unended, Option.or_none]
    · rw [acts_eq]
      exact sound.linked.live_stopAll _ _
    · have splits := splits_of_strides strides sound.splits
      exact splits.holder
    · let closing := (a.1.session.store.stopAll reason.code a.1.session.now).events
      refine ⟨told ++ closing, a.1.session.now, ?_, fun text time mem => ?_⟩
      · rw [acts_eq]
        simp only [Act.toldAll, Act.told, List.nil_append, List.append_nil]
        exact (List.append_assoc ..).symm
      · rcases List.mem_append.mp mem with before | now
        · exact ends.silent unended text time before
        · have about := Store.skill?_of_outcome
            (.stopAll reason.code a.1.session.now) _ now
          contradiction
  · rw [Act.toldAll, List.append_nil]
    exact ends.keep kept rfl rfl rfl fun same _ => same

/-- Every move keeps what is known of a run. -/
theorem Ends.goes {brought brought' : StopReason → Prop} {told : List Event} {move : Move τ}
    (sound : a.Sound d r) (ends : Ends brought told a r) (goes : Goes d a r move a' r')
    (kept : ∀ reason, brought reason → brought' reason)
    (brings : ∀ reason, move = .go → Brings d a.1 r reason → brought' reason) :
    Ends brought' (told ++ a.toldBy d move) a' r' := by
  cases goes with
  | steps strides step_eq told_eq =>
      rw [toldBy, told_eq]
      exact ends.steps sound strides kept fun reason => brings reason rfl
  | stirs stir =>
      rw [toldBy, List.append_nil]
      refine ends.keep kept rfl rfl (Shared.store_stir ..) fun _ ended => ?_
      have splits := sound.splits.stir stir
      rw [held_of_attempt?_eq_none (ended ▸ rfl)] at splits
      exact splits.holder
  | arrives | hangsUp =>
      rw [toldBy, List.append_nil]
      exact ends.keep kept rfl rfl rfl fun same _ => same

/-- A run has been brought to its end for a reason in the course of moves. -/
def Brought (d : Devices τ) (a : Among τ) (moves : List (Move τ)) (reason : StopReason) : Prop :=
  ∃ past later r, moves = past ++ .go :: later ∧ (a.moves d past).1.run = some r ∧
    Brings d (a.moves d past).1 r reason

theorem Brought.append {past : List (Move τ)} {reason : StopReason}
    (brought : Brought d a past reason) (more : List (Move τ)) :
    Brought d a (past ++ more) reason := by
  obtain ⟨before, later, r, rfl, run, brings⟩ := brought
  exact ⟨before, later ++ more, r, by simp, run, brings⟩

end Among

variable {e₀ : Engine τ} {preset : Preset} {time : String}

/-- A run that has just begun has told of nothing. -/
theorem Begun.ends {brought : StopReason → Prop} {theirs : Option String} (begun : Begun e r) :
    Among.Ends brought [] (e, theirs) r where
  lastError _ := begun.lastError
  silent _ _ _ := List.not_mem_nil
  cause := by
    rw [begun.phase]
    intro reason ending
    contradiction
  left := by
    rw [begun.phase]
    intro ended
    contradiction

/-- However a run that has been launched ends, and whatever others do meanwhile,
something has brought it to its end, and it leaves everything in order. -/
theorem left_of_ended (launched : e₀.launch d preset time = .ok e) (moves : List (Move τ))
    (ran : (Among.moves d (e, e.session.lock.holder) moves).1.run = some r)
    (ended : r.phase = .ended) :
    ∃ reason, Among.Brought d (e, e.session.lock.holder) moves reason ∧
      Among.Left (Among.heard d (e, e.session.lock.holder) moves)
        (Among.moves d (e, e.session.lock.holder) moves) reason := by
  obtain ⟨r₀, begun, _⟩ := begun_of_launch launched
  let a : Among τ := (e, e.session.lock.holder)
  obtain ⟨last, sound, ends⟩ := begun.sound.along
    (P := fun moves r => Among.Ends (Among.Brought d a moves) (a.heard d moves) (a.moves d moves) r)
    begun.ends
    (by
      intro past move r r' sound ends goes
      rw [Among.moves_concat, Among.heard_concat]
      refine ends.goes sound goes (fun reason brought => brought.append [move]) ?_
      rintro reason rfl brings
      exact ⟨past, [], r, rfl, sound.run, brings⟩)
    moves
  obtain rfl : last = r := Option.some.inj (sound.run.symm.trans ran)
  exact ends.left ended

/-- A choir breaks off when its keyboard breaks in the middle of a hum, and leaves
everything in order. -/
theorem choir_breaks_off :
    ∃ e r reason, choir.launch (darkness (.error (.raised "broken"))) humming "now" = .ok e ∧
      e.session.lock.holder = none ∧
      (Among.moves (darkness (.error (.raised "broken"))) (e, none)
        (List.replicate 6 .go)).1.run = some r ∧ r.phase = .ended ∧
      Among.Brought (darkness (.error (.raised "broken"))) (e, none) (List.replicate 6 .go) reason ∧
      Among.Left (Among.heard (darkness (.error (.raised "broken"))) (e, none)
          (List.replicate 6 .go))
        (Among.moves (darkness (.error (.raised "broken"))) (e, none) (List.replicate 6 .go))
        reason := by
  have broken_off : hums (.error (.raised "broken")) (List.replicate 6 .go)
      (fun _ r => r.isOver) = true := by decide +kernel
  obtain ⟨e, r, launched, free, ran, there⟩ := exists_of_hums broken_off
  have ended := Run.isOver_iff.mp there
  have left := left_of_ended launched (List.replicate 6 .go) (free ▸ ran) ended
  rw [free] at left
  obtain ⟨reason, brought, left⟩ := left
  exact ⟨e, r, reason, launched, free, ran, ended, brought, left⟩

end Engine

end Rotation
