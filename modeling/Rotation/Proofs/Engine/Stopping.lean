import Rotation.Proofs.Engine.End

/-!
# What becomes of a stop

Who stops a run puts his reason into its queue, and then sets the stop flag.  The
run looks at the queue first, and at the flag only when the queue is empty; so it
reads the reason, unless a node ends the run before.  There is one gap: a run that
has found the queue empty and has yet to look at the flag sees both halves of the
stop in the wrong order, and ends without the reason.
-/

namespace Rotation.Engine

variable {τ : Type} {d : Devices τ} {e : Engine τ} {r r' r₀ : Run} {reason : String}

/-- A stop for a reason is the first that waits in a queue. -/
def Awaits (reason : String) (queue : List Command) : Prop :=
  ∃ before after, queue = before ++ .stop reason :: after ∧ ∀ other, .stop other ∉ before

theorem Awaits.concat {queue : List Command} (awaits : Awaits reason queue) (command : Command) :
    Awaits reason (queue ++ [command]) := by
  obtain ⟨before, after, rfl, first⟩ := awaits
  exact ⟨before, after ++ [command], by simp, first⟩

/-- The first command of a queue is the stop, or the stop waits behind it. -/
theorem Awaits.cons_cases {command : Command} {rest : List Command}
    (awaits : Awaits reason (command :: rest)) :
    command = .stop reason ∨ (∀ other, command ≠ .stop other) ∧ Awaits reason rest := by
  obtain ⟨before, after, queue, first⟩ := awaits
  cases before with
  | nil =>
      cases queue
      exact .inl rfl
  | cons head tail =>
      cases queue
      refine .inr ⟨?_, tail, after, rfl, fun other mem => first other (List.mem_cons_of_mem _ mem)⟩
      rintro other rfl
      exact first other List.mem_cons_self

theorem not_awaits_nil : ¬Awaits reason [] := by
  rintro ⟨before, after, empty, _⟩
  simp at empty

/-- A run that awaits a stop reads it before it looks at the flag again. -/
theorem Awaits.strides {acts : List (Act (Watch τ))} {status : EngineStatus}
    (awaits : Awaits reason r.queue) (strides : Strides d e r acts status r') :
    r'.phase = .ended ∨ (∃ cause, r'.phase = .ending cause) ∨
      Awaits reason r'.queue ∧ r'.phase ≠ .checking := by
  cases strides with
  | applies reads first =>
      rename_i command rest
      rw [first] at awaits
      rcases awaits.cons_cases with rfl | ⟨other, behind⟩
      · exact .inr (.inl ⟨_, rfl⟩)
      · cases command with
        | stop own => exact absurd rfl (other own)
        | pause | resume => exact .inr (.inr ⟨behind, by simp [Run.applied, Command.effect]⟩)
        | step =>
            refine .inr (.inr ⟨behind, ?_⟩)
            simp only [Run.applied, Command.effect]
            split <;> simp
  | turns turns =>
      cases phase : r.phase with
      | draining | listening =>
          rw [phase] at turns
          cases turns <;> simp_all [not_awaits_nil]
      | checking | choosing | casting | resting | ending | ended =>
          rw [phase] at turns
          cases turns <;> simp_all [RunPhase.reads]
  | executes c choosing allowed picked works =>
      exact .inr (.inr ⟨works.queue ▸ awaits, works.phase_ne (by simp) (by simp) (by simp)⟩)
  | casts casting strides on phase'_eq =>
      refine .inr (.inr ⟨awaits, ?_⟩)
      rintro ⟨⟩
      contradiction
  | concludes casting strides finished works =>
      exact .inr (.inr ⟨works.queue ▸ awaits, works.phase_ne (by simp) (by simp) (by simp)⟩)
  | crashes => exact .inr (.inl ⟨_, rfl⟩)
  | finishes => exact .inl rfl

namespace Among

variable {a a' : Among τ} {past : List (Move τ)} {move : Move τ}

/-- A reason for which a run may end that has been stopped for another one: the
node that it ran has ended it, or something has broken down. -/
def Proper (reason : String) (cause : StopReason) : Prop :=
  cause = .requested reason ∨ IsFault cause ∨ ∃ node, cause = .ended node

/-- A stop has come in the gap: the run had yet to look at the flag when the stop
came to its queue, and the flag was set before it went on. -/
def Overtaken (r₀ : Run) (moves : List (Move τ)) : Prop :=
  r₀.phase = .checking ∧ ∃ quiet later,
    moves = quiet ++ .go :: later ∧ .go ∉ quiet ∧ .stir .cancel ∈ quiet

theorem Overtaken.append (overtaken : Overtaken r₀ past) (more : List (Move τ)) :
    Overtaken r₀ (past ++ more) := by
  obtain ⟨checking, quiet, later, rfl, no_go, cancelled⟩ := overtaken
  exact ⟨checking, quiet, later ++ more, by simp, no_go, cancelled⟩

/-- A run that a stop has reached will read it, unless it ends before; a run that has
yet to look at the flag has not gone on since. -/
def Pledged (reason : String) (r₀ : Run) (past : List (Move τ)) (e : Engine τ) (r : Run) : Prop :=
  r.phase = .ended ∨ (∃ cause, r.phase = .ending cause) ∨
    Awaits reason r.queue ∧ (r.phase = .checking → r₀.phase = .checking ∧ .go ∉ past ∧
      (e.session.cancelled = true → .stir .cancel ∈ past))

theorem Pledged.awaits (pledged : Pledged reason r₀ past e r) (reads : r.phase.reads = true) :
    Awaits reason r.queue := by
  obtain ⟨unended, going⟩ := RunPhase.going_of_reads reads
  rcases pledged with ended | ⟨cause, ending⟩ | ⟨awaits, _⟩
  · exact absurd ended unended
  · exact absurd ending (going cause)
  · exact awaits

/-- Why a pledged run ends by its next step. -/
theorem Pledged.cause {cause : StopReason} (pledged : Pledged reason r₀ past e r)
    (brings : Brings d e r cause) :
    Proper reason cause ∨ cause = .requested "cancelled" ∧ Overtaken r₀ (past ++ [.go]) := by
  cases brings with
  | stop reads first =>
      have awaits := pledged.awaits reads
      rw [first] at awaits
      rcases awaits.cons_cases with same | ⟨other, _⟩
      · cases same
        exact .inl (.inl rfl)
      · exact absurd rfl (other _)
  | uncounted => exact .inl (.inr (.inl ⟨_, rfl⟩))
  | leaves reads empty =>
      have awaits := pledged.awaits reads
      rw [empty] at awaits
      exact absurd awaits not_awaits_nil
  | flag checking cancelled =>
      rcases pledged with ended | ⟨cause, ending⟩ | ⟨_, gap⟩
      · rw [checking] at ended
        contradiction
      · rw [checking] at ending
        contradiction
      · obtain ⟨checking₀, no_go, flagged⟩ := gap checking
        exact .inr ⟨rfl, checking₀, past, [], rfl, no_go, flagged cancelled⟩
  | node choosing picked ends =>
      rcases ends with fault | ⟨gateway, _, _, ended⟩
      · exact .inl (.inr (.inl fault))
      · exact .inl (.inr (.inr ⟨gateway.id, ended⟩))
  | crash => exact .inl (.inr (.inl ⟨_, rfl⟩))
  | outcome casting finished fault => exact .inl (.inr (.inl fault))

theorem cancelled_stir {σ : Type} {shared : Shared σ} {stir : Stir σ}
    (cancelled : (shared.stir stir).1.cancelled = true) :
    shared.1.cancelled = true ∨ stir = .cancel := by
  cases stir with
  | cancel => exact .inr rfl
  | elapse | equip | rewire => exact .inl cancelled
  | take owner =>
      rw [Shared.stir] at cancelled
      split at cancelled <;> exact .inl cancelled
  | letGo =>
      rw [Shared.stir] at cancelled
      split at cancelled <;> exact .inl cancelled

/-- What leaves the phase alone and does not take the stop away keeps a run pledged. -/
theorem Pledged.keep {e' : Engine τ} (pledged : Pledged reason r₀ past e r)
    (phase : r'.phase = r.phase) (queue : Awaits reason r.queue → Awaits reason r'.queue)
    (stays : move ≠ .go) (flag : e'.session.cancelled = true →
      e.session.cancelled = true ∨ .stir .cancel ∈ [move]) :
    Pledged reason r₀ (past ++ [move]) e' r' := by
  rw [Pledged, phase]
  refine pledged.imp_right (Or.imp_right ?_)
  rintro ⟨awaits, gap⟩
  refine ⟨queue awaits, fun checking => ?_⟩
  obtain ⟨checking₀, no_go, flagged⟩ := gap checking
  refine ⟨checking₀, ?_, fun cancelled => List.mem_append.mpr ((flag cancelled).imp_left flagged)⟩
  simp [no_go, stays.symm]

/-- Every move keeps a run pledged. -/
theorem Pledged.goes (pledged : Pledged reason r₀ past a.1 r) (goes : Goes d a r move a' r') :
    Pledged reason r₀ (past ++ [move]) a'.1 r' := by
  cases goes with
  | steps strides step_eq told_eq =>
      rcases pledged with ended | ending | ⟨awaits, _⟩
      · exact .inl (ended_of_strides strides (.inl ended))
      · exact .inl (ended_of_strides strides (.inr ending))
      · refine (awaits.strides strides).imp_right (Or.imp_right ?_)
        rintro ⟨awaits, past_gap⟩
        exact ⟨awaits, fun checking => absurd checking past_gap⟩
  | stirs stir =>
      refine pledged.keep rfl id (by simp) fun cancelled => ?_
      rcases cancelled_stir cancelled with before | rfl
      · exact .inl before
      · exact .inr (List.mem_singleton_self _)
  | arrives command => exact pledged.keep rfl (Awaits.concat · command) (by simp) .inl
  | hangsUp => exact pledged.keep rfl id (by simp) .inl

/-! ## From the beginning -/

/-- Nobody has stopped a run. -/
structure Unstopped (a : Among τ) (r : Run) : Prop where
  queue : ∀ other, .stop other ∉ r.queue
  flag : a.1.session.cancelled = false

theorem queue_of_strides {acts : List (Act (Watch τ))} {status : EngineStatus}
    (strides : Strides d e r acts status r') : r'.queue ⊆ r.queue := by
  cases strides with
  | applies reads first =>
      rw [first]
      exact List.subset_cons_self ..
  | turns | casts | crashes | finishes => exact List.Subset.refl _
  | executes c choosing allowed picked works => exact fun _ mem => works.queue ▸ mem
  | concludes casting strides finished works => exact fun _ mem => works.queue ▸ mem

theorem Unstopped.goes (unstopped : Unstopped a r) (goes : Goes d a r move a' r')
    (other : ∀ reason, move ≠ .arrive (.stop reason)) (uncancelled : move ≠ .stir .cancel) :
    Unstopped a' r' := by
  cases goes with
  | steps strides step_eq told_eq =>
      exact ⟨fun other mem => unstopped.queue other (queue_of_strides strides mem),
        (Act.cancelled_applyAll ..).trans unstopped.flag⟩
  | stirs stir =>
      refine ⟨unstopped.queue, ?_⟩
      rw [Bool.eq_false_iff]
      intro cancelled
      rcases cancelled_stir cancelled with before | rfl
      · rw [unstopped.flag] at before
        contradiction
      · exact uncancelled rfl
  | arrives command =>
      refine ⟨fun reason mem => ?_, unstopped.flag⟩
      rcases List.mem_append.mp mem with before | now
      · exact unstopped.queue reason before
      · exact other reason (by rw [List.mem_singleton.mp now])
  | hangsUp => exact ⟨unstopped.queue, unstopped.flag⟩

/-- A run that is under way when it is stopped for the first time is pledged. -/
theorem Unstopped.pledged {brought brought' : StopReason → Prop} {told : List Event}
    (unstopped : Unstopped a r₀) (ends : Ends brought told a r₀) (unended : r₀.phase ≠ .ended)
    (going : ∀ cause, r₀.phase ≠ .ending cause)
    (goes : Goes d a r₀ (.arrive (.stop reason)) a' r') :
    Pledged reason r₀ [] a'.1 r' ∧ Ends brought' told a' r' := by
  cases goes with
  | arrives =>
      refine ⟨.inr (.inr ⟨⟨r₀.queue, [], rfl, unstopped.queue⟩, fun checking =>
        ⟨checking, List.not_mem_nil, fun cancelled => ?_⟩⟩), ends.lastError, ends.silent, ?_, ?_⟩
      · exact absurd (unstopped.flag.symm.trans cancelled) Bool.false_ne_true
      · exact fun cause ending => absurd ending (going cause)
      · exact fun ended => absurd ended unended

/-- A pledged run ends for a proper reason, or because it has been overtaken. -/
theorem Sound.ends_of_pledged {told : List Event} (sound : a.Sound d r)
    (pledged : Pledged reason r₀ [] a.1 r)
    (ends : Ends (Proper reason) told a r) (moves : List (Move τ)) :
    ∃ r', (a.moves d moves).1.run = some r' ∧
      Ends (fun cause => Proper reason cause ∨ cause = .requested "cancelled" ∧ Overtaken r₀ moves)
        (told ++ a.heard d moves) (a.moves d moves) r' := by
  obtain ⟨r', sound', _, ends⟩ := sound.along
    (P := fun moves r => Pledged reason r₀ moves (a.moves d moves).1 r ∧
      Ends (fun cause => Proper reason cause ∨
          cause = .requested "cancelled" ∧ Overtaken r₀ moves)
        (told ++ a.heard d moves) (a.moves d moves) r)
    ⟨pledged, by
      rw [heard, gather, List.append_nil]
      exact ends.mono fun _ => .inl⟩
    (by
      rintro past move r r' sound ⟨pledged, ends⟩ goes
      rw [moves_concat, heard_concat, ← List.append_assoc]
      refine ⟨pledged.goes goes, ends.goes sound goes ?_ ?_⟩
      · exact fun cause => Or.imp_right (And.imp_right (Overtaken.append · [move]))
      · rintro cause rfl brings
        exact pledged.cause brings)
    moves
  exact ⟨r', sound'.run, ends⟩

variable {e₀ : Engine τ} {preset : Preset} {time : String}

/-- A run that is under way when it is stopped for the first time ends for the reason
given, unless a node ends it before or something breaks down, or unless the stop has
come in the gap; in each case it leaves everything in order. -/
theorem left_of_stop (launched : e₀.launch d preset time = .ok e) (before after : List (Move τ))
    (unstopped : ∀ other, .arrive (.stop other) ∉ before) (uncancelled : .stir .cancel ∉ before)
    (reached : (Among.moves d (e, e.session.lock.holder) before).1.run = some r₀)
    (unended : r₀.phase ≠ .ended) (going : ∀ cause, r₀.phase ≠ .ending cause)
    (ran : (Among.moves d (e, e.session.lock.holder)
      (before ++ .arrive (.stop reason) :: after)).1.run = some r) (ended : r.phase = .ended) :
    ∃ cause, Left (Among.heard d (e, e.session.lock.holder)
        (before ++ .arrive (.stop reason) :: after))
        (Among.moves d (e, e.session.lock.holder) (before ++ .arrive (.stop reason) :: after))
        cause ∧
      (Proper reason cause ∨ cause = .requested "cancelled" ∧ Overtaken r₀ after) := by
  let a : Among τ := (e, e.session.lock.holder)
  obtain ⟨first, begun, _⟩ := begun_of_launch launched
  -- Until the stop arrives, nobody has stopped the run.
  obtain ⟨r₁, sound₁, calm, ends₁⟩ := begun.sound.along
    (P := fun past r => ((∀ other, .arrive (.stop other) ∉ past) → .stir .cancel ∉ past →
      Unstopped (a.moves d past) r) ∧
      Ends (fun _ => True) (a.heard d past) (a.moves d past) r)
    ⟨fun _ _ => ⟨by simp [begun.queue], begun.going⟩, begun.ends⟩
    (by
      rintro past move r r' sound ⟨calm, ends⟩ goes
      rw [moves_concat, heard_concat]
      refine ⟨fun unstopped uncancelled => ?_, ends.goes sound goes (fun _ _ => trivial)
        fun _ _ _ => trivial⟩
      simp only [List.mem_append, List.mem_singleton, not_or] at unstopped uncancelled
      exact (calm (fun other => (unstopped other).1) uncancelled.1).goes goes
        (fun reason same => (unstopped reason).2 same.symm) fun same => uncancelled.2 same.symm)
    before
  obtain rfl : r₁ = r₀ := Option.some.inj (sound₁.run.symm.trans reached)
  -- From then on the run is pledged.
  obtain ⟨r₂, goes⟩ := sound₁.exists_goes (.arrive (.stop reason))
  obtain ⟨pledged, ends₂⟩ :=
    (calm unstopped uncancelled).pledged ends₁ unended going goes
  obtain ⟨r₃, run₃, ends₃⟩ := (goes.sound sound₁).ends_of_pledged pledged ends₂ after
  rw [moves_append] at ran ⊢
  rw [heard, gather_append]
  obtain rfl : r₃ = r := Option.some.inj (run₃.symm.trans ran)
  obtain ⟨cause, kept, left⟩ := ends₃.left ended
  exact ⟨cause, left, kept⟩

/-- A choir that is told that it is enough ends for this reason. -/
theorem choir_is_told :
    ∃ e r₀ r, choir.launch (darkness (.ok (.ok ()))) humming "now" = .ok e ∧
      e.session.lock.holder = none ∧
      (Among.moves (darkness (.ok (.ok ()))) (e, none) []).1.run = some r₀ ∧
      r₀.phase = .draining ∧
      (Among.moves (darkness (.ok (.ok ()))) (e, none)
        [.arrive (.stop "enough"), .stir .cancel, .go, .go]).1.run = some r ∧
      r.phase = .ended ∧
      ∃ cause, Left (Among.heard (darkness (.ok (.ok ()))) (e, none)
          [.arrive (.stop "enough"), .stir .cancel, .go, .go])
          (Among.moves (darkness (.ok (.ok ()))) (e, none)
            [.arrive (.stop "enough"), .stir .cancel, .go, .go]) cause ∧
        (Proper "enough" cause ∨ cause = .requested "cancelled" ∧
          Overtaken r₀ ([.stir .cancel, .go, .go] : List (Move Unit))) := by
  have told : hums (.ok (.ok ())) [.arrive (.stop "enough"), .stir .cancel, .go, .go]
      (fun _ r => r.isOver) = true := by decide +kernel
  obtain ⟨e, r, launched, free, ran, there⟩ := exists_of_hums told
  obtain ⟨r₀, begun, _⟩ := begun_of_launch launched
  have ended := Run.isOver_iff.mp there
  have left := left_of_stop launched [] [.stir .cancel, .go, .go] (by simp) (by simp)
    begun.run (by simp [begun.phase]) (by simp [begun.phase]) (free ▸ ran) ended
  rw [free] at left
  exact ⟨e, r₀, r, launched, free, begun.run, begun.phase, ran, ended, left⟩

/-- A choir that is told so in the gap does not know why it has ended. -/
theorem choir_is_overtaken :
    ∃ e r, choir.launch (darkness (.ok (.ok ()))) humming "now" = .ok e ∧
      (Among.moves (darkness (.ok (.ok ()))) (e, none)
        [.go, .arrive (.stop "enough"), .stir .cancel, .go, .go]).1.run = some r ∧
      r.phase = .ended ∧
      (Among.moves (darkness (.ok (.ok ()))) (e, none)
        [.go, .arrive (.stop "enough"), .stir .cancel, .go, .go]).1.status.lastStop =
          some (.requested "cancelled") := by
  have overtaken : hums (.ok (.ok ()))
      [.go, .arrive (.stop "enough"), .stir .cancel, .go, .go]
      (fun status r => r.isOver && status.lastStop == some (.requested "cancelled")) = true := by
    decide +kernel
  obtain ⟨e, r, launched, _, ran, there⟩ := exists_of_hums overtaken
  obtain ⟨ended, lastStop⟩ := Bool.and_eq_true_iff.mp there
  exact ⟨e, r, launched, ran, Run.isOver_iff.mp ended, beq_iff_eq.mp lastStop⟩

end Among

end Rotation.Engine
