import Rotation.Proofs.Cast.Completion
import Rotation.Proofs.Cast.Strides
import Rotation.Proofs.Condition.Denotation

/-!
# Looking for a signal

An attempt looks for a signal at once, again after each interval while time is left, and a
last time exactly at the deadline.  It stops at the first look that finds the signal true;
otherwise it has looked at all these times, and knows whether any of the looks was answered.
So a signal that is true at the deadline is never missed.  For a completion this decides how
the attempt ends.
-/

namespace Rotation

theorem Evaluation.isTrue_iff {e : Evaluation} : e.isTrue = true ↔ e.truth = .true := by
  rcases e with value | reason
  · cases value <;> decide
  · simp [isTrue, truth]

namespace Cast

/-! ## Times -/

/-- When a signal is looked for: at each interval from the start that is before the deadline,
and at the deadline. -/
def lookTimes (start budget interval : Nat) : List Nat :=
  (List.range ((budget + interval - 1) / interval)).map (fun i => start + i * interval) ++
    [start + budget]

/-- The times up to the first at which a signal is true. -/
def untilTrue (truth : Nat → Tri) : List Nat → List Nat
  | [] => []
  | time :: rest => if truth time = .true then [time] else time :: untilTrue truth rest

variable {truth : Nat → Tri} {times : List Nat}

theorem lookTimes_zero {interval : Nat} (positive : 0 < interval) (start : Nat) :
    lookTimes start 0 interval = [start] := by
  rw [lookTimes, Nat.div_eq_of_lt (by omega)]
  rfl

/-- After the first look there is a rest, and the looks that are left are those of a watch
that begins then. -/
theorem lookTimes_of_pos {budget interval : Nat} (left : 0 < budget) (positive : 0 < interval)
    (start : Nat) :
    lookTimes start budget interval = start :: lookTimes (start + min interval budget)
      (budget - min interval budget) interval := by
  rcases Nat.le_total budget interval with short | long
  · have once : (budget + interval - 1) / interval = 1 := by
      rw [Nat.div_eq_iff positive]
      omega
    rw [Nat.min_eq_right short, Nat.sub_self, lookTimes_zero positive, lookTimes, once]
    simp
  · have once_more : (budget + interval - 1) / interval =
        (budget - interval + interval - 1) / interval + 1 := by
      rw [← Nat.add_div_right _ positive]
      congr 1
      omega
    rw [Nat.min_eq_left long, lookTimes, lookTimes, once_more, List.range_succ_eq_map,
      List.map_cons, List.map_map, Nat.zero_mul, Nat.add_zero, List.cons_append]
    congr 2
    · refine List.map_congr_left fun i _ => ?_
      simp only [Function.comp_apply, Nat.succ_eq_add_one, Nat.add_mul]
      omega
    · congr 1
      omega

/-- The signal is true at one of the times. -/
def Signaled (truth : Nat → Tri) (times : List Nat) : Prop :=
  ∃ time ∈ times, truth time = .true

/-- The signal is known at one of the times. -/
def Answered (truth : Nat → Tri) (times : List Nat) : Prop :=
  ∃ time ∈ times, truth time ≠ .unknown

instance (truth : Nat → Tri) (times : List Nat) : Decidable (Signaled truth times) :=
  inferInstanceAs (Decidable (∃ time ∈ times, truth time = .true))

instance (truth : Nat → Tri) (times : List Nat) : Decidable (Answered truth times) :=
  inferInstanceAs (Decidable (∃ time ∈ times, truth time ≠ .unknown))

theorem signaled_cons_iff {time : Nat} :
    Signaled truth (time :: times) ↔ truth time = .true ∨ Signaled truth times := by
  simp [Signaled]

theorem answered_cons_iff {time : Nat} :
    Answered truth (time :: times) ↔ truth time ≠ .unknown ∨ Answered truth times := by
  simp [Answered]

theorem length_lookTimes (start budget interval : Nat) :
    (lookTimes start budget interval).length = (budget + interval - 1) / interval + 1 := by
  simp [lookTimes]

theorem mem_lookTimes_deadline (start budget interval : Nat) :
    start + budget ∈ lookTimes start budget interval := by
  simp [lookTimes]

theorem untilTrue_of_not_signaled (never : ¬Signaled truth times) :
    untilTrue truth times = times := by
  induction times with
  | nil => rfl
  | cons time rest ih =>
      rw [signaled_cons_iff, not_or] at never
      rw [untilTrue, if_neg never.1, ih never.2]

theorem length_untilTrue_le (truth : Nat → Tri) (times : List Nat) :
    (untilTrue truth times).length ≤ times.length := by
  induction times with
  | nil => exact Nat.le_refl 0
  | cons time rest ih =>
      rw [untilTrue]
      split
      · exact Nat.succ_le_succ (Nat.zero_le _)
      · exact Nat.succ_le_succ ih

/-- Looking until the signal is true, it is found true if it is at any of the times. -/
theorem signaled_untilTrue_iff : Signaled truth (untilTrue truth times) ↔ Signaled truth times := by
  induction times with
  | nil => rfl
  | cons time rest ih =>
      rw [untilTrue, signaled_cons_iff]
      split
      · rename_i found
        simp [signaled_cons_iff, found]
      · rename_i missed
        rw [signaled_cons_iff, ih]

theorem exists_lookTimes_eq_cons {interval : Nat} (positive : 0 < interval) (start budget : Nat) :
    ∃ rest, lookTimes start budget interval = start :: rest := by
  rcases Nat.eq_zero_or_pos budget with rfl | left
  · exact ⟨[], lookTimes_zero positive start⟩
  · exact ⟨_, lookTimes_of_pos left positive start⟩

/-! ## Watches -/

/-- A watch for a signal: that of the start of an attempt, or that of its completion. -/
inductive Watch where
  | start (opened : Opened) (key : Chord) (retries : Nat)
  | completion (opened : Opened)

namespace Watch

variable {σ : Type}

/-- The attempt that watches. -/
def opened : Watch → Opened
  | .start opened _ _ | .completion opened => opened

/-- Where an attempt is that watches for a signal. -/
def phase (signal : Condition) (deadline : Nat) (observed : Bool) : Watch → Phase
  | .start opened key retries => .starting opened key signal deadline retries
  | .completion opened => .completing opened signal deadline observed

/-- What comes after the signal has been found true. -/
def seen (c : Caster σ) (node : SkillNode) : Watch → Live σ Next
  | .start opened _ _ => c.enterCasting node opened
  | .completion opened => Caster.close node opened .success none

/-- What comes after the deadline, and whether any look was answered by then. -/
def missed (c : Caster σ) (node : SkillNode) (signal : Condition) (observed : Bool) :
    Watch → Live σ Next
  | .start opened key retries => c.pressAgain node opened key signal retries
  | .completion opened => Caster.finishUnseen node opened observed

/-- What comes after a look. -/
def judge (c : Caster σ) (node : SkillNode) (signal : Condition) (deadline : Nat)
    (observed : Bool) (w : Watch) (found : Evaluation) : Live σ Next := do
  if found.isTrue then
    w.seen c node
  else
    let observed := observed || found.truth.isKnown
    let now := (← Live.session).now
    if deadline ≤ now then
      w.missed c node signal observed
    else
      return .sleep (c.pollRest deadline now) (w.phase signal deadline observed)

/-- A step of a watch. -/
def look (c : Caster σ) (node : SkillNode) (signal : Condition) (deadline : Nat)
    (observed : Bool) (w : Watch) : Live σ Next := do
  if (← Live.session).cancelled then
    Caster.closeStopped node w.opened
  else
    w.judge c node signal deadline observed (← c.eval signal)

theorem step_phase {c : Caster σ} {node : SkillNode} {signal : Condition} {deadline : Nat}
    {observed : Bool} (w : Watch) :
    c.step node (w.phase signal deadline observed) =
      Live.holding (w.look c node signal deadline observed) := by
  cases w <;> rfl

end Watch

namespace Caster

variable {σ : Type}

/-- How long an attempt rests between two looks. -/
def interval (c : Caster σ) : Nat :=
  max c.settings.pollMs.toNat 1

/-- How a run goes on after a step that has come to this. -/
def resume (c : Caster σ) (after : Session σ → Session σ) (node : SkillNode) (fuel : Nat)
    (done : Except Crash Next × Session σ) : Option (Except Crash Outcome) × Session σ :=
  match done.1 with
  | .error crash => (some (.error crash), after done.2)
  | .ok (.finished outcome) => (some (.ok outcome), after done.2)
  | .ok (.proceed phase) => c.runFrom after node fuel phase (after done.2)
  | .ok (.sleep ms phase) => c.runFrom after node fuel phase (afterSleep (after done.2) ms)
  | .ok (.await ms phase) => c.runFrom after node fuel phase (afterAwait (after done.2) ms)

/-- What others do between two steps takes no time and is no stop. -/
structure Undisturbed (after : Session σ → Session σ) : Prop where
  now : ∀ t, (after t).now = t.now
  cancelled : ∀ t, (after t).cancelled = t.cancelled

/-- In all of these sessions a look at the signal finds the truth of its time, and leads to
another of them when time has passed. -/
structure Tells (c : Caster σ) (after : Session σ → Session σ) (signal : Condition)
    (truth : Nat → Tri) (I : Session σ → Prop) : Prop where
  look : ∀ t, I t → ∃ found t', (c.eval signal).Ends t found t' ∧ found.truth = truth t.now ∧
    ∀ ms, I (afterSleep (after t') ms)

/-- The looks for a signal from a session on, each with its time and with what it finds, and
the session after the last one.  Between two looks there is a rest. -/
inductive Looks (c : Caster σ) (after : Session σ → Session σ) (signal : Condition)
    (deadline : Nat) : Session σ → List (Nat × Tri) → Session σ → Prop
  | last {s t : Session σ} {found : Evaluation} (ends : (c.eval signal).Ends s found t) :
      Looks c after signal deadline s [(s.now, found.truth)] t
  | rests {s t u : Session σ} {found : Evaluation} {looked : List (Nat × Tri)}
      (ends : (c.eval signal).Ends s found t)
      (later : Looks c after signal deadline
        (afterSleep (after t) (c.pollRest deadline s.now)) looked u) :
      Looks c after signal deadline s ((s.now, found.truth) :: looked) u

open Live

variable {c : Caster σ} {node : SkillNode} {after : Session σ → Session σ} {signal : Condition}
  {truth : Nat → Tri} {I : Session σ → Prop} {w : Watch} {s t : Session σ} {found : Evaluation}
  {deadline : Nat} {observed : Bool} {phase : Phase}

theorem runFrom_succ (fuel : Nat) (phase : Phase) :
    c.runFrom after node (fuel + 1) phase s =
      c.resume after node fuel ((c.step node phase).run.run s) := by
  rw [runFrom, resume]
  rcases (c.step node phase).run.run s with ⟨crash | next, t⟩
  · rfl
  · cases next <;> rfl

theorem clock_of_eval (ends : (c.eval signal).Ends s found t) :
    t.now = s.now ∧ t.cancelled = s.cancelled := by
  obtain ⟨acts, result, does, _⟩ := acts_eval c.rig s c.catalogue signal
  obtain ⟨rfl, rfl⟩ := Prod.mk.inj (does.run.symm.trans ends)
  exact ⟨Act.now_applyAll .., Act.cancelled_applyAll ..⟩

theorem run_look (going : s.cancelled = false) (ends : (c.eval signal).Ends s found t) :
    (w.look c node signal deadline observed).run.run s =
      (w.judge c node signal deadline observed found).run.run t := by
  have asked : (w.look c node signal deadline observed).run.run s =
      (if s.cancelled then closeStopped node w.opened
      else c.eval signal >>= w.judge c node signal deadline observed).run.run s := rfl
  rw [asked, going, if_neg Bool.false_ne_true, run_bind, ends]

theorem run_judge (observed : Bool) (found : Evaluation) :
    (w.judge c node signal deadline observed found).run.run t =
      (if found.isTrue then w.seen c node
      else if deadline ≤ t.now then w.missed c node signal (observed || found.truth.isKnown)
      else pure (.sleep (c.pollRest deadline t.now)
        (w.phase signal deadline (observed || found.truth.isKnown)))).run.run t := by
  unfold Watch.judge
  split <;> rfl

/-- One look: it is the last one if it finds the signal true or time has run out. -/
theorem run_step_watch (going : s.cancelled = false) (ends : (c.eval signal).Ends s found t) :
    (c.step node (w.phase signal deadline observed)).run.run s =
      (holding (if found.isTrue then w.seen c node
      else if deadline ≤ s.now then w.missed c node signal (observed || found.truth.isKnown)
      else pure (.sleep (c.pollRest deadline s.now)
        (w.phase signal deadline (observed || found.truth.isKnown))))).run.run t := by
  rw [w.step_phase, run_holding, run_look going ends, run_judge, (clock_of_eval ends).1,
    ← run_holding]

/-- A look that finds the signal true is the last one. -/
theorem runFrom_of_true (going : s.cancelled = false) (ends : (c.eval signal).Ends s found t)
    (true_now : found.truth = .true) (fuel : Nat) :
    c.runFrom after node (fuel + 1) (w.phase signal deadline observed) s =
      c.resume after node fuel ((holding (w.seen c node)).run.run t) := by
  rw [runFrom_succ, run_step_watch going ends, if_pos (Evaluation.isTrue_iff.mpr true_now)]

/-- So is one at the deadline. -/
theorem runFrom_of_late (going : s.cancelled = false) (ends : (c.eval signal).Ends s found t)
    (not_true : found.truth ≠ .true) (late : deadline ≤ s.now) (fuel : Nat) :
    c.runFrom after node (fuel + 1) (w.phase signal deadline observed) s =
      c.resume after node fuel
        ((holding (w.missed c node signal (observed || found.truth.isKnown))).run.run t) := by
  rw [runFrom_succ, run_step_watch going ends, if_neg (mt Evaluation.isTrue_iff.mp not_true),
    if_pos late]

/-- After any other look there is a rest. -/
theorem runFrom_of_early (going : s.cancelled = false) (ends : (c.eval signal).Ends s found t)
    (not_true : found.truth ≠ .true) (early : s.now < deadline) (fuel : Nat) :
    c.runFrom after node (fuel + 1) (w.phase signal deadline observed) s =
      c.runFrom after node fuel (w.phase signal deadline (observed || found.truth.isKnown))
        (afterSleep (after t) (c.pollRest deadline s.now)) := by
  rw [runFrom_succ, run_step_watch going ends, if_neg (mt Evaluation.isTrue_iff.mp not_true),
    if_neg (Nat.not_le_of_lt early)]
  rfl

/-- What comes after the last look at the listed times. -/
def concluded (c : Caster σ) (node : SkillNode) (signal : Condition) (truth : Nat → Tri)
    (observed : Bool) (w : Watch) (times : List Nat) : Live σ Next :=
  if Signaled truth times then w.seen c node
  else w.missed c node signal (observed || decide (Answered truth times))

theorem concluded_of_signaled (signaled : Signaled truth times) :
    c.concluded node signal truth observed w times = w.seen c node :=
  if_pos signaled

theorem concluded_cons {time : Nat} (not_true : truth time ≠ .true) (rest : List Nat) :
    c.concluded node signal truth observed w (time :: rest) =
      c.concluded node signal truth (observed || (truth time).isKnown) w rest := by
  have known_eq : (truth time).isKnown = decide (truth time ≠ .unknown) := by
    cases truth time <;> rfl
  have answered_eq : decide (Answered truth (time :: rest)) =
      ((truth time).isKnown || decide (Answered truth rest)) := by
    rw [known_eq, ← Bool.decide_or, decide_eq_decide, answered_cons_iff]
  simp only [concluded, signaled_cons_iff, not_true, false_or, answered_eq, Bool.or_assoc]

/-- After a rest that is not disturbed just this time has passed. -/
theorem clock_of_rest (undisturbed : Undisturbed after) (going : s.cancelled = false)
    (ends : (c.eval signal).Ends s found t) (ms : Nat) :
    (afterSleep (after t) ms).now = s.now + ms ∧ (afterSleep (after t) ms).cancelled = false := by
  obtain ⟨now_eq, cancelled_eq⟩ := clock_of_eval ends
  have still_going : (after t).cancelled = false := by
    rw [undisturbed.cancelled, cancelled_eq, going]
  rw [afterSleep, still_going, if_neg Bool.false_ne_true, undisturbed.now, now_eq]
  exact ⟨rfl, rfl⟩

/-- A watch looks for its signal until it is true or time has run out, and at no other times. -/
theorem runFrom_watch (node : SkillNode) (undisturbed : Undisturbed after)
    (tells : c.Tells after signal truth I) (inv : I s) (going : s.cancelled = false) (w : Watch)
    (budget fuel : Nat) (observed : Bool) :
    let looked := untilTrue truth (lookTimes s.now budget c.interval)
    ∃ t, c.Looks after signal (s.now + budget) s (looked.map fun time => (time, truth time)) t ∧
      c.runFrom after node (fuel + looked.length) (w.phase signal (s.now + budget) observed) s =
        c.resume after node fuel
          ((holding (c.concluded node signal truth observed w looked)).run.run t) := by
  have positive : 0 < c.interval := Nat.lt_of_lt_of_le Nat.zero_lt_one (Nat.le_max_right ..)
  induction budget using Nat.strongRecOn generalizing s observed with
  | ind budget ih =>
      obtain ⟨found, t, ends, found_eq, later⟩ := tells.look s inv
      have last : c.Looks after signal (s.now + budget) s [(s.now, found.truth)] t := .last ends
      rw [found_eq] at last
      by_cases true_now : truth s.now = .true
      · obtain ⟨rest, times_eq⟩ := exists_lookTimes_eq_cons positive s.now budget
        have signaled : Signaled truth [s.now] := ⟨s.now, List.mem_singleton_self _, true_now⟩
        rw [times_eq, untilTrue, if_pos true_now]
        refine ⟨t, last, ?_⟩
        rw [concluded_of_signaled signaled]
        exact runFrom_of_true going ends (found_eq.trans true_now) fuel
      have not_true : found.truth ≠ .true := found_eq ▸ true_now
      rcases Nat.eq_zero_or_pos budget with rfl | left
      · have concluded_eq : c.concluded node signal truth observed w [s.now] =
            w.missed c node signal (observed || found.truth.isKnown) := by
          rw [concluded_cons true_now, found_eq]
          simp [concluded, Signaled, Answered]
        rw [lookTimes_zero positive, untilTrue, if_neg true_now]
        refine ⟨t, last, ?_⟩
        rw [untilTrue, concluded_eq]
        exact runFrom_of_late going ends not_true (Nat.le_of_eq (Nat.add_zero s.now)) fuel
      · -- What is left of the budget after the rest is that of a watch that begins then.
        have rest_eq : c.pollRest (s.now + budget) s.now = min c.interval budget := by
          rw [pollRest, Nat.add_sub_cancel_left, interval]
        obtain ⟨now_eq, still_going⟩ :=
          clock_of_rest undisturbed going ends (min c.interval budget)
        obtain ⟨u, looks, ran⟩ := ih (budget - min c.interval budget) (by omega)
          (later (min c.interval budget)) still_going (observed || found.truth.isKnown)
        have deadline_eq : s.now + min c.interval budget + (budget - min c.interval budget) =
            s.now + budget := by omega
        rw [now_eq, deadline_eq, ← rest_eq] at looks ran
        rw [lookTimes_of_pos left positive, untilTrue, if_neg true_now, ← rest_eq]
        refine ⟨u, ?_, ?_⟩
        · rw [List.map_cons, ← found_eq]
          exact .rests ends looks
        · rw [List.length_cons, ← Nat.add_assoc, concluded_cons true_now, ← found_eq,
            runFrom_of_early going ends not_true (by omega)]
          exact ran

/-! ## Screens that change with time -/

/-- What computations come to at a time that leave the clock, the store and the baselines
alone. -/
def atTime (now : Nat) : Postcondition (Live σ) where
  Holds P x := ∀ t, t.now = now → ∃ a t', x.Ends t a t' ∧ P a ∧ t'.now = now ∧
    t'.store = t.store ∧ t'.baselines = t.baselines
  pure holds t at_now := ⟨_, t, rfl, holds, at_now, rfl, rfl⟩
  bind first rest t at_now := by
    obtain ⟨a, u, ends, holds, still_now, store_eq, baselines_eq⟩ := first t at_now
    obtain ⟨b, v, later, holds, now_eq, store_eq', baselines_eq'⟩ := rest a holds u still_now
    exact ⟨b, v, ends_bind_iff.mpr ⟨a, u, ends, later⟩, holds, now_eq, store_eq'.trans store_eq,
      baselines_eq'.trans baselines_eq⟩

/-- What can be read at a time of a session in which the screen shows a picture. -/
def environment (picture : Nat → Spot → Observed Color) (s : Session σ) (now : Nat) :
    Environment :=
  ⟨picture now, ⟨some s.store.lookup, some s.baselines.lookup⟩⟩

variable {picture : Nat → Spot → Observed Color}

/-- A signal comes to what it means at the time. -/
theorem ends_of_picture
    (shows : ∀ spot now equipment, (c.rig.sample spot now equipment).1 = .ok (picture now spot))
    (signal : Condition) (t : Session σ) :
    ∃ found t', (c.eval signal).Ends t found t' ∧
      found.truth = (environment picture t t.now).truth c.catalogue signal ∧
      t'.store = t.store ∧ t'.baselines = t.baselines := by
  have samples (spot : Spot) :
      (atTime t.now).Holds (· = (environment picture t t.now).sample spot)
        (sample c.rig spot) := by
    intro u at_now
    have ends := run_sample c.rig spot u
    simp only [shows, at_now] at ends
    exact ⟨_, _, ends, rfl, rfl, rfl, rfl⟩
  have evaluates : (atTime t.now).Holds
      (· = (environment picture t t.now).eval c.catalogue signal)
      (signal.eval c.catalogue (sample c.rig) (environment picture t t.now).sources) :=
    Condition.holds_eval_eq (atTime t.now) samples signal
  obtain ⟨found, t', ends, rfl, _, store_eq, baselines_eq⟩ := evaluates t rfl
  exact ⟨_, t', ends, Condition.truth_eval .., store_eq, baselines_eq⟩

/-- If the screen shows a picture of the time, and others leave alone what the attempt has
recorded, every signal has the truth of the time. -/
theorem tells_of_picture
    (shows : ∀ spot now equipment, (c.rig.sample spot now equipment).1 = .ok (picture now spot))
    (kept : ∀ t, (after t).store = t.store ∧ (after t).baselines = t.baselines)
    (signal : Condition) (s : Session σ) :
    c.Tells after signal (fun now => (environment picture s now).truth c.catalogue signal)
      fun t => t.store = s.store ∧ t.baselines = s.baselines where
  look := by
    rintro t ⟨store_eq, baselines_eq⟩
    obtain ⟨found, t', ends, found_eq, store_eq', baselines_eq'⟩ := ends_of_picture shows signal t
    have same : environment picture t t.now = environment picture s t.now := by
      rw [environment, environment, store_eq, baselines_eq]
    refine ⟨found, t', ends, by rw [found_eq, same], fun ms => ?_⟩
    have rested : (afterSleep (after t') ms).store = (after t').store ∧
        (afterSleep (after t') ms).baselines = (after t').baselines := by
      unfold afterSleep
      split <;> exact ⟨rfl, rfl⟩
    rw [rested.1, rested.2, (kept t').1, (kept t').2, store_eq', baselines_eq']
    exact ⟨store_eq, baselines_eq⟩

/-! ## Verdicts -/

theorem clock_of_acts {α : Type} {x : Live σ α} {Q : List (Act σ) → Except Crash α → Prop}
    {a : α} (does : x.Acts c.rig s Q) (ends : x.Ends s a t) : t.now = s.now := by
  obtain ⟨acts, result, does, _⟩ := does
  obtain ⟨rfl, rfl⟩ := Prod.mk.inj (does.run.symm.trans ends)
  exact Act.now_applyAll ..

theorem clock_of_change {α : Type} {f : Store → Nat → Store.Change α} {a : α}
    (ends : (Live.change f).Ends s a t) : t.now = s.now := by
  cases ends
  rfl

/-- A step brings an attempt to wait for its completion. -/
def Reaches (c : Caster σ) (node : SkillNode) (phase : Phase) (s t : Session σ) : Prop :=
  phase.passed ≠ Stage.ordinary ∧ ∃ next later, (c.step node phase).Ends s next t ∧
    next.phase? = some later ∧ later.passed = Stage.ordinary

variable {opened : Opened} {next : Next} {later : Phase}

/-- The budget counts from when the action has started. -/
theorem completing_of_enterCasting (required : node.completion.policy ≠ .assumeSuccess)
    (given : node.completion.condition = some signal)
    (ends : (c.enterCasting node opened).Ends s next t) :
    next = .proceed
      (.completing opened signal (s.now + c.completionBudget node opened.skill) false) := by
  unfold enterCasting at ends
  obtain ⟨_, u, first, ends⟩ := ends_bind_iff.mp ends
  obtain ⟨_, v, second, ends⟩ := ends_bind_iff.mp ends
  rw [given] at ends
  split at ends
  · contradiction
  · contradiction
  · rename_i _ same _
    cases same
    replace ends := ends_session_bind_iff.mp ends
    obtain ⟨rfl, _⟩ := ends_pure_iff.mp ends
    rw [clock_of_change second, clock_of_change first]

theorem completing_of_launch (required : node.completion.policy ≠ .assumeSuccess)
    (given : node.completion.condition = some signal)
    (ends : (c.launch node opened).Ends s next t) (on : next.phase? = some later)
    (casting : later.passed = Stage.ordinary) :
    next = .proceed
      (.completing opened signal (s.now + c.completionBudget node opened.skill) false) := by
  unfold launch at ends
  replace ends := ends_session_bind_iff.mp ends
  split at ends
  · obtain ⟨_, rfl, _⟩ := finished_of_close ends
    contradiction
  split at ends
  · obtain ⟨_, rfl, _⟩ := finished_of_close ends
    contradiction
  obtain ⟨result, u, sent, ends⟩ := ends_bind_iff.mp ends
  cases result with
  | error e =>
      obtain ⟨_, _, _, ends⟩ := ends_bind_iff.mp ends
      obtain ⟨_, rfl, _⟩ := finished_of_close ends
      contradiction
  | ok _ =>
      obtain ⟨_, v, moved, ends⟩ := ends_bind_iff.mp ends
      split at ends
      · rw [completing_of_enterCasting required given ends, clock_of_change moved,
          clock_of_acts (acts_send _ _) sent]
      · replace ends := ends_session_bind_iff.mp ends
        obtain ⟨rfl, _⟩ := ends_pure_iff.mp ends
        cases on
        exact absurd casting (by simp [Phase.passed, Stage.ordinary])

theorem passed_of_pressAgain {key : Chord} {start : Condition} {retries : Nat}
    (ends : (c.pressAgain node opened key start retries).Ends s next t)
    (on : next.phase? = some later) : later.passed = [.preparing, .startWait] := by
  unfold pressAgain at ends
  split at ends
  · obtain ⟨_, rfl, _⟩ := finished_of_close ends
    contradiction
  obtain ⟨_, _, _, ends⟩ := ends_bind_iff.mp ends
  obtain ⟨result, _, _, ends⟩ := ends_bind_iff.mp ends
  cases result with
  | error e =>
      obtain ⟨_, rfl, _⟩ := finished_of_close ends
      contradiction
  | ok _ =>
      replace ends := ends_session_bind_iff.mp ends
      obtain ⟨rfl, _⟩ := ends_pure_iff.mp ends
      cases on
      rfl

theorem completing_of_awaitStart {key : Chord} {start : Condition} {retries : Nat}
    (required : node.completion.policy ≠ .assumeSuccess)
    (given : node.completion.condition = some signal)
    (ends : (c.awaitStart node opened key start deadline retries).Ends s next t)
    (on : next.phase? = some later) (casting : later.passed = Stage.ordinary) :
    next = .proceed
      (.completing opened signal (s.now + c.completionBudget node opened.skill) false) := by
  unfold awaitStart at ends
  replace ends := ends_session_bind_iff.mp ends
  split at ends
  · obtain ⟨_, rfl, _⟩ := finished_of_close ends
    contradiction
  obtain ⟨found, u, seen, ends⟩ := ends_bind_iff.mp ends
  split at ends
  · rw [completing_of_enterCasting required given ends, (clock_of_eval seen).1]
  · replace ends := ends_session_bind_iff.mp ends
    dsimp only at ends
    split at ends
    · rw [passed_of_pressAgain ends on] at casting
      contradiction
    · obtain ⟨rfl, _⟩ := ends_pure_iff.mp ends
      cases on
      exact absurd casting (by simp [Phase.passed, Stage.ordinary])

/-- A step that reaches the wait for the completion is one of an open attempt. -/
theorem Reaches.completing (reaches : c.Reaches node phase s t)
    (required : node.completion.policy ≠ .assumeSuccess)
    (given : node.completion.condition = some signal) :
    ∃ opened, phase.opened? = some opened ∧ (c.step node phase).Ends s (.proceed
      (.completing opened signal (s.now + c.completionBudget node opened.skill) false)) t := by
  obtain ⟨before, next, later, ends, on, casting⟩ := reaches
  cases phase with
  | opening | awaitingLock =>
      cases goes_of_step ends with
      | fails unsuccessful =>
          obtain ⟨_, rfl, _⟩ := unsuccessful
          contradiction
      | _ =>
          cases on
          exact absurd casting (by simp [Phase.passed, Stage.ordinary])
  | launching opened =>
      have same := completing_of_launch required given (ends_of_holding ends) on casting
      exact ⟨opened, rfl, same ▸ ends⟩
  | starting opened =>
      have same := completing_of_awaitStart required given (ends_of_holding ends) on casting
      exact ⟨opened, rfl, same ▸ ends⟩
  | resting | completing => contradiction

/-- How a node goes on whose completion has been seen or is assumed. -/
def completed (node : SkillNode) (opened : Opened) : Outcome :=
  ⟨.success, true, node.gapMs, some opened.attempt, none⟩

/-- How a node goes on whose completion has been missed. -/
def timedOut (node : SkillNode) (opened : Opened) : Outcome :=
  ⟨.failed, true, node.gapMs, some opened.attempt, some "completion_timeout"⟩

/-- A computation ends by closing the attempt, after which the node goes on like this. -/
def Ended (node : SkillNode) (opened : Opened) (stage : Stage) (outcome : Outcome)
    (x : Live σ Next) (s : Session σ) : Prop :=
  ∃ t u, (close node opened stage outcome.reason).Ends t (.finished outcome) u ∧
    x.Ends s (.finished outcome) u

/-- A run ends by closing the attempt, after which the node goes on like this. -/
def Closes (c : Caster σ) (after : Session σ → Session σ) (node : SkillNode) (fuel : Nat)
    (phase : Phase) (s : Session σ) (opened : Opened) (stage : Stage) (outcome : Outcome) : Prop :=
  ∃ t u, (close node opened stage outcome.reason).Ends t (.finished outcome) u ∧
    c.runFrom after node fuel phase s = (some (.ok outcome), after u)

theorem resume_of_ends {x : Live σ Next} {outcome : Outcome} {fuel : Nat}
    (ends : x.Ends s (.finished outcome) t) :
    c.resume after node fuel ((holding x).run.run s) = (some (.ok outcome), after t) := by
  rw [run_holding, ends]
  rfl

theorem ended_success (node : SkillNode) (opened : Opened) (s : Session σ) :
    Ended node opened .success (completed node opened) (close node opened .success none) s :=
  ⟨s, _, rfl, rfl⟩

theorem ended_timedOut (strict : node.completion.policy = .requireSignal ∨
      node.completion.policy = .hybridIfObservable ∧ observed = true) (s : Session σ) :
    Ended node opened .failed (timedOut node opened) (finishUnseen node opened observed) s := by
  rw [finishUnseen_eq, if_pos strict]
  exact ⟨s, _, rfl, rfl⟩

theorem ended_assumed (lenient : ¬(node.completion.policy = .requireSignal ∨
      node.completion.policy = .hybridIfObservable ∧ observed = true)) (s : Session σ) :
    Ended node opened .success (completed node opened) (finishUnseen node opened observed) s := by
  rw [finishUnseen_eq, if_neg lenient]
  exact ⟨_, _, rfl, rfl⟩

/-- A node that reaches the wait for its completion ends as its last look tells. -/
theorem closes_of_reaches (undisturbed : Undisturbed after)
    (tells : c.Tells after signal truth I) (reaches : c.Reaches node phase s t)
    (inv : I (after t)) (going : t.cancelled = false)
    (required : node.completion.policy ≠ .assumeSuccess)
    (given : node.completion.condition = some signal) :
    ∃ opened, phase.opened? = some opened ∧
      let times := lookTimes s.now (c.completionBudget node opened.skill) c.interval
      ∀ fuel, times.length < fuel → ∀ stage outcome,
        (∀ u, Ended node opened stage outcome
          (c.concluded node signal truth false (.completion opened) (untilTrue truth times)) u) →
        c.Closes after node fuel phase s opened stage outcome := by
  obtain ⟨opened, under_way, ends⟩ := reaches.completing required given
  have now_eq := clock_of_acts (acts_step (fits_of_opened under_way)) ends
  refine ⟨opened, under_way, ?_⟩
  intro times fuel enough stage outcome ended
  have clock_eq : (after t).now = s.now := (undisturbed.now t).trans now_eq
  obtain ⟨u, _, ran⟩ := runFrom_watch node undisturbed tells inv
    ((undisturbed.cancelled t).trans going) (.completion opened)
    (c.completionBudget node opened.skill) (fuel - 1 - (untilTrue truth times).length) false
  obtain ⟨v, v', closes, concludes⟩ := ended u
  have shorter := length_untilTrue_le truth times
  have fuel_eq : fuel = fuel - 1 - (untilTrue truth times).length +
      (untilTrue truth times).length + 1 := by omega
  refine ⟨v, v', closes, ?_⟩
  rw [clock_eq, resume_of_ends concludes] at ran
  rw [fuel_eq, runFrom_succ, ends]
  exact ran

/-- How a watch goes that begins in a session: it looks at each interval before the deadline
and at the deadline, until the signal is true; otherwise at all these times, and then it knows
whether any look was answered.  A signal that is true from some time on up to the deadline is
seen. -/
structure Watches (c : Caster σ) (after : Session σ → Session σ) (node : SkillNode)
    (signal : Condition) (truth : Nat → Tri) (w : Watch) (s : Session σ) (budget : Nat) :
    Prop where
  runs : ∀ fuel,
    let times := lookTimes s.now budget c.interval
    let looked := untilTrue truth times
    ∃ t, c.Looks after signal (s.now + budget) s (looked.map fun time => (time, truth time)) t ∧
      c.runFrom after node (fuel + looked.length) (w.phase signal (s.now + budget) false) s =
        c.resume after node fuel ((holding (if Signaled truth looked then w.seen c node
          else w.missed c node signal (decide (Answered truth times)))).run.run t)
  exhausts :
    let times := lookTimes s.now budget c.interval
    let looked := untilTrue truth times
    ¬Signaled truth looked → looked = times ∧
      looked.length = (budget + c.interval - 1) / c.interval + 1
  catches : ∀ since ≤ s.now + budget,
    (∀ time, since ≤ time → time ≤ s.now + budget → truth time = .true) →
      Signaled truth (untilTrue truth (lookTimes s.now budget c.interval))

theorem watches (undisturbed : Undisturbed after) (tells : c.Tells after signal truth I)
    (inv : I s) (going : s.cancelled = false) (w : Watch) (budget : Nat) :
    c.Watches after node signal truth w s budget where
  runs := by
    intro fuel times looked
    obtain ⟨t, looks, ran⟩ :=
      runFrom_watch node undisturbed tells inv going w budget fuel false
    have concluded_eq : c.concluded node signal truth false w looked =
        if Signaled truth looked then w.seen c node
        else w.missed c node signal (decide (Answered truth times)) := by
      rw [concluded, Bool.false_or]
      by_cases signaled : Signaled truth looked
      · rw [if_pos signaled, if_pos signaled]
      · have never : ¬Signaled truth times := fun holds =>
          signaled (signaled_untilTrue_iff.mpr holds)
        rw [if_neg signaled, if_neg signaled, ← untilTrue_of_not_signaled never]
    refine ⟨t, looks, ?_⟩
    rw [← concluded_eq]
    exact ran
  exhausts := by
    intro times looked unseen
    have looked_eq : looked = times :=
      untilTrue_of_not_signaled fun holds => unseen (signaled_untilTrue_iff.mpr holds)
    rw [looked_eq, length_lookTimes]
    exact ⟨rfl, rfl⟩
  catches := by
    intro since early holds
    have last := holds (s.now + budget) early (Nat.le_refl _)
    exact signaled_untilTrue_iff.mpr ⟨_, mem_lookTimes_deadline _ _ _, last⟩

/-- How a run ends that looks for a completion at these times: the attempt succeeds if the
signal is true at one of them; if not, it fails if the node requires the signal, or if it
does so as far as the signal can be known and this was known, and succeeds otherwise. -/
structure Settles (c : Caster σ) (after : Session σ → Session σ) (node : SkillNode)
    (truth : Nat → Tri) (times : List Nat) (fuel : Nat) (phase : Phase) (s : Session σ)
    (opened : Opened) : Prop where
  seen : Signaled truth times →
    c.Closes after node fuel phase s opened .success (completed node opened)
  required : ¬Signaled truth times → node.completion.policy = .requireSignal →
    c.Closes after node fuel phase s opened .failed (timedOut node opened)
  hybrid : ¬Signaled truth times → node.completion.policy = .hybrid →
    c.Closes after node fuel phase s opened .success (completed node opened)
  observable : ¬Signaled truth times → node.completion.policy = .hybridIfObservable →
    Answered truth times → c.Closes after node fuel phase s opened .failed (timedOut node opened)
  unobservable : ¬Signaled truth times → node.completion.policy = .hybridIfObservable →
    ¬Answered truth times →
      c.Closes after node fuel phase s opened .success (completed node opened)

theorem settles_of_reaches (undisturbed : Undisturbed after)
    (tells : c.Tells after signal truth I) (reaches : c.Reaches node phase s t)
    (inv : I (after t)) (going : t.cancelled = false)
    (required : node.completion.policy ≠ .assumeSuccess)
    (given : node.completion.condition = some signal) :
    ∃ opened, phase.opened? = some opened ∧
      let times := lookTimes s.now (c.completionBudget node opened.skill) c.interval
      ∀ fuel, times.length < fuel → c.Settles after node truth times fuel phase s opened := by
  obtain ⟨opened, under_way, closes⟩ :=
    closes_of_reaches undisturbed tells reaches inv going required given
  refine ⟨opened, under_way, ?_⟩
  intro times fuel enough
  have unseen {observed : Bool} (never : ¬Signaled truth times)
      (same : observed = decide (Answered truth times)) :
      c.concluded node signal truth false (.completion opened) (untilTrue truth times) =
        finishUnseen node opened observed := by
    rw [untilTrue_of_not_signaled never, concluded, if_neg never, Bool.false_or, same]
    rfl
  refine ⟨?_, ?_, ?_, ?_, ?_⟩
  · refine fun signaled => closes fuel enough _ _ fun u => ?_
    rw [concluded_of_signaled (signaled_untilTrue_iff.mpr signaled)]
    exact ended_success node opened u
  · refine fun never strict => closes fuel enough _ _ fun u => ?_
    rw [unseen never rfl]
    exact ended_timedOut (.inl strict) u
  · refine fun never lenient => closes fuel enough _ _ fun u => ?_
    rw [unseen never rfl]
    exact ended_assumed (by simp [lenient]) u
  · refine fun never watchful answered => closes fuel enough _ _ fun u => ?_
    rw [unseen never rfl]
    exact ended_timedOut (.inr ⟨watchful, decide_eq_true answered⟩) u
  · refine fun never watchful unanswered => closes fuel enough _ _ fun u => ?_
    rw [unseen never rfl]
    exact ended_assumed (by simp [watchful, unanswered]) u

/-- Every watch goes by these times, and a node that reaches the wait for its completion ends
as its looks tell. -/
theorem watches_and_concludes (undisturbed : Undisturbed after)
    (tells : c.Tells after signal truth I) :
    (∀ (w : Watch) (s : Session σ) (budget : Nat), I s → s.cancelled = false →
      c.Watches after node signal truth w s budget) ∧
    ∀ phase s t, c.Reaches node phase s t → I (after t) → t.cancelled = false →
      node.completion.policy ≠ .assumeSuccess → node.completion.condition = some signal →
      ∃ opened, phase.opened? = some opened ∧
        let times := lookTimes s.now (c.completionBudget node opened.skill) c.interval
        ∀ fuel, times.length < fuel → c.Settles after node truth times fuel phase s opened :=
  ⟨fun w _ budget inv going => watches undisturbed tells inv going w budget,
    fun _ _ _ reaches inv going required given =>
      settles_of_reaches undisturbed tells reaches inv going required given⟩

/-! ## A lamplighter -/

/-- One who lights a lamp, which is seen to burn three milliseconds after the start of the
clock. -/
def lamplighter : Caster Unit where
  catalogue := Condition.lampCatalogue.addSkill
    { Skill.named "light" with key := some "1", castMs := 10 }
  rig := {
    sample := fun _ now equipment =>
      (.ok (.ok (if 3 ≤ now then ⟨255, 255, 255⟩ else ⟨0, 0, 0⟩)), [], equipment)
    press := fun _ equipment => (.ok (.ok ()), equipment) }
  settings := { EngineSettings.standard with pollMs := 3 }

/-- The lamp has to be lit. -/
def lighting : SkillNode :=
  { id := "light", skill := "light", step := 0, gapMs := 5
    ready := .const true
    start := ⟨.none, none, 0, 0⟩
    completion := ⟨.requireSignal, some (.pointShows "lamp" none), 1⟩
    lock := .standard }

/-- The attempt at lighting the lamp. -/
def lightingAttempt : Opened :=
  ⟨"1", { Skill.named "light" with key := some "1", castMs := 10 }⟩

/-- What the lamplighter sees of the screen. -/
def lampPicture (now : Nat) (_ : Spot) : Observed Color :=
  .ok (if 3 ≤ now then ⟨255, 255, 255⟩ else ⟨0, 0, 0⟩)

theorem truth_of_lamp (s : Session Unit) (now : Nat) :
    (environment lampPicture s now).truth lamplighter.catalogue (.pointShows "lamp" none) =
      if 3 ≤ now then .true else .false := by
  by_cases late : 3 ≤ now
  · have lit (spot : Spot) : (environment lampPicture s now).sample spot =
        .ok ⟨255, 255, 255⟩ := congrArg Except.ok (if_pos late)
    simp only [Environment.truth, Environment.read, lit, if_pos late]
    rfl
  · have dark (spot : Spot) : (environment lampPicture s now).sample spot =
        .ok ⟨0, 0, 0⟩ := congrArg Except.ok (if_neg late)
    simp only [Environment.truth, Environment.read, dark, if_neg late]
    rfl

/-- The lamp is looked for at the start and three milliseconds later, and then the attempt
succeeds. -/
theorem lamp_is_seen_to_burn :
    ∃ t u fuel, lamplighter.Reaches lighting (.launching lightingAttempt) .quiet t ∧
      lamplighter.Looks (fun s => s) (.pointShows "lamp" none) 4 t [(0, .false), (3, .true)] u ∧
      lamplighter.Closes (fun s => s) lighting fuel (.launching lightingAttempt) .quiet
        lightingAttempt .success (completed lighting lightingAttempt) := by
  have reached : ∃ t, lamplighter.Reaches lighting (.launching lightingAttempt) .quiet t ∧
      t.now = 0 ∧ t.cancelled = false :=
    ⟨_, ⟨by decide, _, _, rfl, rfl, rfl⟩, rfl, rfl⟩
  obtain ⟨t, reaches, now_eq, going⟩ := reached
  have undisturbed : Undisturbed (fun s : Session Unit => s) := ⟨fun _ => rfl, fun _ => rfl⟩
  have told : lamplighter.Tells (fun s => s) (.pointShows "lamp" none)
      (fun now => (environment lampPicture t now).truth lamplighter.catalogue
        (.pointShows "lamp" none))
      (fun u => u.store = t.store ∧ u.baselines = t.baselines) :=
    tells_of_picture (fun _ _ _ => rfl) (fun _ => ⟨rfl, rfl⟩) (.pointShows "lamp" none) t
  simp only [truth_of_lamp] at told
  obtain ⟨watched, concluded⟩ := @watches_and_concludes _ _ lighting _ _ _ _ undisturbed told
  obtain ⟨u, looks, _⟩ := (watched (.completion lightingAttempt) t 4 ⟨rfl, rfl⟩ going).runs 0
  obtain ⟨opened, own, ends⟩ := concluded _ _ _ reaches ⟨rfl, rfl⟩ going (by decide) rfl
  cases own
  refine ⟨t, u, _, reaches, ?_, (ends _ (Nat.lt_succ_self _)).seen ?_⟩
  · rw [now_eq] at looks
    exact looks
  · -- The budget is not less than the interval, so the lamp burns at the deadline.
    refine ⟨_, mem_lookTimes_deadline _ _ _, if_pos ?_⟩
    exact Nat.le_trans (Nat.le_max_right _ _) (Nat.le_add_left _ _)

end Caster

end Cast

end Rotation
