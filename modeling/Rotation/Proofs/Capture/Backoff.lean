import Mathlib.Algebra.Order.Ring.Nat
import Mathlib.Tactic.Ring
import Rotation.Capture.Manager
import Rotation.Proofs.Capture.Rounds
import Rotation.Proofs.Condition.Evaluation
import Rotation.Proofs.Order.Table
import Rotation.Word.Checked

/-!
# Back-off between rounds

A failed round opens a window in which nothing is grabbed: each further failure
in a row makes it longer, and a success closes the account.  What keeps the
window shut is that no snapshot can become fresh again by itself: the one that
was too old when the round began only grows older, and a change of the plan
drops it.

How long the window is is computed in words: the shift gives up where its result
is no word, and the product is cut off at the largest one.  Neither can be seen
in the result, because the cap is a word too and is reached before anything else
cuts off.  So waiting times can be reasoned about as numbers without bounds,
which double with each failure until the cap is reached.
-/

namespace Rotation.Backoff

variable {failures more base higher cap cap' : Nat}

/-- The waiting time if numbers had no bound: the base after the first failure, twice as long
after each further one, up to a cap. -/
def ideal (failures base cap : Nat) : Nat :=
  match failures with
  | 0 => 0
  | further + 1 => min cap (base * 2 ^ further)

theorem ideal_eq (failures base cap : Nat) :
    ideal failures base cap = if failures = 0 then 0 else min cap (base * 2 ^ (failures - 1)) := by
  cases failures <;> rfl

/-! ## Words -/

/-- A product is cut off behind the cap only. -/
theorem min_saturatingMul (word : Unsigned.Fits 64 cap) (a b : Nat) :
    min (saturatingMul a b) cap = min cap (a * b) := by
  have below : cap ≤ UInt64.size - 1 := Nat.le_sub_one_of_lt word
  rw [saturatingMul, Nat.min_assoc, Nat.min_eq_right below, Nat.min_comm]

/-- A shift that gives up has passed the cap, unless nothing is multiplied. -/
theorem min_mul_factor (word : Unsigned.Fits 64 cap) (base shift : Nat) :
    min cap (base * factor shift) = min cap (base * 2 ^ shift) := by
  unfold factor
  split
  · rfl
  · rename_i large
    have below : cap ≤ UInt64.size - 1 := Nat.le_sub_one_of_lt word
    have power_large : UInt64.size - 1 ≤ 2 ^ shift :=
      calc UInt64.size - 1 ≤ 2 ^ 64 := Nat.sub_le _ 1
        _ ≤ 2 ^ shift := Nat.pow_le_pow_right Nat.two_pos (Nat.le_of_not_lt large)
    rcases Nat.eq_zero_or_pos base with rfl | positive
    · rw [Nat.zero_mul, Nat.zero_mul]
    · have reaches {n : Nat} (large : UInt64.size - 1 ≤ n) : cap ≤ base * n :=
        (below.trans large).trans (Nat.le_mul_of_pos_left n positive)
      rw [Nat.min_eq_left (reaches (Nat.le_refl _)), Nat.min_eq_left (reaches power_large)]

/-- The computed waiting time is the one without bounds. -/
theorem delay_eq_ideal (word : Unsigned.Fits 64 cap) (failures base : Nat) :
    delay failures base cap = ideal failures base cap := by
  cases failures with
  | zero => rfl
  | succ further =>
      rw [delay, if_neg (Nat.succ_ne_zero further), min_saturatingMul word, min_mul_factor word]
      rfl

/-! ## Growth -/

theorem ideal_le_cap (failures base cap : Nat) : ideal failures base cap ≤ cap := by
  cases failures with
  | zero => exact Nat.zero_le cap
  | succ further => exact Nat.min_le_left _ _

theorem ideal_mono (failures_le : failures ≤ more) (base_le : base ≤ higher)
    (cap_le : cap ≤ cap') : ideal failures base cap ≤ ideal more higher cap' := by
  cases failures with
  | zero => exact Nat.zero_le _
  | succ further =>
      obtain ⟨others, rfl⟩ : ∃ others, more = others + 1 :=
        Nat.exists_eq_add_one.mpr (Nat.zero_lt_of_lt failures_le)
      have power_le : 2 ^ further ≤ 2 ^ others :=
        Nat.pow_le_pow_right Nat.two_pos (Nat.le_of_succ_le_succ failures_le)
      exact min_le_min cap_le (Nat.mul_le_mul base_le power_le)

/-- After the first failure, each further one doubles the waiting time up to the cap. -/
theorem ideal_succ (failed : failures ≠ 0) (base cap : Nat) :
    ideal (failures + 1) base cap = min cap (2 * ideal failures base cap) := by
  obtain ⟨further, rfl⟩ := Nat.exists_eq_succ_of_ne_zero failed
  have doubled : base * 2 ^ (further + 1) = 2 * (base * 2 ^ further) := by ring
  dsimp only [ideal, Nat.succ_eq_add_one]
  omega

/-- Waiting times are exact whenever the cap is a word.  Without a failure there is nothing to
wait for; after some failures the waiting time is the base times a power of two, as a number
without bounds, or the cap if that is less.  So it is at most the cap, it grows with the
failures, with the base and with the cap, and from the first failure on each further one
doubles it until it is at the cap, where it stays. -/
theorem delay_is_exact (word : Unsigned.Fits 64 cap) (failures base : Nat) :
    delay failures base cap =
        (if failures = 0 then 0 else min cap (base * 2 ^ (failures - 1))) ∧
      delay failures base cap ≤ cap ∧
      (∀ more, failures ≤ more → delay failures base cap ≤ delay more base cap) ∧
      (∀ higher, base ≤ higher → delay failures base cap ≤ delay failures higher cap) ∧
      (∀ cap', Unsigned.Fits 64 cap' → cap ≤ cap' →
        delay failures base cap ≤ delay failures base cap') ∧
      (failures ≠ 0 →
        delay (failures + 1) base cap = min cap (2 * delay failures base cap)) := by
  simp only [delay_eq_ideal word]
  refine ⟨ideal_eq _ _ _, ideal_le_cap _ _ _, ?_, ?_, ?_, fun failed => ideal_succ failed _ _⟩
  · intro more failures_le
    exact ideal_mono failures_le (Nat.le_refl _) (Nat.le_refl _)
  · intro higher base_le
    exact ideal_mono (Nat.le_refl _) base_le (Nat.le_refl _)
  · intro cap' word' cap_le
    rw [delay_eq_ideal word']
    exact ideal_mono (Nat.le_refl _) (Nat.le_refl _) cap_le

/-- Under the greatest cap the last shift gives a word, and the next one gives up and is cut
off, just short of twice as much. -/
theorem delay_reaches_greatest_cap :
    Unsigned.Fits 64 (2 ^ 64 - 1) ∧ Unsigned.Fits 64 2000 ∧
      delay 64 1 (2 ^ 64 - 1) = 2 ^ 63 ∧
      delay 65 1 (2 ^ 64 - 1) = min (2 ^ 64 - 1) (2 * delay 64 1 (2 ^ 64 - 1)) ∧
      delay 65 1 (2 ^ 64 - 1) = 2 ^ 64 - 1 ∧
      delay 64 1 (2 ^ 64 - 1) ≤ delay 65 1 (2 ^ 64 - 1) ∧
      delay 3 50 2000 ≤ delay 3 80 2000 ∧ delay 9 50 2000 ≤ delay 9 50 (2 ^ 64 - 1) := by
  have word : Unsigned.Fits 64 (2 ^ 64 - 1) := by decide
  have small : Unsigned.Fits 64 2000 := by decide
  obtain ⟨last_eq, _, grows, _, _, doubles⟩ := delay_is_exact word 64 1
  obtain ⟨next_eq, _⟩ := delay_is_exact word 65 1
  obtain ⟨_, _, _, grows_with_base, _⟩ := delay_is_exact small 3 50
  obtain ⟨_, _, _, _, grows_with_cap, _⟩ := delay_is_exact small 9 50
  exact ⟨word, small, last_eq, doubles (by decide), next_eq, grows 65 (by decide),
    grows_with_base 80 (by decide), grows_with_cap _ word (by decide)⟩

end Rotation.Backoff

namespace Rotation.Capture

/-! ## Histories -/

/-- What a call has done with the screen: nothing, or a round of grabs that has
failed or succeeded, or one that has broken down. -/
inductive Turn where
  | quiet
  | failed
  | succeeded
  | faulted
  deriving DecidableEq

/-- What a snapshot with certain grabs has done with the screen. -/
def Turn.of (grabs : List Grab) (observed : Observed Snapshot) : Turn :=
  if grabs.isEmpty then .quiet
  else
    match observed with
    | .ok _ => .succeeded
    | .error _ => .failed

/-- Calls at a time.  Any screens may be there when the requirements change, and
a snapshot may be made of any source in any state; a call that faults changes
nothing. -/
inductive Calls (catalogue : Catalogue) (now : Nat) (c : Capture) : Turn → Capture → Prop
  | updates (screens : List Screen) (requirements : Requirements) {changed : Bool}
      {events : List Event} {c' : Capture}
      (done : c.updateRequirements catalogue screens requirements = .ok (changed, events, c')) :
      Calls catalogue now c .quiet c'
  | updateFaults (screens : List Screen) (requirements : Requirements) {fault : Fault}
      (failed : c.updateRequirements catalogue screens requirements = .error fault) :
      Calls catalogue now c .quiet c
  | invalidates : Calls catalogue now c .quiet c.invalidate
  | looks {σ : Type} (source : ScreenSource σ) (state : σ) {observed : Observed Snapshot}
      {events : List Event} {c' : Capture} {state' : σ}
      (done : c.snapshot source state now = .ok (observed, events, c', state')) :
      Calls catalogue now c (.of (c.grabs source state now) observed) c'
  | lookFaults {σ : Type} (source : ScreenSource σ) (state : σ) {fault : Fault}
      (failed : c.snapshot source state now = .error fault) : Calls catalogue now c .faulted c

/-- Calls one after the other, with their times. -/
inductive Runs (catalogue : Catalogue) (c : Capture) : List (Nat × Turn) → Capture → Prop
  | nil : Runs catalogue c [] c
  | call {history : List (Nat × Turn)} {before after : Capture} {now : Nat} {turn : Turn}
      (runs : Runs catalogue c history before) (calls : Calls catalogue now before turn after) :
      Runs catalogue c (history ++ [(now, turn)]) after

/-- How many rounds have failed since one has succeeded. -/
def failedRounds (history : List (Nat × Turn)) : Nat :=
  tallySince (fun call => call.2 == .succeeded) (fun call => call.2 == .failed) history

/-- Grabs of a plan that stop at the first region that is refused. -/
def StopsEarly (c : Capture) (grabs : List Grab) : Prop :=
  ∃ before region after, c.plan.regions = before ++ region :: after ∧
    grabs = (before.map fun r => r.grab true) ++ [region.grab false]

variable {σ : Type} {catalogue : Catalogue} {settings : CaptureSettings} {c c' : Capture}
  {source : ScreenSource σ} {state state' : σ} {now : Nat} {turn : Turn}
  {history : List (Nat × Turn)} {observed : Observed Snapshot} {events : List Event}

/-! ## Old snapshots -/

/-- A snapshot that is not fresh does not become so. -/
theorem cached?_eq_none_of_le (stale : c.cached? now = none) {time : Nat} (later : now ≤ time) :
    c.cached? time = none := by
  unfold cached? at stale ⊢
  rw [Option.filter_eq_none_iff] at stale ⊢
  intro s kept fresh
  apply stale s kept
  simp only [Bool.and_eq_true, decide_eq_true_eq] at fresh ⊢
  exact ⟨by omega, fresh.2⟩

/-- New requirements keep what is known about failures, and do not make a
snapshot fresh. -/
theorem updateRequirements_cases {screens : List Screen} {requirements : Requirements}
    {changed : Bool}
    (done : c.updateRequirements catalogue screens requirements = .ok (changed, events, c')) :
    c'.settings = c.settings ∧ c'.failures = c.failures ∧ c'.backoffUntil = c.backoffUntil ∧
      ∀ time, c.cached? time = none → c'.cached? time = none := by
  unfold updateRequirements at done
  split at done
  · obtain ⟨plan, _, same⟩ := Checked.bind_eq_ok_iff.mp done
    cases same
    exact ⟨rfl, rfl, rfl, fun _ _ => rfl⟩
  · cases done
    exact ⟨rfl, rfl, rfl, fun _ stale => stale⟩

/-! ## Windows -/

/-- Nothing is grabbed in a window: no snapshot is fresh from its beginning on,
and tries have to wait until its end. -/
structure Waits (c : Capture) (since until_ : Nat) : Prop where
  stale : ∀ time, since ≤ time → c.cached? time = none
  backoffUntil : c.backoffUntil = some until_

variable {since until_ : Nat}

theorem Waits.isBackingOff (waits : c.Waits since until_) (before : now < until_) :
    c.isBackingOff now = true := by
  simp [Capture.isBackingOff, waits.backoffUntil, before]

/-- In a window any source is left alone. -/
theorem Waits.snapshot (waits : c.Waits since until_) (after : since ≤ now)
    (before : now < until_) (source : ScreenSource σ) (state : σ) :
    c.grabs source state now = [] ∧ ∃ u, u.code = "capture_backoff" ∧
      c.snapshot source state now = .ok (.error u, [], c, state) := by
  have waiting : ∀ {τ : Type} (source : ScreenSource τ) (state : τ), _ :=
    snapshot_of_isBackingOff (waits.stale now after) (waits.isBackingOff before)
  refine ⟨?_, _, rfl, waiting source state⟩
  rw [grabs, waiting]

/-- No call in a window grabs anything or leads out of it. -/
theorem Waits.calls (waits : c.Waits since until_) (after : since ≤ now) (before : now < until_)
    (calls : Calls catalogue now c turn c') : turn = .quiet ∧ c'.Waits since until_ := by
  cases calls with
  | updates screens requirements done =>
      obtain ⟨_, _, until_eq, stale⟩ := updateRequirements_cases done
      exact ⟨rfl, fun time later => stale time (waits.stale time later),
        until_eq.trans waits.backoffUntil⟩
  | updateFaults => exact ⟨rfl, waits⟩
  | invalidates => exact ⟨rfl, fun _ _ => rfl, waits.backoffUntil⟩
  | looks source state done =>
      obtain ⟨silent, u, _, waiting⟩ := waits.snapshot after before source state
      cases waiting.symm.trans done
      rw [silent]
      exact ⟨rfl, waits⟩
  | lookFaults source state failed =>
      obtain ⟨_, u, _, waiting⟩ := waits.snapshot after before source state
      cases waiting.symm.trans failed

theorem Waits.runs (waits : c.Waits since until_) (runs : Runs catalogue c history c')
    (within : ∀ call ∈ history, since ≤ call.1 ∧ call.1 < until_) :
    (∀ call ∈ history, call.2 = .quiet) ∧ c'.Waits since until_ := by
  induction runs with
  | nil => exact ⟨by simp, waits⟩
  | @call history before after now turn runs calls ih =>
      simp only [List.forall_mem_append, List.forall_mem_singleton] at within ⊢
      obtain ⟨quiet, waits⟩ := ih within.1
      obtain ⟨own_quiet, waits⟩ := waits.calls within.2.1 within.2.2 calls
      exact ⟨⟨quiet, own_quiet⟩, waits⟩

/-- A failed round opens a window. -/
theorem waits_recordFailure (stale : c.cached? now = none) (e : GrabError) :
    (c.recordFailure e now).2.2.Waits now (now + (c.recordFailure e now).2.2.backoffMs) where
  stale _ later := cached?_eq_none_of_le (c := c) stale later
  backoffUntil := rfl

/-! ## Rounds -/

/-- A failed round has stopped at the first region that could not be grabbed. -/
theorem failed_of_snapshot (done : c.snapshot source state now = .ok (observed, events, c', state'))
    (failed : Turn.of (c.grabs source state now) observed = .failed) :
    c.StopsEarly (c.grabs source state now) ∧ c'.failures = min (c.failures + 1) (UInt32.size - 1) ∧
      c'.Waits now (now + c'.backoffMs) := by
  cases turns_of_snapshot done with
  | reuses cached silent | waits uncached backing silent | idles uncached free silent =>
      rw [silent] at failed
      contradiction
  | fails e uncached free regions_eq grabs_eq =>
      exact ⟨⟨_, _, _, regions_eq, grabs_eq⟩, rfl, waits_recordFailure uncached e⟩
  | succeeds frames uncached free nonempty grabs_eq =>
      unfold Turn.of at failed
      split at failed <;> contradiction

/-- A round that has succeeded settles the account. -/
theorem succeeded_of_snapshot
    (done : c.snapshot source state now = .ok (observed, events, c', state'))
    (succeeded : Turn.of (c.grabs source state now) observed = .succeeded) :
    c'.failures = 0 ∧ c'.backoffUntil = none ∧
      events = if 0 < c.failures then [.captureRecovered c.failures] else [] := by
  cases turns_of_snapshot done with
  | reuses cached silent | waits uncached backing silent | idles uncached free silent =>
      rw [silent] at succeeded
      contradiction
  | fails e uncached free regions_eq grabs_eq =>
      unfold Turn.of at succeeded
      split at succeeded <;> contradiction
  | succeeds frames uncached free nonempty grabs_eq => exact ⟨rfl, rfl, rfl⟩

/-- Without a round everything stays as it is. -/
theorem eq_of_snapshot_of_quiet
    (done : c.snapshot source state now = .ok (observed, events, c', state'))
    (quiet : Turn.of (c.grabs source state now) observed = .quiet) : c' = c := by
  cases turns_of_snapshot done with
  | reuses | waits | idles => rfl
  | fails e uncached free regions_eq grabs_eq =>
      simp [Turn.of, grabs_eq] at quiet
  | succeeds frames uncached free nonempty grabs_eq =>
      simp [Turn.of, grabs_eq, nonempty] at quiet

/-! ## Accounts of failures -/

/-- Failures are counted as the history tells. -/
structure Accounts (settings : CaptureSettings) (c : Capture) (history : List (Nat × Turn)) :
    Prop where
  settings : c.settings = settings
  failures : c.failures = min (failedRounds history) (UInt32.size - 1)

theorem settings_of_snapshot
    (done : c.snapshot source state now = .ok (observed, events, c', state')) :
    c'.settings = c.settings := by
  cases turns_of_snapshot done <;> rfl

theorem failedRounds_concat (history : List (Nat × Turn)) (now : Nat) (turn : Turn) :
    failedRounds (history ++ [(now, turn)]) =
      if turn = .succeeded then 0
      else failedRounds history + if turn = .failed then 1 else 0 := by
  rw [failedRounds, tallySince_concat]
  cases turn <;> rfl

theorem Accounts.calls (accounts : Accounts settings c history)
    (calls : Calls catalogue now c turn c') : Accounts settings c' (history ++ [(now, turn)]) := by
  have quiet : failedRounds (history ++ [(now, .quiet)]) = failedRounds history :=
    failedRounds_concat history now .quiet
  cases calls with
  | updates screens requirements done =>
      obtain ⟨settings_eq, failures_eq, _⟩ := updateRequirements_cases done
      exact ⟨settings_eq.trans accounts.settings,
        by rw [quiet, failures_eq, accounts.failures]⟩
  | updateFaults | invalidates =>
      exact ⟨accounts.settings, quiet.symm ▸ accounts.failures⟩
  | lookFaults source state failed =>
      exact ⟨accounts.settings, by rw [failedRounds_concat]; exact accounts.failures⟩
  | @looks σ source state observed events _ state' done =>
      refine ⟨(settings_of_snapshot done).trans accounts.settings, ?_⟩
      rw [failedRounds_concat]
      cases turn_eq : Turn.of (c.grabs source state now) observed with
      | quiet =>
          rw [eq_of_snapshot_of_quiet done turn_eq]
          exact accounts.failures
      | failed =>
          rw [(failed_of_snapshot done turn_eq).2.1, accounts.failures]
          simp only [reduceCtorEq, if_false, if_true]
          omega
      | succeeded =>
          rw [(succeeded_of_snapshot done turn_eq).1]
          rfl
      | faulted =>
          unfold Turn.of at turn_eq
          split at turn_eq
          · contradiction
          · split at turn_eq <;> contradiction

theorem Runs.accounts (runs : Runs catalogue (start settings) history c) :
    Accounts settings c history := by
  induction runs with
  | nil => exact ⟨rfl, rfl⟩
  | call _ calls ih => exact ih.calls calls

end Rotation.Capture
