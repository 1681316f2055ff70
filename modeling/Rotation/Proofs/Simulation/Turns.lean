import Rotation.Proofs.Simulation.Course

/-!
# The loop of a simulation

A simulation goes round a loop: it waits until a node is due, runs the node and
looks again.  Simulated time may stand still for ever, so it is not time that
ends the loop.  What grows with every turn is the timeline: each node that runs
tells of itself at least once, and at most three times, whatever it is.

`Steps` says once all that a step can do.  `Loops` is the loop without a limit
on its turns; it comes to the same result as the simulation, after the same
number of nodes.
-/

namespace Rotation

/-- A candidate stands for the node that is found for it. -/
theorem Schedule.Fits.standsFor {s : Schedule} {p : Preset} (fits : s.Fits p) {c : Candidate}
    (mem : c ∈ s.candidates) {n : Node} (found : p.node? c = some n) : p.StandsFor c n := by
  obtain ⟨own, track, there, at_node, named⟩ := fits.exists_standsFor mem
  rw [Preset.node?, there, Option.bind_some] at found
  exact ⟨track, there, found, named⟩

theorem Preset.mem_tracks_of_track? {p : Preset} {place : Place} {track : Track}
    (there : p.track? place = some track) : track ∈ p.tracks := by
  cases place with
  | global i => exact List.mem_append_left _ (List.mem_of_getElem? there)
  | mode m t =>
      obtain ⟨mode, found, track_found⟩ := track?_mode_eq_some_iff.mp there
      exact List.mem_append_right _ (List.mem_flatMap.mpr
        ⟨mode, List.mem_of_getElem? found, List.mem_of_getElem? track_found⟩)

namespace Simulation

/-- How long a gateway makes its track wait. -/
def Options.delayOf (options : Options) (gateway : Gateway) : Nat :=
  gateway.gapMs.getD options.gatewayDelayMs

namespace State

section

variable (s : State) (c : Candidate)

@[simp]
theorem now_record (node : String) (skill : Option String) (outcome : Outcome)
    (reason : Option String) : (s.record c node skill outcome reason).now = s.now :=
  rfl

@[simp]
theorem now_recordLoop (looped : Option String) : (s.recordLoop c looped).now = s.now := by
  cases looped <;> rfl

@[simp]
theorem now_resetMetrics (gateway : Gateway) : (s.resetMetrics gateway).now = s.now := by
  unfold resetMetrics
  split <;> rfl

@[simp]
theorem timeline_resetMetrics (gateway : Gateway) :
    (s.resetMetrics gateway).timeline = s.timeline := by
  unfold resetMetrics
  split <;> rfl

end

variable {p : Preset} {catalogue : Catalogue} {options : Options} {s s' s'' : State}
  {c : Candidate} {ending : Option End}

/-! ## What a step can do -/

/-- A gateway has fired: its metrics are reset, the schedule is what it has made
of it, and an entry tells of it. -/
def afterFire (s : State) (p : Preset) (c : Candidate) (gateway : Gateway) (effect : Effect)
    (schedule : Schedule) : State :=
  { s.resetMetrics gateway with schedule }.record c gateway.id none (effectOutcome p c effect).1
    (effectOutcome p c effect).2

/-- When the track of a skill node goes on, after a cast of some length or
without one. -/
def nextAfter (s : State) (options : Options) (node : SkillNode) : Option Nat → Nat
  | some castMs => s.now + castMs + node.gapMs
  | none => s.now + options.skipRetryMs

/-- All that a step can do. -/
inductive Steps (p : Preset) (catalogue : Catalogue) (options : Options) (c : Candidate)
    (s : State) : Option End → State → Prop
  | skill {node : SkillNode} {castMs : Option Nat} {tried : State}
      (found : p.node? c = some (.skill node))
      (done : s.cast catalogue c node.id node.skill = .ok (castMs, tried))
      (in_word : Unsigned.Fits 64 (s.nextAfter options node castMs)) :
      Steps p catalogue options c s none (tried.advance c (s.nextAfter options node castMs))
  | passes {gateway : Gateway} {value : Evaluation}
      (found : p.node? c = some (.gateway gateway))
      (evaluated : s.evaluate catalogue gateway.condition = value)
      (untrue : value.isTrue = false)
      (in_word : Unsigned.Fits 64 (s.now + options.delayOf gateway)) :
      Steps p catalogue options c s none
        ((s.record c gateway.id none .passed (some (value.reason.getD value.truth.name))).advance c
          (s.now + options.delayOf gateway))
  | fires {gateway : Gateway} {effect : Effect} {looped : Option String} {schedule : Schedule}
      (found : p.node? c = some (.gateway gateway))
      (holds : (s.evaluate catalogue gateway.condition).isTrue = true)
      (fired : s.schedule.dispatch p c.place gateway s.now (options.delayOf gateway) =
        .ok (.ok ⟨effect, looped⟩, schedule))
      (uncast : ∀ skill, effect ≠ .cast skill) :
      Steps p catalogue options c s (if effect = .ended then some (.gateway gateway.id) else none)
        ((s.afterFire p c gateway effect schedule).recordLoop c looped)
  | fireCasts {gateway : Gateway} {skill : String} {castMs : Option Nat} {tried : State}
      (found : p.node? c = some (.gateway gateway))
      (holds : (s.evaluate catalogue gateway.condition).isTrue = true)
      (asks : gateway.action = .castSkill skill)
      (done : (s.afterFire p c gateway (.cast skill) s.schedule).cast catalogue c
        ("exec:" ++ skill) skill = .ok (castMs, tried))
      (in_word : Unsigned.Fits 64 (s.now + castMs.getD 0 + options.delayOf gateway)) :
      Steps p catalogue options c s none
        (tried.advance c (s.now + castMs.getD 0 + options.delayOf gateway))

/-- How long the cast of a skill takes that can be cast now. -/
def castTime? (s : State) (catalogue : Catalogue) (id : String) : Option Nat :=
  ((catalogue.skill? id).filter fun own =>
    own.enabled && !(s.readyAt.find? id).any fun ready => s.now < ready).map fun own =>
      own.castMs.toNat

/-- What is cast is what can be, and it takes the time that the skill takes. -/
theorem castMs_of_cast {node id : String} {castMs : Option Nat}
    (done : s.cast catalogue c node id = .ok (castMs, s')) : castMs = s.castTime? catalogue id := by
  unfold cast at done
  unfold castTime?
  split at done
  · rename_i missing
    cases done
    rw [missing]
    rfl
  · rename_i own found
    rw [found]
    split at done
    · rename_i off
      rw [Bool.not_eq_true'] at off
      cases done
      rw [Option.filter_some_neg (by simp [off])]
      rfl
    · rename_i on
      split at done
      · rename_i cooling
        cases done
        rw [Option.filter_some_neg (by simp [cooling])]
        rfl
      · rename_i cooled
        obtain ⟨_, _, rest⟩ := Checked.bind_eq_ok_iff.mp done
        obtain ⟨_, _, recorded⟩ := Checked.bind_eq_ok_iff.mp rest
        cases recorded
        rw [Option.filter_some_pos (by simpa [cooled] using on)]
        rfl

theorem now_of_cast {node id : String} {castMs : Option Nat}
    (done : s.cast catalogue c node id = .ok (castMs, s')) : s'.now = s.now := by
  cases tries_of_cast done with
  | unknown | disabled | cooling => rfl
  | casts => rw [now_record, now_afterCast]

theorem schedule_of_cast {node id : String} {castMs : Option Nat}
    (done : s.cast catalogue c node id = .ok (castMs, s')) : s'.schedule = s.schedule :=
  (cast_meets s catalogue c node id).of_eq_ok done

theorem steps_of_runSkill {node : SkillNode} (found : p.node? c = some (.skill node))
    (ran : s.runSkill catalogue options c node = .ok s') :
    Steps p catalogue options c s none s' := by
  unfold runSkill at ran
  obtain ⟨⟨castMs, tried⟩, done, rest⟩ := Checked.bind_eq_ok_iff.mp ran
  have now_eq := now_of_cast done
  cases castMs with
  | none =>
      obtain ⟨next, added, advanced⟩ := Checked.bind_eq_ok_iff.mp rest
      obtain ⟨in_word, rfl⟩ := Unsigned.add_eq_ok_iff.mp added
      cases advanced
      rw [now_eq] at in_word ⊢
      exact .skill found done in_word
  | some castMs =>
      obtain ⟨_, ended, later⟩ := Checked.bind_eq_ok_iff.mp rest
      obtain ⟨next, added, advanced⟩ := Checked.bind_eq_ok_iff.mp later
      obtain ⟨_, rfl⟩ := Unsigned.add_eq_ok_iff.mp ended
      obtain ⟨in_word, rfl⟩ := Unsigned.add_eq_ok_iff.mp added
      cases advanced
      rw [now_eq] at in_word ⊢
      exact .skill found done in_word

/-- What is settled after a cast that a gateway asks for. -/
theorem exists_cast_of_settle {gateway : Gateway} {delay : Nat} {skill : String}
    (settled : s.settle catalogue c gateway delay (.cast skill) = .ok (ending, s')) :
    ∃ castMs tried, s.cast catalogue c ("exec:" ++ skill) skill = .ok (castMs, tried) ∧
      ending = none ∧ Unsigned.Fits 64 (s.now + castMs.getD 0 + delay) ∧
      s' = tried.advance c (s.now + castMs.getD 0 + delay) := by
  obtain ⟨⟨castMs, tried⟩, done, rest⟩ := Checked.bind_eq_ok_iff.mp settled
  obtain ⟨_, ended, later⟩ := Checked.bind_eq_ok_iff.mp rest
  obtain ⟨next, added, advanced⟩ := Checked.bind_eq_ok_iff.mp later
  obtain ⟨_, rfl⟩ := Unsigned.add_eq_ok_iff.mp ended
  obtain ⟨in_word, rfl⟩ := Unsigned.add_eq_ok_iff.mp added
  cases advanced
  rw [now_of_cast done] at in_word ⊢
  exact ⟨castMs, tried, done, rfl, in_word, rfl⟩

theorem steps_of_runGateway {gateway : Gateway} (found : p.node? c = some (.gateway gateway))
    (ran : s.runGateway p catalogue options c gateway = .ok (.ok (ending, s'))) :
    Steps p catalogue options c s ending s' := by
  unfold runGateway at ran
  dsimp only at ran
  split at ran
  · rename_i untrue
    obtain ⟨next, added, advanced⟩ := Checked.bind_eq_ok_iff.mp ran
    obtain ⟨in_word, rfl⟩ := Unsigned.add_eq_ok_iff.mp added
    cases advanced
    exact .passes found rfl (by simpa using untrue) in_word
  · rename_i holds
    rw [Bool.not_eq_true, Bool.not_eq_false'] at holds
    obtain ⟨⟨result, schedule⟩, fired, rest⟩ := Checked.bind_eq_ok_iff.mp ran
    rw [now_resetMetrics, schedule_resetMetrics] at fired
    rcases result with fault | ⟨effect, looped⟩
    · cases rest
    · obtain ⟨⟨_, after⟩, settled, same⟩ := Checked.bind_eq_ok_iff.mp rest
      cases same
      cases effect with
      | ended =>
          cases settled
          exact .fires found holds fired (by simp)
      | switched source target =>
          cases settled
          exact .fires found holds fired (by simp)
      | jumped target node =>
          cases settled
          exact .fires found holds fired (by simp)
      | cast skill =>
          have asks := Schedule.castSkill_of_dispatch fired rfl
          -- a gateway that casts leaves the schedule to the cast
          rw [Schedule.dispatch, asks] at fired
          cases fired
          obtain ⟨castMs, tried, done, rfl, in_word, rfl⟩ := exists_cast_of_settle settled
          simp only [now_recordLoop, now_record, now_resetMetrics] at in_word ⊢
          exact .fireCasts found holds asks done in_word

/-- A step that has a result has done one of these things. -/
theorem steps_of_step (ran : s.step p catalogue options c = .ok (.ok (ending, s'))) :
    Steps p catalogue options c s ending s' := by
  unfold step at ran
  split at ran
  · cases ran
  · rename_i node found
    obtain ⟨after, done, same⟩ := Checked.bind_eq_ok_iff.mp ran
    cases same
    exact steps_of_runSkill found done
  · rename_i gateway found
    exact steps_of_runGateway found ran

/-! ## What a step tells -/

/-- A state has become another while a candidate was run, and the entries tell
of it: they are about the track of the candidate and the present time, and are
numbered on. -/
structure Tells (s : State) (c : Candidate) (s' : State) (entries : List Entry) : Prop where
  now : s'.now = s.now
  timeline : s'.timeline.toList = s.timeline.toList ++ entries
  time : ∀ e ∈ entries, e.time = s.now
  track : ∀ e ∈ entries, e.track = c.track
  index : entries.map Entry.index = List.range' s.timeline.size entries.length

theorem Tells.size {entries : List Entry} (tells : s.Tells c s' entries) :
    s'.timeline.size = s.timeline.size + entries.length := by
  simpa using congrArg List.length tells.timeline

theorem tells_nil (now_eq : s'.now = s.now) (timeline_eq : s'.timeline = s.timeline) :
    s.Tells c s' [] where
  now := now_eq
  timeline := by simp [timeline_eq]
  time := by simp
  track := by simp
  index := rfl

theorem tells_record (s : State) (c : Candidate) (node : String) (skill : Option String)
    (outcome : Outcome) (reason : Option String) :
    s.Tells c (s.record c node skill outcome reason)
      [⟨s.timeline.size, s.now, c.track, node, skill, outcome, reason⟩] where
  now := rfl
  timeline := by simp [timeline_record]
  time := by simp
  track := by simp
  index := rfl

theorem Tells.trans {first second : List Entry} (tells : s.Tells c s' first)
    (then_tells : s'.Tells c s'' second) : s.Tells c s'' (first ++ second) where
  now := then_tells.now.trans tells.now
  timeline := by rw [then_tells.timeline, tells.timeline, List.append_assoc]
  time := List.forall_mem_append.mpr
    ⟨tells.time, fun e mem => (then_tells.time e mem).trans tells.now⟩
  track := List.forall_mem_append.mpr ⟨tells.track, then_tells.track⟩
  index := by
    rw [List.map_append, tells.index, then_tells.index, tells.size, List.length_append,
      List.range'_append_1]

/-- The entry that tells that a mode has begun again, if one has. -/
def loopEntries (s : State) (c : Candidate) (looped : Option String) : List Entry :=
  looped.toList.map fun mode =>
    ⟨s.timeline.size, s.now, c.track, "", none, .looped, some mode⟩

theorem length_loopEntries_le (s : State) (c : Candidate) (looped : Option String) :
    (s.loopEntries c looped).length ≤ 1 := by
  cases looped <;> simp [loopEntries]

theorem tells_recordLoop (s : State) (c : Candidate) (looped : Option String) :
    s.Tells c (s.recordLoop c looped) (s.loopEntries c looped) := by
  cases looped with
  | none => exact tells_nil rfl rfl
  | some mode => exact tells_record s c "" none .looped (some mode)

theorem tells_advance (s : State) (c : Candidate) (time : Nat) :
    s.Tells c (s.advance c time) (s.loopEntries c (s.schedule.advance c.place time).1) := by
  have moved : s.Tells c { s with schedule := (s.schedule.advance c.place time).2 } [] :=
    tells_nil rfl rfl
  exact moved.trans (tells_recordLoop _ c _)

theorem Tries.exists_tells {node id : String} (tried : s.Tries catalogue c node id s') :
    ∃ e, s.Tells c s' [e] ∧ e.node = node ∧ e.skill = some id ∧
      (e.outcome = .cast ∨ e.outcome = .skippedCooldown ∨ e.outcome = .skippedDisabled) := by
  cases tried with
  | unknown | disabled | cooling =>
      exact ⟨_, tells_record .., rfl, rfl, by simp⟩
  | @casts own =>
      have after : s.Tells c (s.afterCast own id node) [] :=
        tells_nil (now_afterCast ..) (timeline_afterCast ..)
      exact ⟨_, after.trans (tells_record ..), rfl, rfl, .inl rfl⟩

theorem tells_afterFire (s : State) (p : Preset) (c : Candidate) (gateway : Gateway)
    (effect : Effect) (schedule : Schedule) :
    s.Tells c (s.afterFire p c gateway effect schedule)
      [⟨s.timeline.size, s.now, c.track, gateway.id, none, (effectOutcome p c effect).1,
        (effectOutcome p c effect).2⟩] := by
  have reset : s.Tells c { s.resetMetrics gateway with schedule } [] :=
    tells_nil (now_resetMetrics s gateway) (timeline_resetMetrics s gateway)
  have size_eq := congrArg Array.size (timeline_resetMetrics s gateway)
  rw [← size_eq, ← now_resetMetrics s gateway]
  exact reset.trans (tells_record ..)

/-- Whatever a step does, it tells of it at least once and at most three times. -/
theorem Steps.exists_tells (step : Steps p catalogue options c s ending s') :
    ∃ entries, s.Tells c s' entries ∧ 1 ≤ entries.length ∧ entries.length ≤ 3 := by
  have loop_le := length_loopEntries_le (c := c)
  cases step with
  | @skill node castMs tried found done =>
      obtain ⟨e, told, _⟩ := (tries_of_cast done).exists_tells
      refine ⟨_, told.trans (tells_advance tried c _), ?_⟩
      grind
  | @passes gateway value found evaluated untrue =>
      refine ⟨_, (tells_record ..).trans (tells_advance ..), ?_⟩
      grind
  | @fires gateway effect looped schedule found holds fired uncast =>
      refine ⟨_, (tells_afterFire ..).trans (tells_recordLoop ..), ?_⟩
      grind
  | @fireCasts gateway skill castMs tried found holds asks done =>
      obtain ⟨e, told, _⟩ := (tries_of_cast done).exists_tells
      refine ⟨_, ((tells_afterFire ..).trans told).trans (tells_advance tried c _), ?_⟩
      grind

/-! ## The loop -/

/-- The loop ends before it runs another node. -/
inductive Halts (options : Options) (s : State) : End → State → Prop
  | full (full : options.maxNodes ≤ s.timeline.size) : Halts options s .maxNodes s
  | idle (room : s.timeline.size < options.maxNodes) (nothing : s.schedule.nextWakeup = none) :
      Halts options s .idle s
  | late {due : Nat} (room : s.timeline.size < options.maxNodes)
      (wakes : s.schedule.nextWakeup = some due) (late : options.maxMs < max s.now due) :
      Halts options s .maxDuration { s with now := max s.now due }

/-- The loop waits until a node is due, and comes to the node. -/
structure Comes (options : Options) (s : State) (c : Candidate) (later : State) : Prop where
  room : s.timeline.size < options.maxNodes
  waits : ∃ due, s.schedule.nextWakeup = some due ∧ later = { s with now := max s.now due }
  inTime : later.now ≤ options.maxMs
  picked : s.schedule.pick later.now = some c

/-- The loop goes round once. -/
def Turn (p : Preset) (catalogue : Catalogue) (options : Options) (s s' : State) : Prop :=
  ∃ c later, Comes options s c later ∧ later.step p catalogue options c = .ok (.ok (none, s'))

/-- The result of a simulation that a step puts an end to. -/
def stop? (p : Preset) : Checked (Except Error (Option End × State)) →
    Option (Checked (Except Error Report))
  | .error fault => some (.error fault)
  | .ok (.error error) => some (.ok (.error error))
  | .ok (.ok (some ending, s)) => some (.ok (.ok (s.report p ending)))
  | .ok (.ok (none, _)) => none

/-- The loop ends with a result, and with as many nodes as it runs in doing
so. -/
inductive Concludes (p : Preset) (catalogue : Catalogue) (options : Options) (s : State) :
    Nat → Checked (Except Error Report) → Prop
  | halts {ending : End} {last : State} (halts : Halts options s ending last) :
      Concludes p catalogue options s 0 (.ok (.ok (last.report p ending)))
  | stops {c : Candidate} {later : State} {result : Checked (Except Error Report)}
      (comes : Comes options s c later)
      (stopped : stop? p (later.step p catalogue options c) = some result) :
      Concludes p catalogue options s 1 result

/-- The loop runs some number of nodes from a state on and comes to a result. -/
inductive Loops (p : Preset) (catalogue : Catalogue) (options : Options) :
    Nat → State → Checked (Except Error Report) → Prop
  | concludes {s : State} {n : Nat} {result : Checked (Except Error Report)}
      (last : Concludes p catalogue options s n result) : Loops p catalogue options n s result
  | turns {s s' : State} {n : Nat} {result : Checked (Except Error Report)}
      (turn : Turn p catalogue options s s') (rest : Loops p catalogue options n s' result) :
      Loops p catalogue options (n + 1) s result

variable {n k : Nat} {result other : Checked (Except Error Report)} {later : State}

theorem Comes.now_le (comes : Comes options s c later) : s.now ≤ later.now := by
  obtain ⟨due, _, rfl⟩ := comes.waits
  exact Nat.le_max_left _ _

theorem Comes.timeline (comes : Comes options s c later) : later.timeline = s.timeline := by
  obtain ⟨due, _, rfl⟩ := comes.waits
  rfl

theorem Comes.schedule (comes : Comes options s c later) : later.schedule = s.schedule := by
  obtain ⟨due, _, rfl⟩ := comes.waits
  rfl

theorem Comes.mem (comes : Comes options s c later) : c ∈ later.schedule.candidates := by
  rw [comes.schedule]
  exact List.mem_of_find?_eq_some comes.picked

theorem Comes.unique {d : Candidate} {other : State} (comes : Comes options s c later)
    (also : Comes options s d other) : d = c ∧ other = later := by
  obtain ⟨due, wakes, rfl⟩ := comes.waits
  obtain ⟨_, also_wakes, rfl⟩ := also.waits
  cases wakes.symm.trans also_wakes
  exact ⟨Option.some.inj (also.picked.symm.trans comes.picked), rfl⟩

/-- What has halted does not come to a node. -/
theorem Halts.not_comes {final : End} (halts : Halts options s final s') :
    ¬ Comes options s c later := by
  intro comes
  obtain ⟨due, wakes, rfl⟩ := comes.waits
  cases halts with
  | full full => exact Nat.not_lt_of_le full comes.room
  | idle _ nothing =>
      rw [nothing] at wakes
      contradiction
  | late _ also_wakes late =>
      cases wakes.symm.trans also_wakes
      exact Nat.not_lt_of_le comes.inTime late

/-- A node that is due can be picked, so the loop never looks for one in
vain. -/
theorem exists_pick_of_nextWakeup {schedule : Schedule} {due now : Nat}
    (wakes : schedule.nextWakeup = some due) (due_le : due ≤ now) :
    ∃ c, schedule.pick now = some c := by
  obtain ⟨⟨c, mem, rfl⟩, _⟩ := Schedule.nextWakeup_eq_some_iff.mp wakes
  exact Schedule.exists_pick_of_mem mem due_le

theorem halts_or_comes (options : Options) (s : State) :
    (∃ ending last, Halts options s ending last) ∨ ∃ c later, Comes options s c later := by
  by_cases full : options.maxNodes ≤ s.timeline.size
  · exact .inl ⟨_, _, .full full⟩
  · have room := Nat.lt_of_not_le full
    cases wakes : s.schedule.nextWakeup with
    | none => exact .inl ⟨_, _, .idle room wakes⟩
    | some due =>
        by_cases late : options.maxMs < max s.now due
        · exact .inl ⟨_, _, .late room wakes late⟩
        · obtain ⟨c, picked⟩ := exists_pick_of_nextWakeup wakes (Nat.le_max_right s.now due)
          exact .inr ⟨c, _, room, ⟨due, wakes, rfl⟩, Nat.le_of_not_lt late, picked⟩

theorem run_of_halts {final : End} (halts : Halts options s final s') (budget : Nat) :
    run p catalogue options (budget + 1) s = .ok (.ok (s'.report p final)) := by
  unfold run
  cases halts with
  | full full => rw [if_pos full]; rfl
  | idle room nothing => rw [if_neg (Nat.not_le_of_lt room), nothing]; rfl
  | late room wakes late =>
      rw [if_neg (Nat.not_le_of_lt room), wakes]
      exact if_pos late

theorem run_of_comes (comes : Comes options s c later) (budget : Nat) :
    run p catalogue options (budget + 1) s = later.step p catalogue options c >>= fun
      | .error error => .ok (.error error)
      | .ok (some ending, s) => .ok (.ok (s.report p ending))
      | .ok (none, s) => run p catalogue options budget s := by
  obtain ⟨due, wakes, rfl⟩ := comes.waits
  rw [run, if_neg (Nat.not_le_of_lt comes.room), wakes]
  dsimp only
  rw [if_neg (Nat.not_lt_of_le comes.inTime), comes.picked]
  rfl

theorem Turn.size_lt (turn : Turn p catalogue options s s') :
    s.timeline.size < options.maxNodes ∧ s.timeline.size < s'.timeline.size := by
  obtain ⟨c, later, comes, stepped⟩ := turn
  obtain ⟨entries, tells, told, _⟩ := (steps_of_step stepped).exists_tells
  have grown := tells.size
  rw [comes.timeline] at grown
  exact ⟨comes.room, by omega⟩

/-- What a simulation comes to within a budget that covers the room that is
left, the loop comes to. -/
theorem exists_loops_run (p : Preset) (catalogue : Catalogue) (options : Options) {budget : Nat}
    {s : State} (covers : options.maxNodes ≤ s.timeline.size + budget) :
    ∃ n, Loops p catalogue options n s (run p catalogue options budget s) := by
  induction budget generalizing s with
  | zero => exact ⟨0, .concludes (.halts (.full covers))⟩
  | succ budget ih =>
      rcases halts_or_comes options s with ⟨_, _, halts⟩ | ⟨c, later, comes⟩
      · rw [run_of_halts halts]
        exact ⟨0, .concludes (.halts halts)⟩
      · rw [run_of_comes comes]
        rcases stepped : later.step p catalogue options c with fault | error | ⟨_ | ending, s'⟩
        · exact ⟨1, .concludes (.stops comes (by rw [stepped]; rfl))⟩
        · exact ⟨1, .concludes (.stops comes (by rw [stepped]; rfl))⟩
        · have turn : Turn p catalogue options s s' := ⟨c, later, comes, stepped⟩
          have grown := turn.size_lt
          obtain ⟨n, loops⟩ := ih (s := s') (by omega)
          exact ⟨n + 1, .turns turn loops⟩
        · exact ⟨1, .concludes (.stops comes (by rw [stepped]; rfl))⟩

/-! ## One result -/

theorem Halts.unique {final other : End} (halts : Halts options s final s')
    (also : Halts options s other s'') : other = final ∧ s'' = s' := by
  cases halts <;> cases also <;> grind

theorem Concludes.unique (last : Concludes p catalogue options s n result)
    (also : Concludes p catalogue options s k other) : k = n ∧ other = result := by
  cases last with
  | halts halts =>
      cases also with
      | halts also =>
          obtain ⟨rfl, rfl⟩ := halts.unique also
          exact ⟨rfl, rfl⟩
      | stops comes stopped => exact absurd comes halts.not_comes
  | stops comes stopped =>
      cases also with
      | halts also => exact absurd comes also.not_comes
      | stops also also_stopped =>
          obtain ⟨rfl, rfl⟩ := comes.unique also
          exact ⟨rfl, Option.some.inj (also_stopped.symm.trans stopped)⟩

theorem Turn.unique (turn : Turn p catalogue options s s') (also : Turn p catalogue options s s'') :
    s'' = s' := by
  obtain ⟨c, later, comes, stepped⟩ := turn
  obtain ⟨d, other, also_comes, also_stepped⟩ := also
  obtain ⟨rfl, rfl⟩ := comes.unique also_comes
  cases stepped.symm.trans also_stepped
  rfl

/-- A loop that goes round does not end. -/
theorem Turn.not_concludes (turn : Turn p catalogue options s s') :
    ¬ Concludes p catalogue options s n result := by
  obtain ⟨c, later, comes, stepped⟩ := turn
  intro last
  cases last with
  | halts halts => exact halts.not_comes comes
  | stops also stopped =>
      obtain ⟨rfl, rfl⟩ := comes.unique also
      rw [stepped] at stopped
      contradiction

theorem Loops.unique (loops : Loops p catalogue options n s result)
    (also : Loops p catalogue options k s other) : k = n ∧ other = result := by
  induction loops generalizing k with
  | concludes last =>
      cases also with
      | concludes also => exact last.unique also
      | turns turn rest => exact absurd last turn.not_concludes
  | turns turn rest ih =>
      cases also with
      | concludes last => exact absurd last turn.not_concludes
      | turns also also_rest =>
          obtain rfl := turn.unique also
          obtain ⟨rfl, rfl⟩ := ih also_rest
          exact ⟨rfl, rfl⟩

/-- The loop runs no more nodes than there is room for entries. -/
theorem Loops.le_room (loops : Loops p catalogue options n s result) :
    n ≤ options.maxNodes - s.timeline.size := by
  induction loops with
  | concludes last =>
      cases last with
      | halts halts => exact Nat.zero_le _
      | stops comes stopped =>
          have room := comes.room
          omega
  | turns turn rest ih =>
      have grown := turn.size_lt
      omega

end State

/-! ## Where a loop ends -/

namespace State

variable {p : Preset} {catalogue : Catalogue} {options : Options} {s s' : State}

/-- The loop goes round some times and then ends. -/
theorem Loops.exists_concludes {n : Nat} {result : Checked (Except Error Report)}
    (loops : Loops p catalogue options n s result) :
    ∃ last k, Relation.ReflTransGen (Turn p catalogue options) s last ∧
      Concludes p catalogue options last k result := by
  induction loops with
  | concludes last => exact ⟨_, _, .refl, last⟩
  | turns turn rest ih =>
      obtain ⟨last, k, onward, concluded⟩ := ih
      exact ⟨last, k, .head turn onward, concluded⟩

/-- A turn runs a candidate of a sound preset. -/
theorem Turn.fits (turn : Turn p catalogue options s s') (sound : p.Sound)
    (fits : s.schedule.Fits p) : s'.schedule.Fits p := by
  obtain ⟨c, later, comes, stepped⟩ := turn
  have later_fits : later.schedule.Fits p := comes.schedule ▸ fits
  obtain ⟨_, _, same, ran⟩ := (step_meets later_fits sound comes.mem).of_eq_ok stepped
  cases same
  exact ran.fits sound later_fits

theorem fits_of_turns (turns : Relation.ReflTransGen (Turn p catalogue options) s s')
    (sound : p.Sound) (fits : s.schedule.Fits p) : s'.schedule.Fits p := by
  induction turns with
  | refl => exact fits
  | tail _ turn ih => exact turn.fits sound ih

/-- A simulation goes round some times and then ends. -/
theorem exists_concludes (p : Preset) (catalogue : Catalogue) (options : Options) :
    ∃ last k, Relation.ReflTransGen (Turn p catalogue options) (.start p) last ∧
      Concludes p catalogue options last k (simulate p catalogue options) := by
  obtain ⟨n, loops⟩ := exists_loops_run p catalogue options (s := .start p)
    (Nat.le_add_left options.maxNodes _)
  exact loops.exists_concludes

end State

/-! ## Limits -/

/-- The entries are numbered by their positions and ordered by their times;
they are not too many, and none is too late. -/
structure InOrder (options : Options) (timeline : List Entry) : Prop where
  length_le : timeline.length ≤ options.maxNodes + 2
  nothing : options.maxNodes = 0 → timeline = []
  index : timeline.map Entry.index = List.range timeline.length
  ordered : timeline.Pairwise fun e f => e.time ≤ f.time
  time_le : ∀ e ∈ timeline, e.time ≤ options.maxMs

/-- A report keeps to the limits after a number of nodes has been run. -/
structure Report.KeepsLimits (r : Report) (options : Options) (nodes : Nat) : Prop where
  order : InOrder options r.timeline
  told : nodes ≤ r.timeline.length
  ending_iff : r.ending = .maxDuration ↔ options.maxMs < r.finalMs

namespace State

variable {p : Preset} {catalogue : Catalogue} {options : Options} {s s' later : State}
  {c : Candidate} {ending : Option End} {n : Nat}

/-- The timeline of a state is in order, and time has not run out. -/
structure InLimits (options : Options) (s : State) : Prop where
  order : InOrder options s.timeline.toList
  past : ∀ e ∈ s.timeline.toList, e.time ≤ s.now
  now_le : s.now ≤ options.maxMs

theorem inLimits_start (p : Preset) (options : Options) : (start p).InLimits options where
  order := ⟨Nat.zero_le _, fun _ => rfl, rfl, .nil, by simp [start]⟩
  past := by simp [start]
  now_le := Nat.zero_le _

/-- A step tells of its own time, which is later than all that has been told. -/
theorem InLimits.steps (limits : s.InLimits options) (comes : Comes options s c later)
    (step : Steps p catalogue options c later ending s') : s'.InLimits options := by
  obtain ⟨entries, tells, _, few⟩ := step.exists_tells
  have timeline_eq := tells.timeline
  have index_eq := tells.index
  rw [comes.timeline] at timeline_eq index_eq
  have before : ∀ e ∈ s.timeline.toList, e.time ≤ later.now :=
    fun e mem => (limits.past e mem).trans comes.now_le
  have past : ∀ e ∈ s'.timeline.toList, e.time ≤ s'.now := by
    intro e mem
    rw [tells.now]
    rw [timeline_eq, List.mem_append] at mem
    rcases mem with old | told
    · exact before e old
    · exact Nat.le_of_eq (tells.time e told)
  have now_le : s'.now ≤ options.maxMs := tells.now ▸ comes.inTime
  have room := comes.room
  refine ⟨?_, past, now_le⟩
  constructor
  · rw [timeline_eq, List.length_append, Array.length_toList]
    omega
  · intro none_allowed
    omega
  · rw [timeline_eq, List.map_append, limits.order.index, index_eq, List.length_append,
      List.range_eq_range', List.range_eq_range', ← List.range'_append_1, Nat.zero_add,
      Array.length_toList]
  · rw [timeline_eq, List.pairwise_append]
    refine ⟨limits.order.ordered, ?_, ?_⟩
    · apply List.pairwise_of_forall_mem_list
      intro e mem f also
      rw [tells.time e mem, tells.time f also]
    · intro e mem f told
      rw [tells.time f told]
      exact before e mem
  · exact fun e mem => (past e mem).trans now_le

theorem InLimits.turns (limits : s.InLimits options)
    (turns : Relation.ReflTransGen (Turn p catalogue options) s s') : s'.InLimits options := by
  induction turns with
  | refl => exact limits
  | tail _ turn ih =>
      obtain ⟨c, later, comes, stepped⟩ := turn
      exact ih.steps comes (steps_of_step stepped)

/-- Only a gateway ends a simulation from within. -/
theorem Steps.exists_gateway {final : End}
    (step : Steps p catalogue options c s (some final) s') : ∃ node, final = .gateway node := by
  generalize final_eq : some final = ending at step
  cases step with
  | skill | passes | fireCasts => contradiction
  | fires =>
      split at final_eq
      · cases final_eq
        exact ⟨_, rfl⟩
      · contradiction

/-- A report that a step puts an end to is that of the state after it. -/
theorem eq_report_of_stop? {outcome : Checked (Except Error (Option End × State))}
    {report : Report} (stopped : stop? p outcome = some (.ok (.ok report))) :
    ∃ final last, outcome = .ok (.ok (some final, last)) ∧ report = last.report p final := by
  rcases outcome with fault | error | ⟨_ | final, last⟩
  · cases stopped
  · cases stopped
  · cases stopped
  · cases stopped
    exact ⟨final, last, rfl, rfl⟩

theorem Concludes.keepsLimits {report : Report} (limits : s.InLimits options)
    (last : Concludes p catalogue options s n (.ok (.ok report))) :
    report.KeepsLimits options (s.timeline.size + n) := by
  cases last with
  | halts halts =>
      cases halts with
      | full | idle =>
          refine ⟨limits.order, Nat.le_refl _, ?_⟩
          simpa [State.report] using limits.now_le
      | late room wakes late => exact ⟨limits.order, Nat.le_refl _, iff_of_true rfl late⟩
  | stops comes stopped =>
      obtain ⟨final, last, stepped, rfl⟩ := eq_report_of_stop? stopped
      have step := steps_of_step stepped
      obtain ⟨node, rfl⟩ := step.exists_gateway
      obtain ⟨entries, tells, told, _⟩ := step.exists_tells
      have kept := limits.steps comes step
      refine ⟨kept.order, ?_, ?_⟩
      · have size_eq := tells.size
        rw [comes.timeline] at size_eq
        simp only [State.report, Array.length_toList]
        omega
      · simpa [State.report] using kept.now_le

theorem Loops.keepsLimits {report : Report} (limits : s.InLimits options)
    (loops : Loops p catalogue options n s (.ok (.ok report))) :
    report.KeepsLimits options (s.timeline.size + n) := by
  generalize result_eq : (Except.ok (Except.ok report) : Checked (Except Error Report)) = result
    at loops
  induction loops with
  | concludes last =>
      cases result_eq
      exact last.keepsLimits limits
  | turns turn rest ih =>
      have grown := turn.size_lt
      obtain ⟨c, later, comes, stepped⟩ := turn
      have kept := ih (limits.steps comes (steps_of_step stepped)) result_eq
      have told := kept.told
      exact ⟨kept.order, by omega, kept.ending_iff⟩

end State

/-- Every simulation ends within its limits, whatever preset it is given.  The
loop, which has no limit on its turns, comes to one result after one number of
nodes: it is the result of the simulation, and the nodes are no more than the
limit says.  Each node that is run tells of itself one to three times.  If there
is a report, its entries are numbered by their positions and ordered by their
times, are at most two more than the limit, and none is late; and time has run
out exactly when the last time is beyond the limit. -/
theorem simulate_keepsLimits (p : Preset) (catalogue : Catalogue) (options : Options) :
    (∀ (s s' : State) c ending, s.step p catalogue options c = .ok (.ok (ending, s')) →
        ∃ entries, s.Tells c s' entries ∧ 1 ≤ entries.length ∧ entries.length ≤ 3) ∧
      ∃ n ≤ options.maxNodes,
        (∀ k result, State.Loops p catalogue options k (.start p) result ↔
          k = n ∧ result = simulate p catalogue options) ∧
        ∀ report, simulate p catalogue options = .ok (.ok report) →
          report.KeepsLimits options n := by
  constructor
  · intro s s' c ending stepped
    exact (State.steps_of_step stepped).exists_tells
  · obtain ⟨n, loops⟩ : ∃ n, State.Loops p catalogue options n (.start p)
        (simulate p catalogue options) :=
      State.exists_loops_run p catalogue options (Nat.le_add_left _ _)
    refine ⟨n, loops.le_room, ?_, ?_⟩
    · intro k result
      constructor
      · exact loops.unique
      · rintro ⟨rfl, rfl⟩
        exact loops
    · intro report simulated
      rw [simulated] at loops
      have kept := loops.keepsLimits (State.inLimits_start p options)
      rwa [State.start, Array.size_empty, Nat.zero_add] at kept

end Simulation

open Simulation

/-- What a computation with two ways to fail comes to. -/
theorem Checked.eq_ok_of_toOption {ε α : Type} {x : Checked (Except ε α)} {a : α}
    (found : x.toOption.bind Except.toOption = some a) : x = .ok (.ok a) := by
  rcases x with fault | error | b
  · contradiction
  · contradiction
  · cases found
    rfl

/-- A preset whose only node is a gateway that always casts a skill that is not
there, at no cost of time. -/
def Preset.mirage : Preset :=
  { id := "mirage"
    name := ""
    entryMode := some 0
    globalTracks := []
    modes := [⟨"desert", [⟨"dune",
      [.gateway ⟨"oasis", 0, none, .const true, .castSkill "drink", false⟩]⟩]⟩] }

/-- Each turn of a mirage takes three entries and no time, and it ends with two
entries more than it is allowed. -/
theorem Preset.mirage_keepsLimits :
    ∃ report n, simulate mirage (.ofLists [] []) ⟨0, 4, 0, 0⟩ = .ok (.ok report) ∧
      report.KeepsLimits ⟨0, 4, 0, 0⟩ n ∧
      report.timeline.map (fun e => (e.time, e.outcome)) =
        [(0, .castSkill), (0, .skippedDisabled), (0, .looped),
          (0, .castSkill), (0, .skippedDisabled), (0, .looped)] := by
  have checked : ((simulate mirage (.ofLists [] []) ⟨0, 4, 0, 0⟩).toOption.bind
      Except.toOption).map (fun report => report.timeline.map fun e => (e.time, e.outcome)) =
        some [(0, .castSkill), (0, .skippedDisabled), (0, .looped),
          (0, .castSkill), (0, .skippedDisabled), (0, .looped)] := by decide +kernel
  obtain ⟨report, found, told⟩ := Option.map_eq_some_iff.mp checked
  have simulated := Checked.eq_ok_of_toOption found
  obtain ⟨n, _, _, kept⟩ := (simulate_keepsLimits mirage (.ofLists [] []) ⟨0, 4, 0, 0⟩).2
  exact ⟨report, n, simulated, kept report simulated, told⟩

end Rotation
