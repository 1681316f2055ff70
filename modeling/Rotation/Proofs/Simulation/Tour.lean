import Rotation.Proofs.Schedule.DueOrder
import Rotation.Proofs.Simulation.Cooldown
import Rotation.Proofs.Simulation.Turns

/-!
# The tour of a simulation

The nodes that a simulation runs, one after the other, are its tour.  Each is the
foremost one at its turn, and runs as soon as it is due: at once, if it was due
before the last thing that happened.  A timeline recounts the tour, node by node,
and a simulation is idle in the end only if there is no node left to run.
-/

namespace Rotation.Simulation

/-- A node that a simulation comes to: the state in which it looks for a node,
the one that it finds, and the time at which it runs it. -/
structure Station where
  state : State
  node : Candidate
  time : Nat

namespace State

/-- The time of the last event, or the beginning of all time. -/
def lastTime (s : State) : Nat :=
  (s.timeline.back?.map Entry.time).getD 0

/-- The nodes that the loop comes to from a state on, up to its result. -/
inductive Tour (p : Preset) (catalogue : Catalogue) (options : Options) :
    State → List Station → Checked (Except Error Report) → Prop
  | halts {s last : State} {ending : End} (halts : Halts options s ending last) :
      Tour p catalogue options s [] (.ok (.ok (last.report p ending)))
  | stops {s later : State} {c : Candidate} {result : Checked (Except Error Report)}
      (comes : Comes options s c later)
      (stopped : stop? p (later.step p catalogue options c) = some result) :
      Tour p catalogue options s [⟨s, c, later.now⟩] result
  | goes {s later s' : State} {c : Candidate} {stations : List Station}
      {result : Checked (Except Error Report)} (comes : Comes options s c later)
      (stepped : later.step p catalogue options c = .ok (.ok (none, s')))
      (rest : Tour p catalogue options s' stations result) :
      Tour p catalogue options s (⟨s, c, later.now⟩ :: stations) result

end State

/-- A node is the foremost one, and runs as soon as it is due after the last
event. -/
structure Station.IsNext (v : Station) : Prop where
  foremost : v.state.schedule.IsForemost v.node
  time : v.time = max v.state.lastTime v.node.dueAt

/-- Entries tell of a node that has run: the first one names it, and all are about
its track and its time. -/
structure Station.TellsIn (v : Station) (p : Preset) (entries : List Entry) : Prop where
  names : ∃ e rest n, entries = e :: rest ∧ p.node? v.node = some n ∧ e.node = n.id
  time : ∀ e ∈ entries, e.time = v.time
  track : ∀ e ∈ entries, e.track = v.node.track

/-- A timeline recounts a tour: what each node has left follows upon what the
one before it has. -/
def Recounts (p : Preset) (stations : List Station) (timeline : List Entry) : Prop :=
  ∃ told : List (List Entry), List.Forall₂ (fun v entries => v.TellsIn p entries) stations told ∧
    timeline = told.flatten

namespace State

variable {p : Preset} {catalogue : Catalogue} {options : Options} {s s' later : State}
  {c : Candidate} {ending : Option End} {stations others : List Station}
  {result other : Checked (Except Error Report)}

/-! ## The one tour -/

/-- A tour is what the loop does, node by node. -/
theorem Loops.exists_tour {n : Nat} (loops : Loops p catalogue options n s result) :
    ∃ stations, Tour p catalogue options s stations result := by
  induction loops with
  | concludes last =>
      cases last with
      | halts halts => exact ⟨_, .halts halts⟩
      | stops comes stopped => exact ⟨_, .stops comes stopped⟩
  | turns turn rest ih =>
      obtain ⟨c, later, comes, stepped⟩ := turn
      obtain ⟨stations, tour⟩ := ih
      exact ⟨_, .goes comes stepped tour⟩

theorem Tour.unique (tour : Tour p catalogue options s stations result)
    (also : Tour p catalogue options s others other) : others = stations ∧ other = result := by
  induction tour generalizing others with
  | halts halts =>
      cases also with
      | halts also =>
          obtain ⟨rfl, rfl⟩ := halts.unique also
          exact ⟨rfl, rfl⟩
      | stops comes | goes comes => exact absurd comes halts.not_comes
  | stops comes stopped =>
      cases also with
      | halts halts => exact absurd comes halts.not_comes
      | stops also also_stopped =>
          obtain ⟨rfl, rfl⟩ := comes.unique also
          exact ⟨rfl, Option.some.inj (also_stopped.symm.trans stopped)⟩
      | goes also stepped =>
          obtain ⟨rfl, rfl⟩ := comes.unique also
          rw [stepped] at stopped
          contradiction
  | goes comes stepped rest ih =>
      cases also with
      | halts halts => exact absurd comes halts.not_comes
      | stops also stopped =>
          obtain ⟨rfl, rfl⟩ := comes.unique also
          rw [stepped] at stopped
          contradiction
      | goes also also_stepped also_rest =>
          obtain ⟨rfl, rfl⟩ := comes.unique also
          cases also_stepped.symm.trans stepped
          obtain ⟨rfl, rfl⟩ := ih also_rest
          exact ⟨rfl, rfl⟩

/-! ## What a node leaves -/

/-- The first entry of a step names the node that was run. -/
theorem Steps.exists_tellsIn (step : Steps p catalogue options c later ending s') (s : State) :
    ∃ entries, later.Tells c s' entries ∧ Station.TellsIn ⟨s, c, later.now⟩ p entries := by
  suffices named : ∃ e rest n, later.Tells c s' (e :: rest) ∧ p.node? c = some n ∧ e.node = n.id by
    obtain ⟨e, rest, n, tells, found, named⟩ := named
    exact ⟨_, tells, ⟨e, rest, n, rfl, found, named⟩, tells.time, tells.track⟩
  cases step with
  | @skill node castMs tried found done =>
      obtain ⟨e, told, named, _⟩ := (tries_of_cast done).exists_tells
      exact ⟨e, _, _, told.trans (tells_advance tried c _), found, named⟩
  | passes found => exact ⟨_, _, _, (tells_record ..).trans (tells_advance ..), found, rfl⟩
  | fires found => exact ⟨_, _, _, (tells_afterFire ..).trans (tells_recordLoop ..), found, rfl⟩
  | @fireCasts gateway skill castMs tried found holds asks done =>
      obtain ⟨e, told, _⟩ := (tries_of_cast done).exists_tells
      exact ⟨_, _, _, ((tells_afterFire ..).trans told).trans (tells_advance tried c _), found, rfl⟩

/-! ## The time of the last event -/

/-- After a step it is the time of its last event. -/
theorem Tells.lastTime {entries : List Entry} (tells : s.Tells c s' entries)
    (told : entries ≠ []) : s'.lastTime = s'.now := by
  obtain ⟨before, last, rfl⟩ := List.eq_nil_or_concat' entries |>.resolve_left told
  have last_eq : s'.timeline.back? = some last := by
    rw [← Array.getLast?_toList, tells.timeline, ← List.append_assoc, List.getLast?_concat]
  rw [State.lastTime, last_eq, tells.now]
  exact tells.time last (by simp)

/-- A state in which the loop looks for a node: the schedule fits, and it is just
the time of the last event. -/
structure Looks (p : Preset) (s : State) : Prop where
  fits : s.schedule.Fits p
  now_eq : s.now = s.lastTime

theorem looks_start (p : Preset) : (start p).Looks p :=
  ⟨Schedule.fits_start p 0, rfl⟩

theorem Looks.turn (looks : s.Looks p) (sound : p.Sound) (turn : Turn p catalogue options s s') :
    s'.Looks p where
  fits := turn.fits sound looks.fits
  now_eq := by
    obtain ⟨c, later, comes, stepped⟩ := turn
    obtain ⟨entries, tells, told⟩ := (steps_of_step stepped).exists_tellsIn s
    exact (tells.lastTime (by obtain ⟨_, _, _, rfl, _⟩ := told.names; simp)).symm

/-- The node that the loop comes to is the next one. -/
theorem Looks.isNext (looks : s.Looks p) (distinct : p.HasDistinctTracks)
    (comes : Comes options s c later) : Station.IsNext ⟨s, c, later.now⟩ := by
  obtain ⟨due, wakes, rfl⟩ := comes.waits
  have picks := looks.fits.picksForemost distinct (max s.now due)
  obtain ⟨foremost, _⟩ := (picks.pick_iff c).mp comes.picked
  obtain ⟨d, also_foremost, rfl⟩ := (picks.waits_iff due).mp wakes
  obtain rfl := foremost.unique also_foremost
  exact ⟨foremost, congrArg (max · d.dueAt) looks.now_eq⟩

theorem Tour.isNext (tour : Tour p catalogue options s stations result) (looks : s.Looks p)
    (sound : p.Sound) (distinct : p.HasDistinctTracks) : ∀ v ∈ stations, v.IsNext := by
  induction tour with
  | halts => simp
  | stops comes stopped => simpa using looks.isNext distinct comes
  | goes comes stepped rest ih =>
      rw [List.forall_mem_cons]
      exact ⟨looks.isNext distinct comes, ih (looks.turn sound ⟨_, _, comes, stepped⟩)⟩

/-! ## The timeline -/

theorem Tour.exists_recounts (tour : Tour p catalogue options s stations result) {report : Report}
    (reported : result = .ok (.ok report)) :
    ∃ timeline, Recounts p stations timeline ∧
      report.timeline = s.timeline.toList ++ timeline := by
  induction tour with
  | halts halts =>
      cases reported
      refine ⟨[], ⟨[], .nil, rfl⟩, ?_⟩
      cases halts <;> simp [State.report]
  | @stops s later c result comes stopped =>
      obtain ⟨final, last, stepped, rfl⟩ := eq_report_of_stop? (reported ▸ stopped)
      obtain ⟨entries, tells, told⟩ := (steps_of_step stepped).exists_tellsIn s
      refine ⟨entries, ⟨[entries], .cons told .nil, by simp⟩, ?_⟩
      rw [← comes.timeline]
      exact tells.timeline
  | @goes s later s' c stations result comes stepped rest ih =>
      obtain ⟨entries, tells, told⟩ := (steps_of_step stepped).exists_tellsIn s
      obtain ⟨timeline, ⟨groups, matched, rfl⟩, report_eq⟩ := ih reported
      refine ⟨entries ++ groups.flatten, ⟨entries :: groups, .cons told matched, by simp⟩, ?_⟩
      rw [report_eq, tells.timeline, comes.timeline, List.append_assoc]

/-! ## The end -/

/-- The loop is idle only when the schedule has nothing left. -/
theorem exists_hasNothingLeft_of_idle (sound : p.Sound) {report : Report}
    (simulated : simulate p catalogue options = .ok (.ok report)) (idle : report.ending = .idle) :
    ∃ last, Relation.ReflTransGen (Turn p catalogue options) (.start p) last ∧
      report = last.report p .idle ∧ last.schedule.HasNothingLeft p := by
  obtain ⟨last, k, turns, concluded⟩ := exists_concludes p catalogue options
  have fits := fits_of_turns turns sound (Schedule.fits_start p 0)
  rw [simulated] at concluded
  cases concluded with
  | halts halts =>
      cases halts with
      | idle room nothing => exact ⟨last, turns, rfl, fits.hasNothingLeft nothing⟩
      | full | late => cases idle
  | stops comes stopped =>
      obtain ⟨final, after, stepped, rfl⟩ := eq_report_of_stop? stopped
      obtain ⟨node, rfl⟩ := (steps_of_step stepped).exists_gateway
      cases idle

end State

end Rotation.Simulation

namespace Rotation

open Simulation

/-- A schedule of a validated preset, wherever calls or runs of its nodes have led
it, waits for the foremost node that may run and picks it once it is due.  So a
simulation has one tour, on which each node is the foremost one and runs as soon
as it is due after the last event; its timeline recounts the tour; and it is idle
in the end only if the tracks that have a cursor have no node left. -/
theorem Draft.toursInDueOrder_of_validate {d : Draft} {catalogue : Catalogue} {p : Preset}
    (valid : (d.validate catalogue).preset = some p) :
    (∀ time s, (∃ calls, (∀ c ∈ calls, Call.Within p c) ∧
          s = (Schedule.start p time).callAll calls) ∨ Schedule.Reachable p time s →
        ∀ now, s.PicksForemost now) ∧
      ∀ used options, ∃ stations,
        (∀ others result, State.Tour p used options (.start p) others result ↔
          others = stations ∧ result = simulate p used options) ∧
        (∀ v ∈ stations, v.IsNext) ∧
        ∀ report, simulate p used options = .ok (.ok report) →
          Recounts p stations report.timeline ∧
            (report.ending = .idle → ∃ last,
              Relation.ReflTransGen (State.Turn p used options) (.start p) last ∧
                report = last.report p .idle ∧ last.schedule.HasNothingLeft p) := by
  have compiles := compiles_of_validate valid
  have sound : p.Sound := fun _ _ _ there mem => compiles.resolves_of_mem there mem
  have distinct := compiles.hasDistinctTracks
  constructor
  · rintro time s (⟨calls, within, rfl⟩ | reached) now
    · exact ((Schedule.fits_start p time).callAll calls within).picksForemost distinct now
    · exact (reached.fits sound).picksForemost distinct now
  · intro used options
    obtain ⟨n, loops⟩ : ∃ n, State.Loops p used options n (.start p) (simulate p used options) :=
      State.exists_loops_run p used options (Nat.le_add_left _ _)
    obtain ⟨stations, tour⟩ := loops.exists_tour
    refine ⟨stations, ?_, tour.isNext (State.looks_start p) sound distinct, ?_⟩
    · intro others result
      constructor
      · exact tour.unique
      · rintro ⟨rfl, rfl⟩
        exact tour
    · intro report simulated
      obtain ⟨timeline, recounts, report_eq⟩ := tour.exists_recounts simulated
      obtain rfl : report.timeline = timeline := by simpa [State.start] using report_eq
      exact ⟨recounts, State.exists_hasNothingLeft_of_idle sound simulated⟩

/-- In a drill a node runs as soon as it is due; one that fires and casts leaves
two entries. -/
theorem Draft.drill_toursInDueOrder :
    ∃ p report stations, (drill.validate (.ofLists [.slash] [])).preset = some p ∧
      drilled? = some report ∧ Recounts p stations report.timeline ∧ (∀ v ∈ stations, v.IsNext) ∧
      report.timeline.map (fun e => (e.time, e.node)) =
        [(0, "hit"), (100, "twice"), (150, "hit"), (200, "twice"), (250, "hit"), (350, "twice"),
          (350, "exec:slash"), (400, "hit"), (450, "twice"), (500, "hit")] := by
  have checked : (drilled?.map fun report => report.timeline.map fun e => (e.time, e.node)) =
      some [(0, "hit"), (100, "twice"), (150, "hit"), (200, "twice"), (250, "hit"), (350, "twice"),
        (350, "exec:slash"), (400, "hit"), (450, "twice"), (500, "hit")] := by decide +kernel
  obtain ⟨report, drilled, timeline_eq⟩ := Option.map_eq_some_iff.mp checked
  have ran := drilled
  unfold drilled? at ran
  split at ran
  · rename_i own simulation
    cases ran
    obtain ⟨p, valid, simulated⟩ := Option.map_eq_some_iff.mp simulation
    obtain ⟨stations, _, next, reported⟩ :=
      (toursInDueOrder_of_validate valid).2 (.ofLists [.slash] []) ⟨10000, 10, 50, 50⟩
    exact ⟨p, report, stations, valid, drilled, (reported report simulated).1, next, timeline_eq⟩
  · contradiction

end Rotation
