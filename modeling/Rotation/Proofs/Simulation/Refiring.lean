import Rotation.Proofs.Schedule.Due
import Rotation.Proofs.Simulation.Metrics
import Rotation.Proofs.Simulation.Turns

/-!
# Gateways that fire again

A gateway that has fired makes its track wait, so it does not fire again at the
same time by itself.  But a jump may put the track back at once, and so may a
mode that begins again, by a switch or after a lap.  Nothing else does: the
entries between two firings at one time tell of it.
-/

namespace Rotation

/-- The identifier of the mode that a track with a name belongs to. -/
def Preset.modeOf? (p : Preset) (track : String) : Option String :=
  (p.locate? track).bind fun
    | .global _ => none
    | .mode m _ => p.modes[m]?.map Mode.id

/-- Whether a track has to wait when a node of it fires. -/
def Simulation.Options.holdsBack (options : Simulation.Options) : Node → Bool
  | .skill _ => true
  | .gateway gateway => 0 < options.delayOf gateway

/-- Every gateway makes its track wait. -/
def Preset.GatewaysWait (p : Preset) (options : Simulation.Options) : Prop :=
  ∀ track ∈ p.tracks, ∀ n ∈ track.nodes, options.holdsBack n = true

instance (p : Preset) (options : Simulation.Options) : Decidable (p.GatewaysWait options) :=
  inferInstanceAs (Decidable (∀ track ∈ p.tracks, ∀ n ∈ track.nodes, options.holdsBack n = true))

theorem Preset.GatewaysWait.of_node? {p : Preset} {options : Simulation.Options}
    (waits : p.GatewaysWait options) {c : Candidate} {gateway : Gateway}
    (found : p.node? c = some (.gateway gateway)) : 0 < options.delayOf gateway := by
  obtain ⟨track, there, at_node⟩ := Option.bind_eq_some_iff.mp found
  have held := waits track (mem_tracks_of_track? there) _ (List.mem_of_getElem? at_node)
  simpa [Simulation.Options.holdsBack] using held

namespace Simulation

/-- The track into which a recorded jump goes at once.  A jump that finds the
gateway itself waits. -/
def Entry.jumpsTo? (p : Preset) (e : Entry) : Option String :=
  if e.reason = some e.node then none
  else
    match e.outcome with
    | .jumpedNode => some e.track
    | .jumpedTrack =>
      (p.gateway? e.track e.node).bind fun gateway =>
        match gateway.action with
        | .jumpTrack track _ => some track
        | _ => none
    | _ => none

/-- Whether an entry tells that a track is due at once: of a jump into it, or of
its mode that begins again. -/
def Entry.putsBack (p : Preset) (track : String) (e : Entry) : Bool :=
  match e.outcome with
  | .jumpedNode | .jumpedTrack => e.jumpsTo? p == some track
  | .switchedMode | .looped => (p.modeOf? track).any fun mode => e.reason == some mode
  | _ => false

section

variable {p : Preset} {place : Place} {track : Track}

theorem modeOf?_eq (distinct : p.HasDistinctNames) {m t : Nat} {mode : Mode}
    (there : p.track? (.mode m t) = some track) (found : p.modes[m]? = some mode) :
    p.modeOf? track.id = some mode.id := by
  have located : p.locate? track.id = some (.mode m t) :=
    (Preset.locate?_eq_some_iff distinct.tracks).mpr ⟨track, there, rfl⟩
  simp [Preset.modeOf?, located, found]

variable {c : Candidate} {gateway : Gateway} {effect : Effect} {s moved : Schedule}
  {now delay index time : Nat} {looped : Option String}

/-- The entry of a gateway that puts a track back tells so. -/
theorem putsBack_of_fired (distinct : p.HasDistinctNames)
    (stands : p.StandsFor c (.gateway gateway)) (there : p.track? place = some track)
    (fired : s.dispatch p c.place gateway now delay = .ok (.ok ⟨effect, looped⟩, moved))
    (back : Schedule.PutsBack p gateway place effect) :
    Entry.putsBack p track.id ⟨index, time, c.track, gateway.id, none,
      (State.effectOutcome p c effect).1, (State.effectOutcome p c effect).2⟩ = true := by
  cases back with
  | switched at_place found =>
      subst at_place
      simp [Entry.putsBack, State.effectOutcome, modeOf?_eq distinct there found]
  | @jumped i elsewhere =>
      have reason_ne : (track.nodes[i]?).map Node.id ≠ some gateway.id :=
        fun named => elsewhere ((Schedule.landsOnItself_iff there
          (distinct.nodes place track there)).mpr (Option.map_eq_some_iff.mp named))
      by_cases own : place = c.place
      · obtain ⟨other, own_there, _, named⟩ := stands
        subst own
        cases there.symm.trans own_there
        simp [Entry.putsBack, Entry.jumpsTo?, State.effectOutcome, there, reason_ne, named]
      · obtain ⟨id, entry, action_eq, located⟩ := Schedule.jumpTrack_of_dispatch fired own
        obtain ⟨other, other_there, id_eq⟩ := Preset.track?_of_locate? located
        cases there.symm.trans other_there
        simp [Entry.putsBack, Entry.jumpsTo?, State.effectOutcome, there, reason_ne, own,
          stands.gateway?_eq distinct, action_eq, id_eq]

end

namespace State

variable {p : Preset} {catalogue : Catalogue} {options : Options} {s s' later : State}
  {c : Candidate} {ending : Option End}

/-- A mode that begins again tells so. -/
theorem exists_putsBack_loopEntries (fits : s.schedule.Fits p) (distinct : p.HasDistinctNames)
    (s' : State) (c : Candidate) {active : ActiveMode} (held : s.schedule.mode = some active)
    {t : Nat} {track : Track} (there : p.track? (.mode active.index t) = some track) :
    ∃ g ∈ s'.loopEntries c (some active.id), g.putsBack p track.id = true := by
  obtain ⟨mode, found, id_eq, _⟩ := fits.mode active held
  refine ⟨_, List.mem_singleton_self _, ?_⟩
  simp [Entry.putsBack, modeOf?_eq distinct there found, id_eq]

/-- What a step of a validated preset tells of the tracks that rest.  Only its
first entry may be that of a fired gateway.  If the step goes on, the track of a
gateway that fires rests after it, and so do the tracks that have rested before,
except for those that the entries tell are put back. -/
theorem Steps.exists_rests (step : Steps p catalogue options c s ending s')
    (fits : s.schedule.Fits p) (distinct : p.HasDistinctNames) (mem : c ∈ s.schedule.candidates)
    (due : c.dueAt ≤ s.now)
    (waits : ∀ gateway, p.node? c = some (.gateway gateway) → 0 < options.delayOf gateway) :
    ∃ e rest, s.Tells c s' (e :: rest) ∧ (∀ g ∈ rest, g.outcome.isFired = false) ∧
      ∀ place track, p.track? place = some track → ending = none →
        (s.schedule.Rests s.now place ∨ place = c.place ∧ e.outcome.isFired = true) →
          s'.schedule.Rests s.now place ∨ ∃ g ∈ e :: rest, g.putsBack p track.id = true := by
  have asleep : ∀ {place}, s.schedule.Rests s.now place → place ≠ c.place := by
    rintro place rests rfl
    exact Nat.not_lt_of_le due (rests.lt_dueAt mem)
  cases step with
  | @skill node castMs tried found done =>
      obtain ⟨e, told, _, _, unfired⟩ := (tries_of_cast done).exists_tells
      have schedule_eq := schedule_of_cast done
      refine ⟨e, _, told.trans (tells_advance tried c _), ?_, ?_⟩
      · simp [loopEntries, Outcome.isFired]
      · rintro place track there - before
        have rests : s.schedule.Rests s.now place := by
          rcases before with rests | ⟨_, fired⟩
          · exact rests
          · rcases unfired with eq | eq | eq <;> simp [eq, Outcome.isFired] at fired
        rw [schedule_advance, schedule_eq]
        rcases rests.advance (asleep rests) with kept | ⟨active, t, held, looped, rfl⟩
        · exact .inl kept
        · obtain ⟨g, listed, back⟩ :=
            exists_putsBack_loopEntries fits distinct tried c held there
          rw [looped]
          exact .inr ⟨g, List.mem_cons_of_mem e listed, back⟩
  | @passes gateway value found evaluated untrue =>
      refine ⟨_, _, (tells_record ..).trans (tells_advance ..), ?_, ?_⟩
      · simp [loopEntries, Outcome.isFired]
      · rintro place track there - before
        left
        rw [schedule_advance, schedule_record]
        have later := waits gateway found
        exact Schedule.rests_advance (before.imp_right And.left) (by omega)
  | @fires gateway effect looped schedule found holds fired uncast =>
      refine ⟨_, _, (tells_afterFire ..).trans (tells_recordLoop ..), ?_, ?_⟩
      · simp [loopEntries, Outcome.isFired]
      · intro place track there goes_on before
        have goes_on : effect ≠ .ended := by
          rintro rfl
          contradiction
        obtain ⟨own, own_there, at_node⟩ := Option.bind_eq_some_iff.mp found
        have stands := fits.standsFor mem found
        have left := Schedule.rests_of_dispatch fits.coherent mem own_there at_node
          (distinct.nodes c.place own own_there) fired goes_on uncast (waits gateway found)
          (before.imp_right And.left)
        rcases left with kept | back
        · left
          rw [schedule_recordLoop]
          exact kept
        · exact .inr ⟨_, List.mem_cons_self, putsBack_of_fired distinct stands there fired back⟩
  | @fireCasts gateway skill castMs tried found holds asks done =>
      obtain ⟨e, told, _, _, unfired⟩ := (tries_of_cast done).exists_tells
      have schedule_eq := schedule_of_cast done
      refine ⟨_, _, ((tells_afterFire ..).trans told).trans (tells_advance tried c _), ?_, ?_⟩
      · rcases unfired with eq | eq | eq <;> simp [eq, loopEntries, Outcome.isFired]
      · rintro place track there - before
        left
        rw [schedule_advance, schedule_eq]
        have later := waits gateway found
        exact Schedule.rests_advance (before.imp_right And.left) (by omega)

end State

/-! ## Whole timelines -/

/-- An entry from one position on, and before another, tells that a track is put
back. -/
def PutBackBetween (p : Preset) (timeline : List Entry) (track : String) (i j : Nat) : Prop :=
  ∃ k g, i ≤ k ∧ k < j ∧ timeline[k]? = some g ∧ g.putsBack p track = true

/-- Between two firings from one track at one time the track is put back. -/
def RefiresPutBack (p : Preset) (timeline : List Entry) : Prop :=
  ∀ ⦃i j : Nat⦄ ⦃e f : Entry⦄, i < j → timeline[i]? = some e → timeline[j]? = some f →
    e.outcome.isFired = true → f.outcome.isFired = true → f.track = e.track → f.time = e.time →
      PutBackBetween p timeline e.track i j

section

variable {p : Preset} {before after rest : List Entry} {track : String} {e f : Entry} {i j k : Nat}

theorem getElem?_append_of_some (found : before[i]? = some e) : (before ++ after)[i]? = some e := by
  rw [List.getElem?_append_left (List.getElem?_eq_some_iff.mp found).1]
  exact found

theorem PutBackBetween.append (back : PutBackBetween p before track i j) (le : j ≤ k) :
    PutBackBetween p (before ++ after) track i k := by
  obtain ⟨l, g, i_le, l_lt, found, tells⟩ := back
  exact ⟨l, g, i_le, Nat.lt_of_lt_of_le l_lt le, getElem?_append_of_some found, tells⟩

/-- What is told at the end of a timeline is told after all that was told
before. -/
theorem putBackBetween_of_mem (i_le : i ≤ before.length) (tells : ∃ g ∈ after, g.putsBack p track) :
    PutBackBetween p (before ++ after) track i (before ++ after).length := by
  obtain ⟨g, mem, back⟩ := tells
  obtain ⟨l, found⟩ := List.getElem?_of_mem mem
  have inside := (List.getElem?_eq_some_iff.mp found).1
  refine ⟨before.length + l, g, by omega, ?_, ?_, back⟩
  · rw [List.length_append]
    omega
  · rw [List.getElem?_append_right (Nat.le_add_right _ _), Nat.add_sub_cancel_left]
    exact found

/-- If of some further entries only the first may tell of a fired gateway, a
firing was there before or is that one. -/
theorem getElem?_fired (unfired : ∀ g ∈ rest, g.outcome.isFired = false)
    (found : (before ++ e :: rest)[j]? = some f) (fired : f.outcome.isFired = true) :
    before[j]? = some f ∨ j = before.length ∧ f = e := by
  rcases Nat.lt_or_ge j before.length with inside | beyond
  · rw [List.getElem?_append_left inside] at found
    exact .inl found
  · rw [List.getElem?_append_right beyond] at found
    cases offset : j - before.length with
    | zero =>
        rw [offset, List.getElem?_cons_zero] at found
        exact .inr ⟨by omega, (Option.some.inj found).symm⟩
    | succ m =>
        rw [offset, List.getElem?_cons_succ] at found
        rw [unfired f (List.mem_of_getElem? found)] at fired
        contradiction

end

namespace State

/-- A track from which a gateway has fired at the present time rests, unless it
has been put back since. -/
def Rested (p : Preset) (s : State) : Prop :=
  ∀ ⦃i : Nat⦄ ⦃e : Entry⦄, s.timeline.toList[i]? = some e → e.outcome.isFired = true →
    e.time = s.now → ∀ place track, p.track? place = some track → track.id = e.track →
      s.schedule.Rests s.now place ∨
        PutBackBetween p s.timeline.toList e.track i s.timeline.toList.length

variable {p : Preset} {catalogue : Catalogue} {options : Options} {s s' later : State}
  {c : Candidate} {ending : Option End}

/-- What the loop comes to after an entry at the same time, it has come to
without waiting. -/
theorem InLimits.now_eq (limits : s.InLimits options) (comes : Comes options s c later) {i : Nat}
    {e : Entry} (found : s.timeline.toList[i]? = some e) (time_eq : e.time = later.now) :
    later.now = s.now := by
  have past := limits.past e (List.mem_of_getElem? found)
  have now_le := comes.now_le
  omega

/-- If the track of a node that the loop comes to has fired at the same time, it has
been put back. -/
theorem Rested.putBack (rested : s.Rested p) (limits : s.InLimits options)
    (fits : s.schedule.Fits p) (comes : Comes options s c later) {i : Nat} {e : Entry}
    (at_i : s.timeline.toList[i]? = some e) (fired : e.outcome.isFired = true)
    (same_track : c.track = e.track) (same_time : e.time = later.now) :
    PutBackBetween p s.timeline.toList e.track i s.timeline.toList.length := by
  have now_eq := limits.now_eq comes at_i same_time
  have due := (Schedule.le_of_pick comes.picked).2.1
  have mem : c ∈ s.schedule.candidates := comes.schedule ▸ comes.mem
  obtain ⟨_, own, own_there, _, named⟩ := fits.exists_standsFor mem
  rcases rested at_i fired (same_time.trans now_eq) c.place own own_there
      (named.symm.trans same_track) with rests | back
  · have late := rests.lt_dueAt mem
    omega
  · exact back

theorem Rested.steps (rested : s.Rested p) (refires : RefiresPutBack p s.timeline.toList)
    (limits : s.InLimits options) (fits : s.schedule.Fits p) (distinct : p.HasDistinctNames)
    (comes : Comes options s c later) (step : Steps p catalogue options c later ending s')
    (waits : ∀ gateway, p.node? c = some (.gateway gateway) → 0 < options.delayOf gateway) :
    RefiresPutBack p s'.timeline.toList ∧ (ending = none → s'.Rested p) := by
  have later_fits : later.schedule.Fits p := comes.schedule ▸ fits
  have due := (Schedule.le_of_pick comes.picked).2.1
  obtain ⟨e₀, rest, tells, unfired, kept⟩ :=
    step.exists_rests later_fits distinct comes.mem due waits
  obtain ⟨_, own, own_there, _, named⟩ := later_fits.exists_standsFor comes.mem
  have told_track : e₀.track = c.track := tells.track e₀ List.mem_cons_self
  have time_eq : e₀.time = later.now := tells.time e₀ List.mem_cons_self
  have timeline_eq : s'.timeline.toList = s.timeline.toList ++ e₀ :: rest :=
    comes.timeline ▸ tells.timeline
  constructor
  · intro i j e f i_lt at_i at_j fired refired same_track same_time
    rw [timeline_eq] at at_i at_j ⊢
    rcases getElem?_fired unfired at_j refired with at_j | ⟨rfl, rfl⟩
    · have inside := (List.getElem?_eq_some_iff.mp at_j).1
      rw [List.getElem?_append_left (Nat.lt_trans i_lt inside)] at at_i
      exact (refires i_lt at_i at_j fired refired same_track same_time).append (Nat.le_refl j)
    · rw [List.getElem?_append_left i_lt] at at_i
      have back := rested.putBack limits fits comes at_i fired (told_track.symm.trans same_track)
        (same_time.symm.trans time_eq)
      exact back.append (Nat.le_refl _)
  · rintro goes_on i e at_i fired same_time place track there id_eq
    rw [timeline_eq] at at_i ⊢
    rw [tells.now] at same_time ⊢
    rcases getElem?_fired unfired at_i fired with at_i | ⟨rfl, rfl⟩
    · have i_le := Nat.le_of_lt (List.getElem?_eq_some_iff.mp at_i).1
      have now_eq := limits.now_eq comes at_i same_time
      rcases rested at_i fired (same_time.trans now_eq) place track there id_eq with rests | back
      · rw [← comes.schedule, ← now_eq] at rests
        rcases kept place track there goes_on (.inl rests) with still | tells
        · exact .inl still
        · exact .inr (putBackBetween_of_mem i_le (id_eq ▸ tells))
      · exact .inr (back.append (by simp))
    · obtain rfl : place = c.place := distinct.tracks there own_there
        (id_eq.trans (told_track.trans named))
      rcases kept c.place track there goes_on (.inr ⟨rfl, fired⟩) with still | tells
      · exact .inl still
      · exact .inr (putBackBetween_of_mem (Nat.le_refl _) (id_eq ▸ tells))

theorem rested_start (p : Preset) : (start p).Rested p := by
  intro i e at_i
  simp [start] at at_i

theorem rested_of_turns (turns : Relation.ReflTransGen (Turn p catalogue options) (start p) s)
    (sound : p.Sound) (distinct : p.HasDistinctNames) (waits : p.GatewaysWait options) :
    s.Rested p ∧ RefiresPutBack p s.timeline.toList := by
  induction turns with
  | refl =>
      refine ⟨rested_start p, ?_⟩
      intro i j e f _ at_i
      simp [start] at at_i
  | tail before turn ih =>
      obtain ⟨rested, refires⟩ := ih
      obtain ⟨c, later, comes, stepped⟩ := turn
      have kept := rested.steps refires ((inLimits_start p options).turns before)
        (fits_of_turns before sound (Schedule.fits_start p 0)) distinct comes
        (steps_of_step stepped) fun _ => waits.of_node?
      exact ⟨kept.2 rfl, kept.1⟩

/-- A report shows the timeline of a state that the loop has come to, or that of
the step after it. -/
theorem refires_of_concludes {report : Report} {n : Nat}
    (turns : Relation.ReflTransGen (Turn p catalogue options) (start p) s) (sound : p.Sound)
    (distinct : p.HasDistinctNames) (waits : p.GatewaysWait options)
    (last : Concludes p catalogue options s n (.ok (.ok report))) :
    RefiresPutBack p report.timeline := by
  obtain ⟨rested, refires⟩ := rested_of_turns turns sound distinct waits
  cases last with
  | halts halts => cases halts <;> exact refires
  | stops comes stopped =>
      obtain ⟨final, after, stepped, rfl⟩ := eq_report_of_stop? stopped
      exact (rested.steps refires ((inLimits_start p options).turns turns)
        (fits_of_turns turns sound (Schedule.fits_start p 0)) distinct comes
        (steps_of_step stepped) fun _ => waits.of_node?).1

end State

end Simulation

open Simulation

/-- If every gateway of a validated preset makes its track wait, then gateways
fire twice from one track at one time only if the track has been put back in
between: by a jump into it that does not find the gateway itself, by a switch to
its mode, or by a lap of its mode.  In particular no gateway fires twice at one
time unless an entry from its first firing on tells so. -/
theorem Draft.putBackBetween_of_validate {d : Draft} {catalogue : Catalogue} {p : Preset}
    (valid : (d.validate catalogue).preset = some p) {used : Catalogue} {options : Options}
    (waits : p.GatewaysWait options) {report : Report}
    (simulated : simulate p used options = .ok (.ok report)) {i j : Nat} {e f : Entry}
    (earlier : i < j) (at_i : report.timeline[i]? = some e) (at_j : report.timeline[j]? = some f)
    (fired : e.outcome.isFired = true) (refired : f.outcome.isFired = true)
    (same_track : f.track = e.track) (same_time : f.time = e.time) :
    PutBackBetween p report.timeline e.track i j := by
  have compiles := compiles_of_validate valid
  have sound : p.Sound := fun _ _ _ there mem => compiles.resolves_of_mem there mem
  obtain ⟨last, k, turns, concluded⟩ := State.exists_concludes p used options
  rw [simulated] at concluded
  exact State.refires_of_concludes turns sound compiles.hasDistinctNames waits concluded earlier
    at_i at_j fired refired same_track same_time

/-! ## Tracks that are put back -/

/-- A gateway that always fires. -/
def Draft.firing (id : String) (action : Action) : Node :=
  .gateway ⟨id, 0, none, .record [("type", .text "const"), ("value", .bool true)], action, false⟩

/-- Two gateways that jump to each other. -/
def Draft.rally : Draft :=
  { id := "rally"
    name := ""
    entryMode := none
    defaultGapMs := 0
    globalTracks :=
      [⟨"court", [firing "ping" (.jumpNode "pong"), firing "pong" (.jumpNode "ping")]⟩]
    modes := [] }

/-- A gateway that lets its own mode begin again. -/
def Draft.encore : Draft :=
  { id := "encore"
    name := ""
    entryMode := some "hall"
    defaultGapMs := 0
    globalTracks := []
    modes := [⟨"hall", [⟨"stage", [firing "bow" (.switchMode "hall" none none)]⟩]⟩] }

/-- A gateway before a skill that takes no time, so that their mode begins again
at once. -/
def Draft.carousel : Draft :=
  { id := "carousel"
    name := ""
    entryMode := some "ring"
    defaultGapMs := 0
    globalTracks := []
    modes := [⟨"ring",
      [⟨"inner", [firing "horse" (.castSkill "ride")]⟩,
        ⟨"outer",
          [.skill ⟨"turn", "ride", 1, none, none, .standard, .standard, .standard⟩]⟩]⟩] }

/-- A skill that takes no time. -/
def Skill.ride : Skill :=
  { Skill.named "ride" with key := some "1", castMs := 0, cooldownMs := 0 }

/-- All gateways of a draft wait, and still the gateway that fires first in a
short simulation of it fires again at the same time. -/
def Draft.RefiresAtOnce (d : Draft) (j : Nat) : Prop :=
  ∃ p report e f, (d.validate (.ofLists [.ride] [])).preset = some p ∧
    p.GatewaysWait ⟨1000, 5, 50, 20⟩ ∧
    simulate p (.ofLists [.ride] []) ⟨1000, 5, 50, 20⟩ = .ok (.ok report) ∧
    report.timeline[0]? = some e ∧ report.timeline[j]? = some f ∧
    e.outcome.isFired = true ∧ f.outcome.isFired = true ∧
    f.track = e.track ∧ f.node = e.node ∧ f.time = e.time

/-- The same as a check that can be run. -/
def Draft.refiresAtOnce (d : Draft) (j : Nat) : Bool :=
  (d.validate (.ofLists [.ride] [])).preset.any fun p =>
    decide (p.GatewaysWait ⟨1000, 5, 50, 20⟩) &&
      ((simulate p (.ofLists [.ride] []) ⟨1000, 5, 50, 20⟩).toOption.bind Except.toOption).any
        fun report => report.timeline[0]?.any fun e => report.timeline[j]?.any fun f =>
          e.outcome.isFired && f.outcome.isFired && decide (f.track = e.track) &&
            decide (f.node = e.node) && decide (f.time = e.time)

theorem Draft.refiresAtOnce_of_check {d : Draft} {j : Nat} (checked : d.refiresAtOnce j = true) :
    d.RefiresAtOnce j := by
  obtain ⟨p, valid, rest⟩ := (Option.any_eq_true _ _).mp checked
  obtain ⟨waits, simulated⟩ := (Bool.and_eq_true_iff).mp rest
  obtain ⟨report, found, refires⟩ := (Option.any_eq_true _ _).mp simulated
  obtain ⟨e, at_0, later⟩ := (Option.any_eq_true _ _).mp refires
  obtain ⟨f, at_j, same⟩ := (Option.any_eq_true _ _).mp later
  simp only [Bool.and_eq_true, decide_eq_true_eq] at same
  obtain ⟨⟨⟨⟨fired, refired⟩, track_eq⟩, node_eq⟩, time_eq⟩ := same
  exact ⟨p, report, e, f, valid, of_decide_eq_true waits, Checked.eq_ok_of_toOption found, at_0,
    at_j, fired, refired, track_eq, node_eq, time_eq⟩

/-- In a rally the track is put back by a jump. -/
theorem Draft.rally_is_put_back :
    ∃ p, ∃ report : Report, ∃ e f : Entry, (rally.validate (.ofLists [.ride] [])).preset = some p ∧
      report.timeline[0]? = some e ∧ report.timeline[2]? = some f ∧ f.node = e.node ∧
      f.time = e.time ∧ PutBackBetween p report.timeline e.track 0 2 := by
  have refires : rally.RefiresAtOnce 2 := refiresAtOnce_of_check (by decide +kernel)
  obtain ⟨p, report, e, f, valid, waits, simulated, at_0, at_2, fired, refired, track_eq, node_eq,
    time_eq⟩ := refires
  exact ⟨p, report, e, f, valid, at_0, at_2, node_eq, time_eq,
    putBackBetween_of_validate valid waits simulated (by decide) at_0 at_2 fired refired track_eq
      time_eq⟩

/-- A gateway that waits may fire again at the same time, after a jump, after a
switch and after a lap. -/
theorem Draft.fires_again_at_once :
    rally.RefiresAtOnce 2 ∧ encore.RefiresAtOnce 1 ∧ carousel.RefiresAtOnce 4 := by
  refine ⟨?_, ?_, ?_⟩ <;> exact refiresAtOnce_of_check (by decide +kernel)

end Rotation
