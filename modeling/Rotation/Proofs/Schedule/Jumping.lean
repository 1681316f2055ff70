import Rotation.Proofs.Preset.Validation
import Rotation.Proofs.Schedule.Standing

/-!
# Jumps

A gateway jumps to a node of its own track or into another track that is active
with it.  A jump always lands on the node that it asks for.  That node is due at
once, and the gateway's own track goes on to its next node after the gateway's
delay; only a jump back to the gateway itself waits.

Two things are otherwise than one may expect.  The gateway is recognised by its
identifier alone, which another track may use as well: a jump to such a
namesake waits, too.  And the own track is moved on before the jump lands.  If
nothing else is left of the mode at that moment, the mode begins again, even
though the jump is about to put a track of it back.
-/

namespace Rotation

/-- Where an action at a place jumps to: the place of the track, and the node
that it names there. -/
def Preset.jumpTarget? (p : Preset) (place : Place) : Action → Option (Place × Option String)
  | .jumpNode node => some (place, some node)
  | .jumpTrack track node => (p.locate? track).map fun target => (target, node)
  | _ => none

namespace Schedule

variable {s moved : Schedule} {p : Preset} {place target : Place} {gateway : Gateway}
  {entry : Option String} {track : Track} {c : Candidate} {node now delay : Nat}

/-! ## One jump -/

/-- A jump that resolves goes to a track alongside and has a landing there. -/
theorem hasLanding_of_resolves (resolves : p.Resolves place gateway.action)
    (jumps : p.jumpTarget? place gateway.action = some (target, entry)) :
    target.Alongside place ∧ p.HasLanding target entry := by
  cases action_eq : gateway.action with
  | jumpNode id =>
      rw [action_eq] at resolves jumps
      cases jumps
      exact ⟨by cases place <;> simp [Place.Alongside], resolves⟩
  | jumpTrack id named =>
      rw [action_eq] at resolves jumps
      obtain ⟨_, located, same⟩ := Option.map_eq_some_iff.mp jumps
      cases same
      obtain ⟨found, found_eq, alongside, landing⟩ := resolves
      obtain rfl := Option.some.inj (located.symm.trans found_eq)
      exact ⟨alongside, landing⟩
  | finish | switchMode | castSkill =>
      rw [action_eq] at jumps
      contradiction

theorem landsOnItself_of_landingTime_eq_error {fault : Fault}
    (failed : landingTime p target node gateway now delay = .error fault) :
    landsOnItself p target gateway node := by
  unfold landingTime at failed
  split at failed
  · assumption
  · contradiction

/-- A jump lands, after the own track has moved on if another one is jumped to;
or a sum of times that it needs does not fit a word. -/
theorem dispatch_jump_cases (jumps : p.jumpTarget? place gateway.action = some (target, entry))
    (active : s.isActive target = true) (node_eq : landingNode p target entry = .ok node)
    (now delay : Nat) :
    (∃ time, landingTime p target node gateway now delay = .ok time ∧
      (target = place ∧ s.dispatch p place gateway now delay =
          .ok (.ok ⟨.jumped target node, none⟩, s.relocate target node time) ∨
        target ≠ place ∧ s.dispatch p place gateway now delay =
          .ok (.ok ⟨.jumped target node, (s.advance place (now + delay)).1⟩,
            (s.advance place (now + delay)).2.relocate target node time))) ∨
      ¬ Unsigned.Fits 64 (now + delay) ∧ (target = place → landsOnItself p target gateway node) ∧
        s.dispatch p place gateway now delay = .error .addOverflow := by
  unfold dispatch
  cases action_eq : gateway.action with
  | jumpNode id =>
      rw [action_eq] at jumps
      cases jumps
      rcases dispatchJumpNode_of_landingNode s gateway now delay node_eq with
        ⟨time, landed, fired⟩ | ⟨overflow, late, failed⟩
      · exact .inl ⟨time, landed, .inl ⟨rfl, fired⟩⟩
      · exact .inr ⟨overflow, fun _ => landsOnItself_of_landingTime_eq_error late, failed⟩
  | jumpTrack id named =>
      rw [action_eq] at jumps
      obtain ⟨_, located, same⟩ := Option.map_eq_some_iff.mp jumps
      cases same
      rcases dispatchJumpTrack_of_landingNode gateway place now delay located active node_eq with
        lands | ⟨overflow, late, failed⟩
      · exact .inl lands
      · exact .inr ⟨overflow, fun own => landsOnItself_of_landingTime_eq_error (late own), failed⟩
  | finish | switchMode | castSkill =>
      rw [action_eq] at jumps
      contradiction

/-- A jump that has a landing lands on the node that it asks for. -/
theorem requested_of_landingNode (there : p.track? target = some track)
    (node_eq : landingNode p target entry = .ok node) : track.Requested entry node := by
  unfold landingNode at node_eq
  rw [there] at node_eq
  cases entry with
  | none =>
      cases node_eq
      rfl
  | some id =>
      dsimp only at node_eq
      split at node_eq
      · rename_i position
        cases node_eq
        exact Preset.exists_of_position? position
      · contradiction

/-- In the gateway's own track a jump finds the gateway itself on its node. -/
theorem landsOnItself_own_iff (there : p.track? c.place = some track)
    (distinct : (track.nodes.map Node.id).Nodup)
    (found : p.node? c = some (.gateway gateway)) :
    landsOnItself p c.place gateway node ↔ node = c.node := by
  obtain ⟨own, own_there, at_node⟩ := Option.bind_eq_some_iff.mp found
  obtain rfl := Option.some.inj (there.symm.trans own_there)
  rw [landsOnItself_iff there distinct]
  constructor
  · rintro ⟨n, n_at, id_eq⟩
    exact Preset.index_eq_of_nodup_map distinct n_at at_node id_eq
  · rintro rfl
    exact ⟨_, at_node, rfl⟩

/-! ## Jumps of candidates -/

theorem activeIn_advance (active : target.ActiveIn s.modeIndex) (place : Place) (time : Nat) :
    target.ActiveIn (s.advance place time).2.modeIndex := by
  have same : (s.advance place time).2.modeIndex = s.modeIndex :=
    modeIndex_call (c := .advance place time) trivial
  rwa [same]

/-- A jump of a candidate puts the cursor of its target on the node that it asks
for; or a sum of times that it needs does not fit a word. -/
theorem Fits.jump_cases (fits : s.Fits p) (sound : p.Sound) (mem : c ∈ s.candidates)
    (found : p.node? c = some (.gateway gateway))
    (jumps : p.jumpTarget? c.place gateway.action = some (target, entry))
    (there : p.track? target = some track) (nonempty : track.nodes ≠ []) (now delay : Nat) :
    ∃ node, track.Requested entry node ∧
      ((∃ time moved looped, landingTime p target node gateway now delay = .ok time ∧
        s.dispatch p c.place gateway now delay = .ok (.ok ⟨.jumped target node, looped⟩, moved) ∧
        moved.Stands target (some node) time ∧
        (target = c.place ∧ looped = none ∧ moved = s.relocate target node time ∨
          target ≠ c.place ∧ looped = (s.advance c.place (now + delay)).1 ∧
            moved = (s.advance c.place (now + delay)).2.relocate target node time)) ∨
      ¬ Unsigned.Fits 64 (now + delay) ∧ (target = c.place → landsOnItself p target gateway node) ∧
        s.dispatch p c.place gateway now delay = .error .addOverflow) := by
  obtain ⟨own, own_there, at_node⟩ := Option.bind_eq_some_iff.mp found
  have resolves := sound own_there (List.mem_of_getElem? at_node)
  obtain ⟨alongside, landing⟩ := hasLanding_of_resolves resolves jumps
  obtain ⟨node, node_eq⟩ := landingNode_of_hasLanding landing
  have requested := requested_of_landingNode there node_eq
  have inside := requested.lt nonempty
  have active := fits.isActive_of_alongside mem alongside there
  have active_in := activeIn_of_alongside mem alongside
  refine ⟨node, requested, ?_⟩
  rcases dispatch_jump_cases jumps active node_eq now delay with
    ⟨time, landed, ⟨same, fired⟩ | ⟨other, fired⟩⟩ | overflow
  · exact .inl ⟨time, _, none, landed, fired, fits.stands_relocate active_in there inside time,
      .inl ⟨same, rfl, rfl⟩⟩
  · have stands := (fits.advance c.place (now + delay)).stands_relocate
      (activeIn_advance active_in _ _) there inside time
    exact .inl ⟨time, _, _, landed, fired, stands, .inr ⟨other, rfl, rfl⟩⟩
  · exact .inr overflow

end Schedule

/-- A jump comes back to the node that it starts from. -/
def Candidate.ReturnsTo (c : Candidate) (target : Place) (node : Nat) : Prop :=
  target = c.place ∧ node = c.node

/-- A jump goes to another track and comes to a node there that has the
identifier of the gateway. -/
def Preset.MeetsNamesake (p : Preset) (c : Candidate) (gateway : Gateway) (target : Place)
    (node : Nat) : Prop :=
  target ≠ c.place ∧ ∃ track n, p.track? target = some track ∧ track.nodes[node]? = some n ∧
    n.id = gateway.id

namespace Schedule

variable {d : Draft} {catalogue : Catalogue} {p : Preset} {s : Schedule} {c : Candidate}
  {gateway : Gateway} {time : Nat} {target : Place} {entry : Option String} {track : Track}

/-- A jump finds the gateway itself when it comes back to it, and when it meets
a namesake. -/
theorem landsOnItself_iff_of_mem
    (distinct : ∀ {place own}, p.track? place = some own → (own.nodes.map Node.id).Nodup)
    (found : p.node? c = some (.gateway gateway)) (there : p.track? target = some track)
    {node : Nat} :
    landsOnItself p target gateway node ↔
      c.ReturnsTo target node ∨ p.MeetsNamesake c gateway target node := by
  by_cases same : target = c.place
  · subst same
    rw [landsOnItself_own_iff there (distinct there) found]
    simp [Candidate.ReturnsTo, Preset.MeetsNamesake]
  · rw [landsOnItself_iff there (distinct there)]
    simp [Candidate.ReturnsTo, Preset.MeetsNamesake, same, there]

/-- A jump of a gateway of a validated preset puts the cursor of its target on
the node that it asks for, in every state that a run can come to.  The node is
due after the gateway's delay if the jump comes back to the gateway or meets a
namesake of it, and at once if not.  Nothing else happens unless the delay is
added, to make a track wait, and the sum does not fit a word. -/
theorem jump_stands_on_requested (valid : (d.validate catalogue).preset = some p)
    (reached : Reachable p time s) (mem : c ∈ s.candidates)
    (found : p.node? c = some (.gateway gateway))
    (jumps : p.jumpTarget? c.place gateway.action = some (target, entry))
    (there : p.track? target = some track) (nonempty : track.nodes ≠ []) (now delay : Nat) :
    ∃ node, track.Requested entry node ∧
      ((∃ looped moved due,
        s.dispatch p c.place gateway now delay = .ok (.ok ⟨.jumped target node, looped⟩, moved) ∧
        moved.Stands target (some node) due ∧
        (due = now + delay ∧ (c.ReturnsTo target node ∨ p.MeetsNamesake c gateway target node) ∨
          due = now ∧ ¬ c.ReturnsTo target node ∧ ¬ p.MeetsNamesake c gateway target node)) ∨
      ¬ Unsigned.Fits 64 (now + delay) ∧ (target = c.place → node = c.node) ∧
        s.dispatch p c.place gateway now delay = .error .addOverflow) := by
  have compiles := Draft.compiles_of_validate valid
  have sound : p.Sound := fun _ _ _ there mem => compiles.resolves_of_mem there mem
  have itself_iff : ∀ node, landsOnItself p target gateway node ↔
      c.ReturnsTo target node ∨ p.MeetsNamesake c gateway target node :=
    fun _ => landsOnItself_iff_of_mem compiles.hasDistinctNodes found there
  obtain ⟨node, requested, jumped | ⟨overflow, itself, failed⟩⟩ :=
    (reached.fits sound).jump_cases sound mem found jumps there nonempty now delay
  · obtain ⟨due, moved, looped, landed, fired, stands, _⟩ := jumped
    refine ⟨node, requested, .inl ⟨looped, moved, due, fired, stands, ?_⟩⟩
    rw [← not_or, ← itself_iff]
    rcases landingTime_eq_ok landed with ⟨own, due_eq⟩ | ⟨elsewhere, due_eq⟩
    · exact .inl ⟨due_eq, own⟩
    · exact .inr ⟨due_eq, elsewhere⟩
  · refine ⟨node, requested, .inr ⟨overflow, fun same => ?_, failed⟩⟩
    rcases (itself_iff node).mp (itself same) with ⟨_, node_eq⟩ | ⟨other, _⟩
    · exact node_eq
    · exact absurd same other

/-- A jump of a gateway of a validated preset to another track of its mode, in
every state that a run can come to.  Unless the gateway is the last node that is
left of the mode, its own track goes on to the next node, the target stands on
the node that is asked for, and all other cursors stay as they are.  If it is
the last one, the mode begins again, and after that the target is put on the
node. -/
theorem jump_inside_mode (valid : (d.validate catalogue).preset = some p)
    (reached : Reachable p time s) (mem : c ∈ s.candidates)
    (found : p.node? c = some (.gateway gateway)) {m t u : Nat} {id : String}
    (at_place : c.place = .mode m t) (jumps : gateway.action = .jumpTrack id entry)
    (located : p.locate? id = some (.mode m u)) (elsewhere : u ≠ t)
    (there : p.track? (.mode m u) = some track) (nonempty : track.nodes ≠ []) (now delay : Nat) :
    ∃ own node, p.track? c.place = some own ∧ track.Requested entry node ∧
      ((∃ looped moved due,
        s.dispatch p c.place gateway now delay =
          .ok (.ok ⟨.jumped (.mode m u) node, looped⟩, moved) ∧
        moved.Stands (.mode m u) (some node) due ∧
        (¬ s.EndsLap p c ∧ looped = none ∧
            (∃ next, own.IsNext c.node next ∧ moved.Stands c.place next (now + delay)) ∧
            (∀ other, other ≠ c.place → other ≠ .mode m u →
              moved.cursor? other = s.cursor? other) ∨
          s.EndsLap p c ∧ (∃ mode, p.modes[m]? = some mode ∧ looped = some mode.id) ∧
            (∀ i, moved.cursor? (.global i) = s.cursor? (.global i)) ∧
            ∀ v other, v ≠ u → p.track? (.mode m v) = some other →
              ∃ first, other.IsFirst first ∧ moved.Stands (.mode m v) first (now + delay))) ∨
      ¬ Unsigned.Fits 64 (now + delay) ∧
        s.dispatch p c.place gateway now delay = .error .addOverflow) := by
  have compiles := Draft.compiles_of_validate valid
  have sound : p.Sound := fun _ _ _ there mem => compiles.resolves_of_mem there mem
  have fits := reached.fits sound
  have jumps_to : p.jumpTarget? c.place gateway.action = some (.mode m u, entry) := by
    rw [jumps, Preset.jumpTarget?, located, Option.map_some]
  have target_ne : Place.mode m u ≠ c.place := by
    rw [at_place]
    simpa using elsewhere
  obtain ⟨own, own_there, _⟩ := Option.bind_eq_some_iff.mp found
  obtain ⟨node, requested, jumped | ⟨overflow, _, failed⟩⟩ :=
    fits.jump_cases sound mem found jumps_to there nonempty now delay
  · obtain ⟨due, moved, looped, _, fired, stands, ⟨same, _⟩ | ⟨_, rfl, rfl⟩⟩ := jumped
    · exact absurd same target_ne
    have untouched : ∀ other, other ≠ .mode m u →
        ((s.advance c.place (now + delay)).2.relocate (.mode m u) node due).cursor? other =
          (s.advance c.place (now + delay)).2.cursor? other :=
      fun _ ne => cursor?_relocate_of_ne ne node due
    refine ⟨own, node, own_there, requested, .inl ⟨_, _, due, fired, stands, ?_⟩⟩
    rcases advance_mode_cases fits mem own_there at_place (now + delay) with
      ⟨going, unlooped, next, is_next, own_stands⟩ | ⟨ends, looped, globals, firsts⟩
    · refine .inl ⟨going, unlooped, ⟨next, is_next, ?_⟩, fun other ne_own ne_target => ?_⟩
      · exact own_stands.of_cursor?_eq (untouched _ target_ne.symm)
      · rw [untouched other ne_target, cursor?_advance_of_ne ne_own unlooped]
    · refine .inr ⟨ends, looped, fun i => ?_, fun v other ne other_there => ?_⟩
      · rw [untouched _ (by simp), globals]
      · obtain ⟨first, is_first, first_stands⟩ := firsts v other other_there
        exact ⟨first, is_first, first_stands.of_cursor?_eq (untouched _ (by simpa using ne))⟩
  · exact ⟨own, node, own_there, requested, .inr ⟨overflow, failed⟩⟩

end Schedule

/-! ## Gateways that come up -/

/-- In a run of a draft without skills a gateway comes up with a property. -/
def Draft.Meets (d : Draft) (P : Preset → Schedule → Candidate → Rotation.Gateway → Prop) : Prop :=
  ∃ p s c gateway, (d.validate (.ofLists [] [])).preset = some p ∧ Schedule.Reachable p 0 s ∧
    c ∈ s.candidates ∧ p.node? c = some (.gateway gateway) ∧ P p s c gateway

/-- The gateway of a candidate. -/
def Preset.gatewayAt? (p : Preset) (c : Candidate) : Option Gateway :=
  (p.node? c).bind fun
    | .gateway gateway => some gateway
    | .skill _ => none

theorem Preset.node?_of_gatewayAt? {p : Preset} {c : Candidate} {gateway : Gateway}
    (found : p.gatewayAt? c = some gateway) : p.node? c = some (.gateway gateway) := by
  obtain ⟨node, at_c, same⟩ := Option.bind_eq_some_iff.mp found
  cases node with
  | skill _ => contradiction
  | gateway _ =>
      cases same
      exact at_c

/-- The candidates as they stand in the tracks, before they are sorted. -/
def Schedule.offers (s : Schedule) : List Candidate :=
  s.globalCandidates ++ (s.mode.map ActiveMode.candidates).getD []

theorem Schedule.mem_candidates_of_mem_offers {s : Schedule} {c : Candidate}
    (mem : c ∈ s.offers) : c ∈ s.candidates :=
  List.mem_mergeSort.mpr mem

/-- Whether a gateway comes up of which a check is true, after `n` others have
been passed. -/
def Preset.meets (p : Preset) (check : Schedule → Candidate → Gateway → Bool) :
    Nat → Schedule → Bool
  | 0, s => s.offers.any fun c => (p.gatewayAt? c).any (check s c)
  | n + 1, s => s.offers.any fun c =>
    (p.gatewayAt? c).isSome && p.meets check n (s.advance c.place 0).2

theorem Preset.exists_of_meets {p : Preset} {check : Schedule → Candidate → Gateway → Bool}
    {n : Nat} {s : Schedule} (reached : Schedule.Reachable p 0 s)
    (checked : p.meets check n s = true) :
    ∃ s c gateway, Schedule.Reachable p 0 s ∧ c ∈ s.candidates ∧
      p.node? c = some (.gateway gateway) ∧ check s c gateway = true := by
  induction n generalizing s with
  | zero =>
      rw [meets, List.any_eq_true] at checked
      obtain ⟨c, mem, holds⟩ := checked
      obtain ⟨gateway, found, checks⟩ := (Option.any_eq_true _ _).mp holds
      exact ⟨s, c, gateway, reached, Schedule.mem_candidates_of_mem_offers mem,
        node?_of_gatewayAt? found, checks⟩
  | succ n ih =>
      rw [meets, List.any_eq_true] at checked
      obtain ⟨c, mem, holds⟩ := checked
      obtain ⟨is_gateway, later⟩ := (Bool.and_eq_true_iff).mp holds
      obtain ⟨gateway, found⟩ := Option.isSome_iff_exists.mp is_gateway
      have passed := Schedule.mem_candidates_of_mem_offers mem
      exact ih (reached.tail (.pass passed (node?_of_gatewayAt? found) 0)) later

theorem Draft.meets_of_check {d : Draft} {n : Nat}
    {P : Preset → Schedule → Candidate → Rotation.Gateway → Prop}
    {check : Preset → Schedule → Candidate → Rotation.Gateway → Bool}
    (holds : ∀ p s c gateway, check p s c gateway = true → P p s c gateway)
    (checked : ((d.validate (.ofLists [] [])).preset.any fun p =>
      p.meets (check p) n (Schedule.start p 0)) = true) : d.Meets P := by
  obtain ⟨p, valid, met⟩ := (Option.any_eq_true _ _).mp checked
  obtain ⟨s, c, gateway, reached, mem, found, checks⟩ := Preset.exists_of_meets .refl met
  exact ⟨p, s, c, gateway, valid, reached, mem, found, holds p s c gateway checks⟩

/-- What a dispatch has done, if it has not failed. -/
def Schedule.done? : Checked Schedule.Outcome → Option (Dispatched × Schedule)
  | .ok (.ok done, moved) => some (done, moved)
  | _ => none

theorem Schedule.eq_ok_of_done? {result : Checked Outcome} {done : Dispatched} {moved : Schedule}
    (fired : done? result = some (done, moved)) : result = .ok (.ok done, moved) := by
  unfold done? at fired
  split at fired
  · cases fired
    rfl
  · contradiction

/-- A gateway that always fires. -/
def Draft.bell (id : String) (step : Int32) (action : Action) : Node :=
  .gateway ⟨id, step, none, .record [("type", .text "const"), ("value", .bool true)], action, false⟩

/-! ## Namesakes -/

/-- Two tracks with a bell each, and one bell rings the other. -/
def Draft.carillon : Draft :=
  { id := "carillon"
    name := ""
    entryMode := none
    defaultGapMs := 0
    globalTracks :=
      [⟨"left", [bell "bell" 0 (.jumpTrack "right" (some "bell"))]⟩,
        ⟨"right", [bell "bell" 0 .finish]⟩]
    modes := [] }

/-- A gateway jumps to another track, which is due after the gateway's delay. -/
def Preset.RingsLate (p : Preset) (s : Schedule) (c : Candidate) (gateway : Gateway) : Prop :=
  ∃ target entry track effect looped moved,
    p.jumpTarget? c.place gateway.action = some (target, entry) ∧ target ≠ c.place ∧
      p.track? target = some track ∧ track.nodes ≠ [] ∧
      s.dispatch p c.place gateway 0 20 = .ok (.ok ⟨effect, looped⟩, moved) ∧
      moved.due? target = some 20

/-- The same as a check that can be run. -/
def Preset.ringsLate (p : Preset) (s : Schedule) (c : Candidate) (gateway : Gateway) : Bool :=
  (p.jumpTarget? c.place gateway.action).any fun jump =>
    decide (jump.1 ≠ c.place) && (p.track? jump.1).any (fun track => !track.nodes.isEmpty) &&
      (Schedule.done? (s.dispatch p c.place gateway 0 20)).any fun done =>
        decide (done.2.due? jump.1 = some 20)

theorem Preset.ringsLate_of_check {p : Preset} {s : Schedule} {c : Candidate} {gateway : Gateway}
    (checked : p.ringsLate s c gateway = true) : p.RingsLate s c gateway := by
  obtain ⟨⟨target, entry⟩, jumps, rest⟩ := (Option.any_eq_true _ _).mp checked
  obtain ⟨places, fires⟩ := (Bool.and_eq_true_iff).mp rest
  obtain ⟨elsewhere, has_nodes⟩ := (Bool.and_eq_true_iff).mp places
  obtain ⟨track, there, nonempty⟩ := (Option.any_eq_true _ _).mp has_nodes
  obtain ⟨⟨⟨effect, looped⟩, moved⟩, fired, late⟩ := (Option.any_eq_true _ _).mp fires
  exact ⟨target, entry, track, effect, looped, moved, jumps, of_decide_eq_true elsewhere, there,
    by simpa using nonempty, Schedule.eq_ok_of_done? fired, of_decide_eq_true late⟩

theorem Draft.carillon_meets : carillon.Meets Preset.RingsLate :=
  meets_of_check (n := 0) (fun _ _ _ _ => Preset.ringsLate_of_check) (by decide +kernel)

/-- In a carillon the bell that is rung stands ready only after the delay of the
bell that rings it. -/
theorem Draft.carillon_stands_late : carillon.Meets fun p s c gateway =>
    ∃ target entry track node looped moved,
      p.jumpTarget? c.place gateway.action = some (target, entry) ∧
        p.track? target = some track ∧ track.Requested entry node ∧
        s.dispatch p c.place gateway 0 20 = .ok (.ok ⟨.jumped target node, looped⟩, moved) ∧
        moved.Stands target (some node) 20 ∧ p.MeetsNamesake c gateway target node := by
  obtain ⟨p, s, c, gateway, valid, reached, mem, found, target, entry, track, _, _, _, jumps,
    elsewhere, there, nonempty, fired, due_eq⟩ := carillon_meets
  refine ⟨p, s, c, gateway, valid, reached, mem, found, ?_⟩
  obtain ⟨node, requested, ⟨looped, moved, due, lands, stands, timely⟩ | ⟨overflow, _⟩⟩ :=
    Schedule.jump_stands_on_requested valid reached mem found jumps there nonempty 0 20
  · cases fired.symm.trans lands
    obtain rfl := Option.some.inj (stands.due?_eq.symm.trans due_eq)
    rcases timely with ⟨_, ⟨same, _⟩ | namesake⟩ | ⟨at_once, _⟩
    · exact absurd same elsewhere
    · exact ⟨target, entry, track, node, _, _, jumps, there, requested, lands, stands, namesake⟩
    · contradiction
  · exact absurd (by decide) overflow

/-- A jump to another track need not be due at once. -/
theorem Draft.carillon_is_not_due_at_once : carillon.Meets fun p s c gateway =>
    ∃ target entry track effect looped moved,
      p.jumpTarget? c.place gateway.action = some (target, entry) ∧ target ≠ c.place ∧
        p.track? target = some track ∧ track.nodes ≠ [] ∧
        s.dispatch p c.place gateway 0 20 = .ok (.ok ⟨effect, looped⟩, moved) ∧
        ∀ node, ¬ moved.Stands target node 0 := by
  obtain ⟨p, s, c, gateway, valid, reached, mem, found, target, entry, track, effect, looped, moved,
    jumps, elsewhere, there, nonempty, fired, due_eq⟩ := carillon_meets
  refine ⟨p, s, c, gateway, valid, reached, mem, found, target, entry, track, effect, looped, moved,
    jumps, elsewhere, there, nonempty, fired, fun node stands => ?_⟩
  rw [stands.due?_eq] at due_eq
  contradiction

/-! ## Last nodes -/

/-- Two dancers, and the first one asks the second for the next turn, in a step
of its own or in that of the second. -/
def Draft.ball (step : Int32) : Draft :=
  { id := "ball"
    name := ""
    entryMode := some "dance"
    defaultGapMs := 0
    globalTracks := []
    modes :=
      [⟨"dance",
        [⟨"first", [bell "swap" step (.jumpTrack "second" none)]⟩,
          ⟨"second", [bell "turn" 0 .finish]⟩]⟩] }

/-- A gateway jumps to another track of its mode that has nodes, and a mode that
begins again because of it is reported, or none. -/
def Preset.Swaps (p : Preset) (looped : Option String) (s : Schedule) (c : Candidate)
    (gateway : Gateway) : Prop :=
  ∃ m t u id entry track effect moved, c.place = .mode m t ∧
    gateway.action = .jumpTrack id entry ∧ p.locate? id = some (.mode m u) ∧ u ≠ t ∧
    p.track? (.mode m u) = some track ∧ track.nodes ≠ [] ∧
    s.dispatch p c.place gateway 0 20 = .ok (.ok ⟨effect, looped⟩, moved)

/-- The same as a check that can be run. -/
def Preset.swaps (p : Preset) (looped : Option String) (s : Schedule) (c : Candidate)
    (gateway : Gateway) : Bool :=
  match c.place, gateway.action with
  | .mode m t, .jumpTrack id _ =>
    match p.locate? id with
    | some (.mode n u) =>
      decide (n = m ∧ u ≠ t) && (p.track? (.mode n u)).any (fun track => !track.nodes.isEmpty) &&
        (Schedule.done? (s.dispatch p c.place gateway 0 20)).any fun done =>
          decide (done.1.looped = looped)
    | _ => false
  | _, _ => false

theorem Preset.swaps_of_check {p : Preset} {looped : Option String} {s : Schedule} {c : Candidate}
    {gateway : Gateway} (checked : p.swaps looped s c gateway = true) :
    p.Swaps looped s c gateway := by
  unfold swaps at checked
  split at checked
  · rename_i m t id entry at_place action_eq
    split at checked
    · rename_i n u located
      obtain ⟨places, fires⟩ := (Bool.and_eq_true_iff).mp checked
      obtain ⟨same_mode, has_nodes⟩ := (Bool.and_eq_true_iff).mp places
      obtain ⟨rfl, elsewhere⟩ := of_decide_eq_true same_mode
      obtain ⟨track, there, nonempty⟩ := (Option.any_eq_true _ _).mp has_nodes
      obtain ⟨⟨⟨effect, _⟩, moved⟩, fired, looped_eq⟩ := (Option.any_eq_true _ _).mp fires
      obtain rfl := of_decide_eq_true looped_eq
      exact ⟨n, t, u, id, entry, track, effect, moved, at_place, action_eq, located, elsewhere,
        there, by simpa using nonempty, Schedule.eq_ok_of_done? fired⟩
    · contradiction
  · contradiction

theorem Draft.ball_meets : (ball 0).Meets fun p => p.Swaps none :=
  meets_of_check (n := 0) (fun _ _ _ _ => Preset.swaps_of_check) (by decide +kernel)

/-- At a ball in which both dancers are due in one step, the mode goes on after
the first one has asked the second. -/
theorem Draft.ball_goes_on : (ball 0).Meets fun p s c gateway =>
    ∃ m t u own node moved due next, c.place = .mode m t ∧ p.track? c.place = some own ∧
      s.dispatch p c.place gateway 0 20 = .ok (.ok ⟨.jumped (.mode m u) node, none⟩, moved) ∧
      moved.Stands (.mode m u) (some node) due ∧ own.IsNext c.node next ∧
      moved.Stands c.place next 20 := by
  obtain ⟨p, s, c, gateway, valid, reached, mem, found, m, t, u, id, entry, track, effect, _,
    at_place, action_eq, located, elsewhere, there, nonempty, fired⟩ := ball_meets
  refine ⟨p, s, c, gateway, valid, reached, mem, found, ?_⟩
  obtain ⟨own, node, own_there, _, jumped | ⟨overflow, _⟩⟩ := Schedule.jump_inside_mode valid
    reached mem found at_place action_eq located elsewhere there nonempty 0 20
  · obtain ⟨looped, moved, due, lands, stands, going | ⟨_, ⟨mode, _, looped_eq⟩, _⟩⟩ := jumped
    · obtain ⟨_, rfl, ⟨next, is_next, own_stands⟩, _⟩ := going
      exact ⟨m, t, u, own, node, moved, due, next, at_place, own_there, lands, stands, is_next,
        by simpa using own_stands⟩
    · cases fired.symm.trans lands
      contradiction
  · exact absurd (by decide) overflow

/-- At a ball in which the first dancer is due after the second, the mode begins
again when the first one asks the second. -/
theorem Draft.ball_begins_again : (ball 1).Meets fun p => p.Swaps (some "dance") :=
  meets_of_check (n := 1) (fun _ _ _ _ => Preset.swaps_of_check) (by decide +kernel)

end Rotation
