import Rotation.Proofs.Capture.Charting
import Rotation.Proofs.Text.Spelling

/-!
# What a plan reports

The unresolved names of a plan are exactly those of its gaps: required probes that are not
in the catalogue, monitors of required probes that are not there, and monitors whose probes
all together miss the screen.  A single probe beside its screen is no gap.  If the rectangle
around the probes of its monitor meets the screen nevertheless, there is a region without
its coordinate, and nothing is reported of it.
-/

namespace Rotation

/-! ## Probes -/

/-- What can be asked for: a point, or the indicator of a skill. -/
inductive Probe where
  | point (id : String)
  | indicator (id : String)
  deriving DecidableEq

namespace Probe

/-- The name under which a probe is reported. -/
def name : Probe → String
  | .point id => "point:" ++ id
  | .indicator id => "skill:" ++ id

theorem name_injective {first second : Probe} (same : first.name = second.name) :
    first = second := by
  have chars_eq := congrArg String.toList same
  cases first <;> cases second <;> simp [name] at chars_eq
  all_goals rw [String.toList_injective chars_eq]

/-- Where a probe is. -/
def spot? (catalogue : Catalogue) : Probe → Option Spot
  | .point id => (catalogue.point? id).map fun p => p.indicator.spot
  | .indicator id => ((catalogue.skill? id).bind Skill.indicator).map Indicator.spot

end Probe

namespace Requirements

/-- A probe is required. -/
def Asks (r : Requirements) : Probe → Prop
  | .point id => id ∈ r.points
  | .indicator id => id ∈ r.indicators

instance (r : Requirements) : (probe : Probe) → Decidable (r.Asks probe)
  | .point id => inferInstanceAs (Decidable (id ∈ r.points))
  | .indicator id => inferInstanceAs (Decidable (id ∈ r.indicators))

variable {r : Requirements} {catalogue : Catalogue}

theorem mem_spots_iff {s : Spot} :
    s ∈ r.spots catalogue ↔ ∃ probe, r.Asks probe ∧ probe.spot? catalogue = some s := by
  rw [spots, List.mem_append, List.mem_filterMap, List.mem_filterMap]
  constructor
  · rintro (⟨id, mem, found⟩ | ⟨id, mem, found⟩)
    · exact ⟨.point id, mem, found⟩
    · exact ⟨.indicator id, mem, found⟩
  · rintro ⟨id | id, asked, found⟩
    · exact .inl ⟨id, asked, found⟩
    · exact .inr ⟨id, asked, found⟩

theorem mem_missing_iff {text : String} :
    text ∈ r.missing catalogue ↔
      ∃ probe, r.Asks probe ∧ probe.spot? catalogue = none ∧ probe.name = text := by
  simp only [missing, List.mem_append, List.mem_map, List.mem_filter, Option.isNone_iff_eq_none]
  constructor
  · rintro (⟨id, ⟨mem, unknown⟩, same⟩ | ⟨id, ⟨mem, unknown⟩, same⟩)
    · exact ⟨.point id, mem, Option.map_eq_none_iff.mpr unknown, same⟩
    · exact ⟨.indicator id, mem, Option.map_eq_none_iff.mpr unknown, same⟩
  · rintro ⟨id | id, asked, unknown, same⟩
    · exact .inl ⟨id, ⟨asked, Option.map_eq_none_iff.mp unknown⟩, same⟩
    · exact .inr ⟨id, ⟨asked, Option.map_eq_none_iff.mp unknown⟩, same⟩

end Requirements

namespace Plan

/-! ## Gaps -/

/-- What can stand in the way of a probe: the catalogue does not have it, its monitor is not
there, or the probes of its monitor miss the screen. -/
inductive Gap where
  | unknown (probe : Probe)
  | unplugged (monitor : MonitorId)
  | offscreen (monitor : MonitorId)

/-- The name under which a gap is reported. -/
def Gap.text : Gap → String
  | .unknown probe => probe.name
  | .unplugged monitor => "monitor:" ++ toString monitor.toNat
  | .offscreen monitor => "monitor:" ++ toString monitor.toNat ++ ":offscreen"

theorem monitor_text_inj {a b : MonitorId} :
    "monitor:" ++ toString a.toNat = "monitor:" ++ toString b.toNat ↔ a = b := by
  rw [String.append_right_inj]
  exact ⟨fun same => UInt32.toNat_inj.mp (Text.toString_injective same), fun same => same ▸ rfl⟩

/-- The name of a monitor does not end like that of a screen that was missed: numbers have
no colon. -/
theorem monitor_text_ne_offscreen (a b : MonitorId) :
    "monitor:" ++ toString a.toNat ≠ "monitor:" ++ toString b.toNat ++ ":offscreen" := by
  intro same
  rw [String.append_assoc, String.append_right_inj] at same
  have colon : ':' ∈ (toString a.toNat).toList := by
    rw [same, String.toList_append]
    simp
  exact absurd (Text.isDigit_of_mem_toString colon) (by decide)

theorem probe_name_ne_monitor (probe : Probe) (rest : String) :
    probe.name ≠ "monitor:" ++ rest := by
  intro same
  have chars_eq := congrArg String.toList same
  cases probe <;> simp [Probe.name] at chars_eq

/-- Gaps can be told apart by their names. -/
theorem Gap.text_injective {first second : Gap} (same : first.text = second.text) :
    first = second := by
  cases first with
  | unknown probe =>
      cases second with
      | unknown other => rw [Probe.name_injective same]
      | unplugged m => exact absurd same (probe_name_ne_monitor probe _)
      | offscreen m =>
          rw [text, text, String.append_assoc] at same
          exact absurd same (probe_name_ne_monitor probe _)
  | unplugged m =>
      cases second with
      | unknown other => exact absurd same.symm (probe_name_ne_monitor other _)
      | unplugged other => rw [monitor_text_inj.mp same]
      | offscreen other => exact absurd same (monitor_text_ne_offscreen m other)
  | offscreen m =>
      cases second with
      | unknown other =>
          rw [text, text, String.append_assoc] at same
          exact absurd same.symm (probe_name_ne_monitor other _)
      | unplugged other => exact absurd same.symm (monitor_text_ne_offscreen other m)
      | offscreen other =>
          rw [monitor_text_inj.mp ((String.append_left_inj ":offscreen").mp same)]

/-- The rectangle around the squares of the spots of a monitor. -/
def around (spots : List Spot) (m : MonitorId) : Rect :=
  (reaches spots m).foldl Rect.hull .nothing

/-- There is a gap in what is required. -/
def Gap.Occurs (requirements : Requirements) (catalogue : Catalogue) (screens : List Screen) :
    Gap → Prop
  | .unknown probe => requirements.Asks probe ∧ probe.spot? catalogue = none
  | .unplugged monitor => (∃ s ∈ requirements.spots catalogue, s.monitor = monitor) ∧
      screens.find? (fun c => c.id == monitor) = none
  | .offscreen monitor => (∃ s ∈ requirements.spots catalogue, s.monitor = monitor) ∧
      ∃ screen, screens.find? (fun c => c.id == monitor) = some screen ∧
        ∀ x y, ¬((around (requirements.spots catalogue) monitor).Has x y ∧ screen.rect.Has x y)

section

variable {screens : List Screen} {threshold : Float} {m : MonitorId} {box : Rect}
  {outcome : Except String Region} {screen : Screen}

theorem place_of_unplugged (missing : screens.find? (fun c => c.id == m) = none) :
    place screens threshold m box = .ok (.error (Gap.unplugged m).text) := by
  unfold place
  simp only [missing]
  rfl

theorem place_of_apart (placed : place screens threshold m box = .ok outcome)
    (found : screens.find? (fun c => c.id == m) = some screen)
    (apart : ∀ x y, ¬(box.Has x y ∧ screen.rect.Has x y)) :
    outcome = .error (Gap.offscreen m).text := by
  unfold place at placed
  simp only [found] at placed
  obtain ⟨common, met, placed⟩ := Checked.bind_eq_ok_iff.mp placed
  cases common with
  | none =>
      cases placed
      rfl
  | some clipped =>
      obtain ⟨x, y, has⟩ := Rect.exists_has_of_intersect met
      exact absurd (((Rect.intersect_cases met).2 x y).mpr ⟨clipped, rfl, has⟩) (apart x y)

theorem gap_of_place {text : String}
    (failed : place screens threshold m box = .ok (.error text)) :
    (screens.find? (fun c => c.id == m) = none ∧ (Gap.unplugged m).text = text) ∨
      ∃ screen, screens.find? (fun c => c.id == m) = some screen ∧
        (∀ x y, ¬(box.Has x y ∧ screen.rect.Has x y)) ∧ (Gap.offscreen m).text = text := by
  cases found : screens.find? (fun c => c.id == m) with
  | none =>
      rw [place_of_unplugged found] at failed
      cases failed
      exact .inl ⟨rfl, rfl⟩
  | some screen =>
      obtain ⟨_, ⟨apart, same⟩ | ⟨_, _, ⟨⟩, _⟩⟩ := place_cases failed found
      cases same
      exact .inr ⟨screen, rfl, apart, rfl⟩

end

variable {requirements : Requirements} {catalogue : Catalogue} {screens : List Screen}
  {threshold : Float} {version : Nat} {plan : Plan} {m : MonitorId}

theorem monitor_of_mem_foldlM {spots : List Spot} {before after : Boxes}
    (extended : spots.foldlM (fun boxes s => do extend s.monitor (← s.bounds) boxes) before =
      .ok after) {entry : MonitorId × Rect} (mem : entry ∈ after) :
    (∃ s ∈ spots, s.monitor = entry.1) ∨ ∃ old ∈ before, old.1 = entry.1 := by
  induction spots generalizing before with
  | nil =>
      cases extended
      exact .inr ⟨entry, mem, rfl⟩
  | cons s rest ih =>
      rw [List.foldlM_cons] at extended
      obtain ⟨middle, one_more, extended⟩ := Checked.bind_eq_ok_iff.mp extended
      obtain ⟨rect, _, one_more⟩ := Checked.bind_eq_ok_iff.mp one_more
      rcases ih extended with ⟨other, other_mem, own⟩ | ⟨old, old_mem, own⟩
      · exact .inl ⟨other, List.mem_cons_of_mem _ other_mem, own⟩
      · rcases monitor_of_mem_extend one_more old_mem with same | ⟨older, older_mem, same⟩
        · exact .inl ⟨s, List.mem_cons_self, same.symm.trans own⟩
        · exact .inr ⟨older, older_mem, same.trans own⟩

/-- The rectangles are those around the spots of each monitor that has some. -/
theorem mem_boxes_iff {spots : List Spot} {boxes : Boxes} (boxed : Plan.boxes spots = .ok boxes)
    {box : Rect} :
    (m, box) ∈ boxes ↔ (∃ s ∈ spots, s.monitor = m) ∧ box = around spots m := by
  obtain ⟨ascend, covered⟩ := boxes_cover boxed
  have box_eq {rect : Rect} (mem : (m, rect) ∈ boxes) : rect = around spots m := by
    rw [← ascend.box_of_mem mem]
    exact ((box_of_foldlM_extend List.Pairwise.nil boxed).2 m).2
  constructor
  · intro mem
    refine ⟨?_, box_eq mem⟩
    rcases monitor_of_mem_foldlM boxed mem with own | ⟨_, none_before, _⟩
    · exact own
    · exact absurd none_before List.not_mem_nil
  · rintro ⟨⟨s, s_mem, rfl⟩, rfl⟩
    obtain ⟨_, _, rect, mem, _⟩ := covered s s_mem
    rwa [← box_eq mem]

/-- The unresolved names are those of the missing probes and of the rectangles that could not
be placed. -/
theorem mem_unresolved_cases
    (planned : build requirements catalogue screens threshold version = .ok plan) :
    ∃ boxes, Plan.boxes (requirements.spots catalogue) = .ok boxes ∧
      (∀ entry ∈ boxes, ∃ outcome, place screens threshold entry.1 entry.2 = .ok outcome) ∧
      ∀ text, text ∈ plan.unresolved ↔ text ∈ requirements.missing catalogue ∨
        ∃ entry ∈ boxes, place screens threshold entry.1 entry.2 = .ok (.error text) := by
  unfold build at planned
  obtain ⟨boxes, boxed, planned⟩ := Checked.bind_eq_ok_iff.mp planned
  obtain ⟨placed, placed_eq, ⟨⟩⟩ := Checked.bind_eq_ok_iff.mp planned
  obtain ⟨each_placed, all_placed⟩ := Checked.mapM_eq_ok placed_eq
  refine ⟨boxes, boxed, fun entry mem => ?_, fun text => ?_⟩
  · obtain ⟨outcome, _, done⟩ := each_placed entry mem
    exact ⟨outcome, done⟩
  rw [List.mem_append, List.mem_filterMap]
  refine or_congr_right ⟨?_, ?_⟩
  · rintro ⟨outcome, outcome_mem, is_error⟩
    cases outcome with
    | ok => contradiction
    | error name =>
        cases is_error
        exact all_placed _ outcome_mem
  · rintro ⟨entry, mem, failed⟩
    obtain ⟨outcome, outcome_mem, outcome_eq⟩ := each_placed entry mem
    cases outcome_eq.symm.trans failed
    exact ⟨_, outcome_mem, rfl⟩

/-- The unresolved names are exactly those of the gaps. -/
theorem mem_unresolved_iff
    (planned : build requirements catalogue screens threshold version = .ok plan) {gap : Gap} :
    gap.text ∈ plan.unresolved ↔ gap.Occurs requirements catalogue screens := by
  obtain ⟨boxes, boxed, each_placed, mem_iff⟩ := mem_unresolved_cases planned
  rw [mem_iff]
  constructor
  · rintro (mem | ⟨⟨m, box⟩, mem, failed⟩)
    · obtain ⟨probe, asked, unknown, same⟩ := Requirements.mem_missing_iff.mp mem
      have same_gap : Gap.unknown probe = gap := Gap.text_injective same
      rw [← same_gap]
      exact ⟨asked, unknown⟩
    · obtain ⟨own, rfl⟩ := (mem_boxes_iff boxed).mp mem
      rcases gap_of_place failed with ⟨missing, same⟩ | ⟨screen, found, apart, same⟩
      · rw [Gap.text_injective same.symm]
        exact ⟨own, missing⟩
      · rw [Gap.text_injective same.symm]
        exact ⟨own, screen, found, apart⟩
  · intro occurs
    cases gap with
    | unknown probe =>
        exact .inl (Requirements.mem_missing_iff.mpr ⟨probe, occurs.1, occurs.2, rfl⟩)
    | unplugged m =>
        have mem := (mem_boxes_iff boxed).mpr ⟨occurs.1, rfl⟩
        exact .inr ⟨_, mem, place_of_unplugged occurs.2⟩
    | offscreen m =>
        obtain ⟨own, screen, found, apart⟩ := occurs
        have mem := (mem_boxes_iff boxed).mpr ⟨own, rfl⟩
        obtain ⟨outcome, placed⟩ := each_placed _ mem
        rw [place_of_apart placed found apart] at placed
        exact .inr ⟨_, mem, placed⟩

/-! ## Probes that are accounted for -/

/-- The region of the monitor of a probe has its coordinate. -/
def Places (plan : Plan) (catalogue : Catalogue) (probe : Probe) : Prop :=
  ∃ s region, probe.spot? catalogue = some s ∧ plan.region? s.monitor = some region ∧
    region.rect.Has s.x.toInt s.y.toInt

/-- An unresolved name tells of a probe or of its monitor. -/
def Reports (plan : Plan) (catalogue : Catalogue) (probe : Probe) : Prop :=
  (Gap.unknown probe).text ∈ plan.unresolved ∨ ∃ s, probe.spot? catalogue = some s ∧
    ((Gap.unplugged s.monitor).text ∈ plan.unresolved ∨
      (Gap.offscreen s.monitor).text ∈ plan.unresolved)

/-- A probe is beside its screen, and the rectangle around the probes of its monitor is not. -/
def Strays (requirements : Requirements) (catalogue : Catalogue) (screens : List Screen)
    (probe : Probe) : Prop :=
  ∃ s screen, probe.spot? catalogue = some s ∧
    screens.find? (fun c => c.id == s.monitor) = some screen ∧
    ¬screen.rect.Has s.x.toInt s.y.toInt ∧
    ∃ x y, (around (requirements.spots catalogue) s.monitor).Has x y ∧ screen.rect.Has x y

variable {probe : Probe}

/-- Nothing is grabbed from beside a screen. -/
theorem within_of_region?
    (planned : build requirements catalogue screens threshold version = .ok plan)
    {screen : Screen} (found : screens.find? (fun c => c.id == m) = some screen)
    {region : Region} (region_found : plan.region? m = some region) :
    region.rect.Within screen.rect := by
  obtain ⟨_, _, _, mem_regions_iff⟩ := build_cases planned
  have mem : region ∈ plan.regions := List.mem_of_find?_eq_some region_found
  have own : region.monitor = m := by simpa using List.find?_some region_found
  obtain ⟨entry, _, placed⟩ := (mem_regions_iff region).mp mem
  rw [← monitor_of_place placed, own] at placed
  obtain ⟨_, ⟨_, ⟨⟩⟩ | ⟨_, _, ⟨⟩, within, _⟩⟩ := place_cases placed found
  exact within

theorem not_places_of_strays
    (planned : build requirements catalogue screens threshold version = .ok plan)
    (strays : Strays requirements catalogue screens probe) : ¬plan.Places catalogue probe := by
  obtain ⟨s, screen, resolved, found, beside, _⟩ := strays
  rintro ⟨other, region, other_resolved, region_found, has⟩
  obtain rfl : s = other := Option.some.inj (resolved.symm.trans other_resolved)
  exact beside (within_of_region? planned found region_found _ _ has)

theorem not_reports_of_strays
    (planned : build requirements catalogue screens threshold version = .ok plan)
    (strays : Strays requirements catalogue screens probe) : ¬plan.Reports catalogue probe := by
  obtain ⟨s, screen, resolved, found, _, x, y, both⟩ := strays
  unfold Reports
  simp only [mem_unresolved_iff planned, Gap.Occurs, resolved, Option.some.injEq]
  rintro (⟨_, ⟨⟩⟩ | ⟨_, rfl, ⟨_, missing⟩ | ⟨_, other, other_found, apart⟩⟩)
  · rw [found] at missing
    contradiction
  · obtain rfl : screen = other := Option.some.inj (found.symm.trans other_found)
    exact apart x y both

/-- A required probe is placed or reported, unless it strays from its screen while others of
its monitor do not. -/
theorem places_or_reports_iff
    (planned : build requirements catalogue screens threshold version = .ok plan)
    (asked : requirements.Asks probe)
    (small : ∀ s, probe.spot? catalogue = some s → s.radius.toNat < 2 ^ 31) :
    plan.Places catalogue probe ∨ plan.Reports catalogue probe ↔
      ¬Strays requirements catalogue screens probe := by
  constructor
  · rintro accounted strays
    exact accounted.elim (not_places_of_strays planned strays)
      (not_reports_of_strays planned strays)
  · intro holds
    cases resolved : probe.spot? catalogue with
    | none => exact .inr (.inl ((mem_unresolved_iff planned).mpr ⟨asked, resolved⟩))
    | some s =>
        have mem : s ∈ requirements.spots catalogue :=
          Requirements.mem_spots_iff.mpr ⟨probe, asked, resolved⟩
        cases found : screens.find? (fun c => c.id == s.monitor) with
        | none =>
            have occurs : (Gap.unplugged s.monitor).Occurs requirements catalogue screens :=
              ⟨⟨s, mem, rfl⟩, found⟩
            exact .inr (.inr ⟨s, resolved, .inl ((mem_unresolved_iff planned).mpr occurs)⟩)
        | some screen =>
            by_cases centred : screen.rect.Has s.x.toInt s.y.toInt
            · obtain ⟨_, region, region_found, _, keeps⟩ :=
                exists_region_of_mem_spots planned mem (small s resolved) found centred
              have centre_mem : (s.x.toInt, s.y.toInt) ∈ s.square :=
                Frame.mem_square.mpr ⟨by omega, by omega⟩
              exact .inl ⟨s, region, resolved, region_found, keeps _ centre_mem centred⟩
            · have apart (x y : Int) :
                  ¬((around (requirements.spots catalogue) s.monitor).Has x y ∧
                    screen.rect.Has x y) :=
                fun both => holds ⟨s, screen, resolved, found, centred, x, y, both⟩
              have occurs : (Gap.offscreen s.monitor).Occurs requirements catalogue screens :=
                ⟨⟨s, mem, rfl⟩, screen, found, apart⟩
              exact .inr (.inr ⟨s, resolved, .inr ((mem_unresolved_iff planned).mpr occurs)⟩)

/-! ## A kite beside a yard -/

/-- A screen. -/
def yard : Screen :=
  ⟨0, ⟨0, 0, 100, 100⟩⟩

/-- A lamp on the screen, and a kite to the right of it. -/
def yardCatalogue : Catalogue :=
  .ofLists [] [⟨"lamp", ⟨⟨0, 10, 10, 0⟩, ⟨255, 255, 255⟩, 12⟩⟩,
    ⟨"kite", ⟨⟨0, 200, 10, 0⟩, ⟨255, 255, 255⟩, 12⟩⟩]

/-- What is grabbed of the screen for both: all between the lamp and the edge. -/
def yardPlan : Plan :=
  ⟨1, [⟨0, .part, ⟨10, 10, 90, 1⟩⟩], []⟩

/-- Alone, the kite is reported with its monitor. -/
theorem kite_alone_is_reported :
    ∃ plan, build (Requirements.empty.addPoint "kite") yardCatalogue [yard] 0.4 1 = .ok plan ∧
      (plan.Places yardCatalogue (.point "kite") ∨ plan.Reports yardCatalogue (.point "kite")) := by
  have planned : build (Requirements.empty.addPoint "kite") yardCatalogue [yard] 0.4 1 =
      .ok ⟨1, [], ["monitor:0:offscreen"]⟩ := by rfl
  have spot_eq : (Probe.point "kite").spot? yardCatalogue = some ⟨0, 200, 10, 0⟩ := by rfl
  refine ⟨_, planned, (places_or_reports_iff planned (by decide) ?_).mpr ?_⟩
  · rintro s found
    cases spot_eq.symm.trans found
    decide
  · rintro ⟨s, screen, found, screen_found, _, x, y, in_box, on_screen⟩
    cases spot_eq.symm.trans found
    cases screen_found
    have around_eq : around ((Requirements.empty.addPoint "kite").spots yardCatalogue) 0 =
        ⟨200, 10, 1, 1⟩ := by decide
    rw [around_eq] at in_box
    simp only [Rect.Has, yard] at in_box on_screen
    omega

/-- Beside the lamp, the kite is neither placed nor reported. -/
theorem kite_beside_lamp_is_lost :
    let requirements := (Requirements.empty.addPoint "kite").addPoint "lamp"
    build requirements yardCatalogue [yard] 0.4 1 = .ok yardPlan ∧
      requirements.Asks (.point "kite") ∧
      ¬(yardPlan.Places yardCatalogue (.point "kite") ∨
        yardPlan.Reports yardCatalogue (.point "kite")) := by
  intro requirements
  have spot_eq : (Probe.point "kite").spot? yardCatalogue = some ⟨0, 200, 10, 0⟩ := by rfl
  refine ⟨by rfl, by decide, ?_⟩
  rintro (⟨s, region, found, region_found, has⟩ | unknown | ⟨_, _, missing | offscreen⟩)
  · cases spot_eq.symm.trans found
    cases region_found
    exact absurd has (by decide)
  all_goals contradiction

end Plan

end Rotation
