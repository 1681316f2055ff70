import Rotation.Capture.Manager
import Rotation.Preset.Validation
import Rotation.Proofs.Capture.Charting
import Rotation.Proofs.Capture.Regions
import Rotation.Proofs.Condition.Evaluation
import Rotation.Proofs.Screen.Addressing

/-!
# Samples and faults

A sample of what a plan has grabbed is that of the whole screen, as long as the
spot is on the screen: what is cut off of the screen is out of reach of all
samples, and what a sample loses at the border of a region, it loses at the
border of the screen.

Any coordinates and radii may be asked for, and any screens may be there whose corners
are words.  What stands between them and a colour, or the reason why there is none, is
told by numbers alone: the squares of the spots decide whether there is a plan, and the
places in the frames whether there are samples.
-/

namespace Rotation

/-! ## Samples of planned regions -/

/-- In every state of it, the source grabs the regions and shows what there is of
a picture of each monitor. -/
def ScreenSource.Films {σ : Type} (source : ScreenSource σ)
    (picture : MonitorId → Int → Int → Color) (regions : List Region) : Prop :=
  ∀ region ∈ regions, ∀ state, ∃ frame next,
    source.grab state region.monitor region.rect = .ok (.ok frame, next) ∧
      frame.Shows region.rect (picture region.monitor)

namespace Capture

variable {σ : Type} {source : ScreenSource σ} {picture : MonitorId → Int → Int → Color}
  {regions : List Region} {frames : List (MonitorId × Frame)}

/-- The frames are those of the regions, in their order. -/
def Grabbed (picture : MonitorId → Int → Int → Color) (regions : List Region)
    (frames : List (MonitorId × Frame)) : Prop :=
  List.Forall₂ (fun region entry =>
    entry.1 = region.monitor ∧ entry.2.Shows region.rect (picture region.monitor)) regions frames

theorem grabAll_of_films (films : source.Films picture regions) (state : σ) :
    ∃ frames next, grabAll source state regions = .ok (.ok frames, next) ∧
      Grabbed picture regions frames := by
  induction regions generalizing state with
  | nil => exact ⟨[], state, rfl, .nil⟩
  | cons region rest ih =>
      rcases List.forall_mem_cons.mp films with ⟨region_films, rest_films⟩
      rcases region_films state with ⟨frame, middle, grab_eq, frame_shows⟩
      rcases ih rest_films middle with ⟨frames, next, rest_eq, grabbed⟩
      refine ⟨(region.monitor, frame) :: frames, next, ?_, .cons ⟨rfl, frame_shows⟩ grabbed⟩
      rw [grabAll, grab_eq, Checked.ok_bind]
      dsimp only
      rw [rest_eq]
      rfl

/-- The frame of a monitor is that of the region of the monitor. -/
theorem Grabbed.lookup (grabbed : Grabbed picture regions frames) {monitor : MonitorId}
    {region : Region} (found : regions.find? (fun r => r.monitor == monitor) = some region) :
    ∃ frame, frames.lookup monitor = some frame ∧ frame.Shows region.rect (picture monitor) := by
  induction grabbed with
  | nil => contradiction
  | @cons first entry rest others first_shows _ ih =>
      rcases entry with ⟨m, frame⟩
      rcases first_shows with ⟨rfl, frame_shows⟩
      by_cases same : first.monitor = monitor
      · subst same
        rw [List.find?_cons_of_pos (by simp)] at found
        cases found
        exact ⟨frame, List.lookup_cons_self, frame_shows⟩
      · rw [List.find?_cons_of_neg (by simpa using same)] at found
        rcases ih found with ⟨other, other_eq, other_shows⟩
        refine ⟨other, ?_, other_shows⟩
        rw [List.lookup_cons, beq_false_of_ne (Ne.symm same)]
        exact other_eq

/-- Grabbing only the planned regions does not change what a sample sees: it is
the mean colour on a frame of the whole screen. -/
theorem samples_agree_with_screen {requirements : Requirements} {catalogue : Catalogue}
    {screens : List Screen} {threshold : Float} {version : Nat} {plan : Plan}
    (planned : Plan.build requirements catalogue screens threshold version = .ok plan)
    (films : source.Films picture plan.regions) {s : Spot}
    (mem : s ∈ requirements.spots catalogue) (small : s.radius.toNat < 2 ^ 31) {screen : Screen}
    (found : screens.find? (fun c => c.id == s.monitor) = some screen)
    (centred : screen.rect.Has s.x.toInt s.y.toInt) {whole : Frame}
    (whole_shows : whole.Shows screen.rect (picture s.monitor)) (state : σ) :
    ∃ region, plan.region? s.monitor = some region ∧ region.rect.Within screen.rect ∧
      ∃ frames next color, grabAll source state plan.regions = .ok (.ok frames, next) ∧
        (∀ snapshot : Snapshot, snapshot.frames = frames →
          snapshot.sample s.monitor s.x.toInt s.y.toInt s.radius.toNat = .ok (.ok color)) ∧
        whole.average s.x.toInt s.y.toInt s.radius.toNat = .ok (some color) := by
  rcases Plan.exists_region_of_mem_spots planned mem small found centred with
    ⟨fits, region, region_found, inside, covered⟩
  rcases grabAll_of_films films state with ⟨frames, next, grab_eq, grabbed⟩
  rcases grabbed.lookup region_found with ⟨frame, frame_eq, frame_shows⟩
  rcases Frame.average_eq_of_shows frame_shows whole_shows fits inside covered centred with
    ⟨color, frame_average, whole_average⟩
  refine ⟨region, region_found, inside, frames, next, color, grab_eq, ?_, whole_average⟩
  rintro snapshot rfl
  unfold Snapshot.sample
  simp only [frame_eq, frame_average, Checked.ok_bind]
  rfl

/-- A screen with the lamp in its last corner. -/
def nook : Screen :=
  ⟨0, ⟨0, 0, 4, 5⟩⟩

/-- A colour that differs from pixel to pixel. -/
def shade (_ : MonitorId) (x y : Int) : Color :=
  ⟨UInt8.ofNat (60 * x.toNat), UInt8.ofNat (50 * y.toNat), 7⟩

/-- A machine with that screen in those colours. -/
def shaded : ScreenSource Unit where
  screens _ := [nook]
  grab _ monitor r := .ok (.ok (Frame.paint r (shade monitor)), ())

/-- The part of the screen around the lamp; the rest of its square is beyond the
edges. -/
def cornerPlan : Plan :=
  ⟨1, [⟨0, .part, ⟨2, 3, 2, 2⟩⟩], []⟩

theorem lamp_agrees_with_nook :
    Plan.build (Requirements.empty.addPoint "lamp") Condition.lampCatalogue [nook] 0.5 1 =
        .ok cornerPlan ∧
      ∃ frames color, grabAll shaded () cornerPlan.regions = .ok (.ok frames, ()) ∧
        (Snapshot.mk 1 frames 0 1).sample 0 3 4 1 = .ok (.ok color) ∧
        (Frame.paint nook.rect (shade 0)).average 3 4 1 = .ok (some color) := by
  have planned : Plan.build (Requirements.empty.addPoint "lamp") Condition.lampCatalogue [nook]
      0.5 1 = .ok cornerPlan := by rfl
  have films : shaded.Films shade cornerPlan.regions := by
    intro region mem state
    cases List.mem_singleton.mp mem
    exact ⟨_, (), rfl, Frame.shows_paint (by decide) (by decide) _⟩
  have mem : ⟨0, 3, 4, 1⟩ ∈ (Requirements.empty.addPoint "lamp").spots Condition.lampCatalogue := by
    decide
  have found : [nook].find? (fun c => c.id == 0) = some nook := by decide
  have whole_shows : (Frame.paint nook.rect (shade 0)).Shows nook.rect (shade 0) :=
    Frame.shows_paint (by decide) (by decide) _
  obtain ⟨region, _, _, frames, next, color, grab_eq, sample_eq, average_eq⟩ :=
    samples_agree_with_screen planned films mem (by decide) found (by decide) whole_shows ()
  exact ⟨planned, frames, color, grab_eq, sample_eq _ rfl, average_eq⟩

end Capture

/-! ## Faults -/

namespace Capture

variable {σ : Type} {source : ScreenSource σ} {regions : List Region}
  {frames : List (MonitorId × Frame)}

/-- Every frame that is grabbed is that of a region. -/
theorem exists_region_of_mem_frames {state next : σ}
    (grabbed : grabAll source state regions = .ok (.ok frames, next))
    {entry : MonitorId × Frame} (mem : entry ∈ frames) :
    ∃ region ∈ regions, region.monitor = entry.1 := by
  induction regions generalizing state frames with
  | nil =>
      cases grabbed
      contradiction
  | cons region rest ih =>
      rw [grabAll] at grabbed
      obtain ⟨⟨answer, middle⟩, _, grabbed⟩ := Checked.bind_eq_ok_iff.mp grabbed
      cases answer with
      | error e => cases grabbed
      | ok frame =>
          obtain ⟨⟨others, last⟩, rest_grabbed, same⟩ := Checked.bind_eq_ok_iff.mp grabbed
          cases others with
          | error e => cases same
          | ok others =>
              cases same
              rcases List.mem_cons.mp mem with rfl | later
              · exact ⟨region, List.mem_cons_self, rfl⟩
              · obtain ⟨found, found_mem, own⟩ := ih rest_grabbed later
                exact ⟨found, List.mem_cons_of_mem region found_mem, own⟩

end Capture

/-- A sample fails only with the mean of its frame. -/
theorem Snapshot.exists_sample_iff {s : Snapshot} {monitor : MonitorId} {x y : Int}
    {radius : Nat} :
    (∃ observed, s.sample monitor x y radius = .ok observed) ↔
      ∀ frame, s.frames.lookup monitor = some frame →
        ∃ mean, frame.average x y radius = .ok mean := by
  unfold sample
  cases found : s.frames.lookup monitor with
  | none => exact ⟨fun _ => nofun, fun _ => ⟨_, rfl⟩⟩
  | some frame =>
      simp only [Option.some.injEq, forall_eq']
      rcases frame.average x y radius with fault | _ | color
      · exact ⟨nofun, nofun⟩
      · exact ⟨fun _ => ⟨_, rfl⟩, fun _ => ⟨_, rfl⟩⟩
      · exact ⟨fun _ => ⟨_, rfl⟩, fun _ => ⟨_, rfl⟩⟩

/-- Whatever is required of proper screens, there is a plan exactly if all its numbers
are words.  Its regions are proper.  When they have been grabbed, as frames whose corners
are words, the sample of every spot is a colour or the reason why there is none, exactly
if the frame of its monitor, if there is one, has a place that can be counted for the
centre and, if the centre has a colour, for all of the square, whose radius must not be
negative as a word. -/
theorem Plan.plans_and_samples {screens : List Screen}
    (proper : ∀ screen ∈ screens, screen.rect.Proper) (requirements : Requirements)
    (catalogue : Catalogue) (threshold : Float) (version : Nat) :
    ((∃ plan, build requirements catalogue screens threshold version = .ok plan) ↔
        Plannable screens (requirements.spots catalogue)) ∧
      ∀ plan, build requirements catalogue screens threshold version = .ok plan →
        (∀ region ∈ plan.regions, region.rect.Proper) ∧
        ∀ {σ : Type} (source : ScreenSource σ) (state : σ) frames next,
          Capture.grabAll source state plan.regions = .ok (.ok frames, next) →
          (∀ entry ∈ frames, entry.2.origin.Bounded) →
          ∀ s ∈ requirements.spots catalogue, ∀ snapshot : Snapshot, snapshot.frames = frames →
            ((∃ observed, snapshot.sample s.monitor s.x.toInt s.y.toInt s.radius.toNat =
                .ok observed) ↔
              ∀ frame, frames.lookup s.monitor = some frame →
                frame.Averages s.x.toInt s.y.toInt s.radius.toNat) := by
  refine ⟨exists_build_iff proper, fun plan planned => ⟨fun region mem =>
    proper_of_mem_regions proper planned mem, ?_⟩⟩
  rintro σ source state frames next grabbed bounded s mem snapshot rfl
  rw [Snapshot.exists_sample_iff]
  refine forall_congr' fun frame => imp_congr_right fun found => ?_
  have entry_mem : (s.monitor, frame) ∈ snapshot.frames := by
    obtain ⟨before, after, frames_eq, _⟩ := List.lookup_eq_some_iff.mp found
    rw [frames_eq]
    exact List.mem_append_right before List.mem_cons_self
  obtain ⟨region, region_mem, own⟩ := Capture.exists_region_of_mem_frames grabbed entry_mem
  refine Frame.exists_average_iff (bounded _ entry_mem) s.radius.toNat_lt fun small _ => ?_
  exact fitsSquare_of_mem_regions planned mem small region_mem own

theorem Capture.nook_proper : ∀ screen ∈ [Capture.nook], screen.rect.Proper := by
  intro screen mem
  rw [List.mem_singleton.mp mem]
  exact ⟨by decide, by decide, by decide⟩

/-- The lamp in the corner can be planned, and it can be sampled where it is grabbed. -/
theorem Plan.lamp_is_sampled :
    (∀ screen ∈ [Capture.nook], screen.rect.Proper) ∧
      Plannable [Capture.nook]
        ((Requirements.empty.addPoint "lamp").spots Condition.lampCatalogue) ∧
      ∃ plan frames, build (Requirements.empty.addPoint "lamp") Condition.lampCatalogue
          [Capture.nook] 0.5 1 = .ok plan ∧
        Capture.grabAll Capture.shaded () plan.regions = .ok (.ok frames, ()) ∧
        ∃ observed, (Snapshot.mk 1 frames 0 1).sample 0 3 4 1 = .ok observed := by
  obtain ⟨planned_iff, samples⟩ := plans_and_samples Capture.nook_proper
    (Requirements.empty.addPoint "lamp") Condition.lampCatalogue 0.5 1
  have planned : build (Requirements.empty.addPoint "lamp") Condition.lampCatalogue
      [Capture.nook] 0.5 1 = .ok Capture.cornerPlan := rfl
  let frame := Frame.paint ⟨2, 3, 2, 2⟩ (Capture.shade 0)
  have grabbed : Capture.grabAll Capture.shaded () Capture.cornerPlan.regions =
      .ok (.ok [(0, frame)], ()) := rfl
  have bounded : ∀ entry ∈ [((0 : MonitorId), frame)], entry.2.origin.Bounded := by decide
  have mem : ⟨0, 3, 4, 1⟩ ∈ (Requirements.empty.addPoint "lamp").spots
      Condition.lampCatalogue := by decide
  have averages : frame.Averages 3 4 1 := by decide +kernel
  obtain ⟨_, sampled⟩ := samples Capture.cornerPlan planned
  refine ⟨Capture.nook_proper, planned_iff.mp ⟨_, planned⟩, _, _, planned, grabbed, ?_⟩
  refine (sampled Capture.shaded () _ _ grabbed bounded _ mem ⟨1, _, 0, 1⟩ rfl).mpr ?_
  rintro _ ⟨⟩
  exact averages

/-- A gateway that waits for a point. -/
def Draft.lookout : Draft :=
  { id := "lookout"
    name := ""
    entryMode := none
    defaultGapMs := 0
    globalTracks := [⟨"tower", [.gateway ⟨"watch", 0, none,
      .record [("type", .text "pixel_point"), ("point_id", .text "horizon")],
      .jumpNode "watch", false⟩]⟩]
    modes := [] }

/-- The point is in the last column that a word can tell. -/
def Catalogue.horizon : Catalogue :=
  .ofLists [] [⟨"horizon", ⟨0, 2147483647, 0, 0⟩, ⟨255, 255, 255⟩, 0⟩]

/-- Validation accepts it, but the column to the right of the point is no word, so that
there is no plan instead of one without the point. -/
theorem Draft.lookout_has_no_plan :
    (∀ screen ∈ [Capture.nook], screen.rect.Proper) ∧
      ∃ p, (lookout.validate .horizon).preset = some p ∧ ∀ threshold version,
        Plan.build (p.requirements .horizon none) .horizon [Capture.nook] threshold version =
          .error .addOverflow := by
  have checked : ((lookout.validate .horizon).preset.any fun p =>
      decide ((p.requirements .horizon none).spots .horizon = [⟨0, 2147483647, 0, 0⟩])) = true := by
    decide +kernel
  obtain ⟨p, valid, spots_eq⟩ := (Option.any_eq_true _ _).mp checked
  refine ⟨Capture.nook_proper, p, valid, fun threshold version => ?_⟩
  rw [Plan.build, of_decide_eq_true spots_eq]
  rfl

end Rotation
