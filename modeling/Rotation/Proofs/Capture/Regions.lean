import Rotation.Capture.Plan
import Rotation.Proofs.Screen.Frame
import Rotation.Proofs.Word.Traversal

/-!
# What a plan covers

The rectangles around the spots only grow while spots are added, so each covers
the squares of all spots of its monitor.  Placing a rectangle on a screen keeps
all of it that is on the screen, and the region is found under its monitor,
because every monitor has one rectangle.
-/

namespace Rotation

/-! ## Squares -/

namespace Spot

/-- The coordinates that a sample of the spot looks at. -/
def square (s : Spot) : List (Int × Int) :=
  Frame.square s.x.toInt s.y.toInt s.radius.toNat

theorem bounds_cases {s : Spot} {rect : Rect} (small : s.radius.toNat < 2 ^ 31)
    (bounded : s.bounds = .ok rect) :
    (Signed.Fits 32 (s.x.toInt - s.radius.toNat) ∧ Signed.Fits 32 (s.y.toInt - s.radius.toNat)) ∧
      ∀ place, place ∈ s.square ↔ rect.Has place.1 place.2 := by
  unfold bounds at bounded
  simp only [Signed.wrap_of_lt small, Checked.bind_eq_ok_iff, Signed.sub_eq_ok_iff,
    Signed.mul_eq_ok_iff, Signed.add_eq_ok_iff] at bounded
  rcases bounded with ⟨_, ⟨left, rfl⟩, _, ⟨top, rfl⟩, _, ⟨_, rfl⟩, _, ⟨_, rfl⟩, ⟨⟩⟩
  refine ⟨⟨left, top⟩, ?_⟩
  intro place
  rw [square, Frame.mem_square]
  unfold Rect.Has
  dsimp only
  omega

/-- The last corner of the square is in every rectangle around it, so it can be computed
if the corners of the rectangle can. -/
theorem fitsSquare_of_within {s : Spot} {rect box : Rect} (small : s.radius.toNat < 2 ^ 31)
    (bounded : s.bounds = .ok rect) (within : rect.Within box) (box_bounded : box.Bounded) :
    Frame.FitsSquare s.x.toInt s.y.toInt s.radius.toNat := by
  rcases bounds_cases small bounded with ⟨⟨left, top⟩, mem_square_iff⟩
  have corner_mem : (s.x.toInt + s.radius.toNat, s.y.toInt + s.radius.toNat) ∈ s.square :=
    Frame.mem_square.mpr ⟨by omega, by omega⟩
  have corner_has := within _ _ ((mem_square_iff _).mp corner_mem)
  unfold Rect.Has at corner_has
  unfold Rect.Bounded Signed.Fits at box_bounded
  unfold Signed.Fits at left top
  refine ⟨small, left, ?_, top, ?_⟩ <;> unfold Signed.Fits <;> omega

end Spot

namespace Plan

/-! ## Boxes -/

/-- A rectangle of the monitor has all points of another. -/
def Boxes.Cover (boxes : Boxes) (monitor : MonitorId) (rect : Rect) : Prop :=
  ∃ box, (monitor, box) ∈ boxes ∧ rect.Within box

/-- Every monitor has at most one rectangle. -/
def Boxes.Ascend (boxes : Boxes) : Prop :=
  boxes.Pairwise fun first second => first.1 < second.1

theorem extend_cases {monitor m : MonitorId} {rect box : Rect} {rest boxes : Boxes}
    (extended : extend monitor rect ((m, box) :: rest) = .ok boxes) :
    (monitor = m ∧ ∃ both, box.union rect = .ok both ∧ boxes = (m, both) :: rest) ∨
      (monitor < m ∧ boxes = (monitor, rect) :: (m, box) :: rest) ∨
      m < monitor ∧ ∃ others, extend monitor rect rest = .ok others ∧
        boxes = (m, box) :: others := by
  rw [extend] at extended
  split at extended
  · rename_i same
    rcases Checked.bind_eq_ok_iff.mp extended with ⟨both, united, ⟨⟩⟩
    exact .inl ⟨same, both, united, rfl⟩
  · rename_i other
    split at extended
    · rename_i before
      cases extended
      exact .inr (.inl ⟨before, rfl⟩)
    · rename_i not_before
      rcases Checked.bind_eq_ok_iff.mp extended with ⟨others, rest_eq, ⟨⟩⟩
      exact .inr (.inr ⟨by grind, others, rest_eq, rfl⟩)

theorem cover_extend {monitor : MonitorId} {rect : Rect} {before after : Boxes}
    (extended : extend monitor rect before = .ok after) : after.Cover monitor rect := by
  induction before generalizing after with
  | nil =>
      cases extended
      exact ⟨rect, List.mem_singleton_self _, .refl rect⟩
  | cons entry rest ih =>
      rcases extend_cases extended with ⟨rfl, both, united, rfl⟩ | ⟨_, rfl⟩ |
        ⟨_, others, rest_eq, rfl⟩
      · exact ⟨both, List.mem_cons_self, Rect.within_union_right united⟩
      · exact ⟨rect, List.mem_cons_self, .refl rect⟩
      · rcases ih rest_eq with ⟨box, mem, within⟩
        exact ⟨box, List.mem_cons_of_mem _ mem, within⟩

/-- What was covered remains so. -/
theorem Boxes.Cover.extend {monitor m : MonitorId} {rect inner : Rect} {before after : Boxes}
    (covered : before.Cover m inner) (extended : Plan.extend monitor rect before = .ok after) :
    after.Cover m inner := by
  rcases covered with ⟨box, mem, within⟩
  induction before generalizing after with
  | nil => contradiction
  | cons entry rest ih =>
      rcases entry with ⟨first, old⟩
      rcases extend_cases extended with ⟨rfl, both, united, rfl⟩ | ⟨_, rfl⟩ |
        ⟨_, others, rest_eq, rfl⟩
      · rcases List.mem_cons.mp mem with same | later
        · cases same
          exact ⟨both, List.mem_cons_self, within.trans (Rect.within_union_left united)⟩
        · exact ⟨box, List.mem_cons_of_mem _ later, within⟩
      · exact ⟨box, List.mem_cons_of_mem _ mem, within⟩
      · rcases List.mem_cons.mp mem with same | later
        · cases same
          exact ⟨box, List.mem_cons_self, within⟩
        · rcases ih rest_eq later with ⟨other, other_mem, other_within⟩
          exact ⟨other, List.mem_cons_of_mem _ other_mem, other_within⟩

theorem monitor_of_mem_extend {monitor : MonitorId} {rect : Rect} {before after : Boxes}
    (extended : extend monitor rect before = .ok after) {entry : MonitorId × Rect}
    (mem : entry ∈ after) : entry.1 = monitor ∨ ∃ old ∈ before, old.1 = entry.1 := by
  induction before generalizing after with
  | nil =>
      cases extended
      rw [List.mem_singleton.mp mem]
      exact .inl rfl
  | cons first rest ih =>
      rcases extend_cases extended with ⟨rfl, both, _, rfl⟩ | ⟨_, rfl⟩ |
        ⟨_, others, rest_eq, rfl⟩
      · rcases List.mem_cons.mp mem with rfl | later
        · exact .inl rfl
        · exact .inr ⟨entry, List.mem_cons_of_mem _ later, rfl⟩
      · rcases List.mem_cons.mp mem with rfl | later
        · exact .inl rfl
        · exact .inr ⟨entry, later, rfl⟩
      · rcases List.mem_cons.mp mem with rfl | later
        · exact .inr ⟨_, List.mem_cons_self, rfl⟩
        · rcases ih rest_eq later with new | ⟨old, old_mem, same⟩
          · exact .inl new
          · exact .inr ⟨old, List.mem_cons_of_mem _ old_mem, same⟩

theorem Boxes.Ascend.extend {monitor : MonitorId} {rect : Rect} {before after : Boxes}
    (ascend : before.Ascend) (extended : Plan.extend monitor rect before = .ok after) :
    after.Ascend := by
  induction before generalizing after with
  | nil =>
      cases extended
      exact List.pairwise_singleton _ _
  | cons first rest ih =>
      rcases List.pairwise_cons.mp ascend with ⟨first_least, rest_ascend⟩
      rcases extend_cases extended with ⟨rfl, both, _, rfl⟩ | ⟨before_first, rfl⟩ |
        ⟨after_first, others, rest_eq, rfl⟩
      · exact List.pairwise_cons.mpr ⟨first_least, rest_ascend⟩
      · refine List.pairwise_cons.mpr ⟨?_, ascend⟩
        intro entry mem
        rcases List.mem_cons.mp mem with rfl | later
        · exact before_first
        · exact UInt32.lt_trans before_first (first_least entry later)
      · refine List.pairwise_cons.mpr ⟨?_, ih rest_ascend rest_eq⟩
        intro entry mem
        rcases monitor_of_mem_extend rest_eq mem with same | ⟨old, old_mem, same⟩
        · rw [same]
          exact after_first
        · rw [← same]
          exact first_least old old_mem

theorem Boxes.Ascend.eq_of_monitor {boxes : Boxes} (ascend : boxes.Ascend)
    {first second : MonitorId × Rect} (first_mem : first ∈ boxes) (second_mem : second ∈ boxes)
    (same : first.1 = second.1) : first = second := by
  have distinct : (boxes.map Prod.fst).Nodup := by
    rw [List.Nodup, List.pairwise_map]
    exact ascend.imp UInt32.ne_of_lt
  exact List.inj_on_of_nodup_map distinct first_mem second_mem same

/-- What one spot after the other adds to the rectangles: they stay one for each
monitor, what they cover remains covered, and so is each spot from its turn on. -/
theorem foldlM_extend {spots : List Spot} {before after : Boxes}
    (extended : spots.foldlM (fun boxes s => do Plan.extend s.monitor (← s.bounds) boxes) before =
      .ok after) (ascend : before.Ascend) :
    after.Ascend ∧ (∀ m inner, before.Cover m inner → after.Cover m inner) ∧
      ∀ s ∈ spots, ∃ rect, s.bounds = .ok rect ∧ after.Cover s.monitor rect := by
  induction spots generalizing before with
  | nil =>
      cases extended
      exact ⟨ascend, fun _ _ covered => covered, by simp⟩
  | cons s rest ih =>
      rw [List.foldlM_cons] at extended
      rcases Checked.bind_eq_ok_iff.mp extended with ⟨middle, one_more, extended⟩
      rcases Checked.bind_eq_ok_iff.mp one_more with ⟨rect, bounds_eq, one_more⟩
      rcases ih extended (ascend.extend one_more) with ⟨after_ascend, kept, rest_cover⟩
      refine ⟨after_ascend, ?_, ?_⟩
      · intro m inner covered
        exact kept m inner (covered.extend one_more)
      · intro other mem
        rcases List.mem_cons.mp mem with rfl | later
        · exact ⟨rect, bounds_eq, kept _ _ (cover_extend one_more)⟩
        · exact rest_cover other later

theorem boxes_cover {spots : List Spot} {boxes : Boxes} (boxed : Plan.boxes spots = .ok boxes) :
    boxes.Ascend ∧ ∀ s ∈ spots, ∃ rect, s.bounds = .ok rect ∧ boxes.Cover s.monitor rect := by
  rcases foldlM_extend boxed List.Pairwise.nil with ⟨ascend, _, covered⟩
  exact ⟨ascend, covered⟩

/-! ## Placing -/

section

variable {screens : List Screen} {threshold : Float} {monitor : MonitorId} {box : Rect}
  {outcome : Except String Region} {screen : Screen}

/-- What is left of a rectangle on its screen, or more, is the region. -/
theorem place_cases (placed : place screens threshold monitor box = .ok outcome)
    (found : screens.find? (fun s => s.id == monitor) = some screen) :
    box.Bounded ∧
      ((∀ x y, ¬(box.Has x y ∧ screen.rect.Has x y)) ∧
          outcome = .error ("monitor:" ++ toString monitor.toNat ++ ":offscreen") ∨
        ∃ kind rect, outcome = .ok ⟨monitor, kind, rect⟩ ∧ rect.Within screen.rect ∧
          ∀ x y, box.Has x y → screen.rect.Has x y → rect.Has x y) := by
  unfold place at placed
  simp only [found] at placed
  rcases Checked.bind_eq_ok_iff.mp placed with ⟨common, met, placed⟩
  rcases Rect.intersect_cases met with ⟨⟨bounded, _⟩, has_iff⟩
  refine ⟨bounded, ?_⟩
  cases common with
  | none =>
      cases placed
      refine .inl ⟨?_, rfl⟩
      intro x y both
      obtain ⟨_, missing, _⟩ := (has_iff x y).mp both
      contradiction
  | some clipped =>
      right
      dsimp only at placed
      split at placed
      · cases placed
        exact ⟨.whole, screen.rect, rfl, .refl _, fun _ _ _ has => has⟩
      · cases placed
        refine ⟨.part, clipped, rfl, ?_, ?_⟩
        · intro x y has
          exact ((has_iff x y).mpr ⟨clipped, rfl, has⟩).2
        · intro x y in_box in_screen
          rcases (has_iff x y).mp ⟨in_box, in_screen⟩ with ⟨_, ⟨⟩, has⟩
          exact has

theorem monitor_of_place {region : Region}
    (placed : place screens threshold monitor box = .ok (.ok region)) :
    region.monitor = monitor := by
  cases found : screens.find? (fun s => s.id == monitor) with
  | none =>
      unfold place at placed
      simp only [found] at placed
      cases placed
  | some screen =>
      rcases (place_cases placed found).2 with ⟨_, ⟨⟩⟩ | ⟨kind, rect, ⟨⟩, _, _⟩
      rfl

end

/-! ## Regions -/

section

variable {requirements : Requirements} {catalogue : Catalogue} {screens : List Screen}
  {threshold : Float} {version : Nat} {plan : Plan}

/-- The regions of a plan are the rectangles that could be placed. -/
theorem build_cases
    (planned : build requirements catalogue screens threshold version = .ok plan) :
    ∃ boxes, Plan.boxes (requirements.spots catalogue) = .ok boxes ∧
      (∀ entry ∈ boxes, ∃ outcome, place screens threshold entry.1 entry.2 = .ok outcome) ∧
      ∀ region, region ∈ plan.regions ↔
        ∃ entry ∈ boxes, place screens threshold entry.1 entry.2 = .ok (.ok region) := by
  unfold build at planned
  rcases Checked.bind_eq_ok_iff.mp planned with ⟨boxes, boxed, planned⟩
  rcases Checked.bind_eq_ok_iff.mp planned with ⟨placed, placed_eq, ⟨⟩⟩
  rcases Checked.mapM_eq_ok placed_eq with ⟨each_placed, all_placed⟩
  refine ⟨boxes, boxed, ?_, ?_⟩
  · intro entry mem
    rcases each_placed entry mem with ⟨outcome, _, placed⟩
    exact ⟨outcome, placed⟩
  · intro region
    rw [List.mem_filterMap]
    constructor
    · rintro ⟨outcome, outcome_mem, is_region⟩
      cases outcome with
      | error => contradiction
      | ok placed_region =>
          cases is_region
          exact all_placed _ outcome_mem
    · rintro ⟨entry, mem, placed⟩
      rcases each_placed entry mem with ⟨outcome, outcome_mem, outcome_eq⟩
      cases outcome_eq.symm.trans placed
      exact ⟨_, outcome_mem, rfl⟩

/-- A region is found under its monitor. -/
theorem region?_of_place
    (planned : build requirements catalogue screens threshold version = .ok plan)
    {boxes : Boxes} (boxed : Plan.boxes (requirements.spots catalogue) = .ok boxes)
    {entry : MonitorId × Rect} (mem : entry ∈ boxes) {region : Region}
    (placed : place screens threshold entry.1 entry.2 = .ok (.ok region)) :
    plan.region? entry.1 = some region := by
  rcases build_cases planned with ⟨_, boxes_eq, _, mem_regions_iff⟩
  cases boxes_eq.symm.trans boxed
  have region_mem : region ∈ plan.regions := (mem_regions_iff region).mpr ⟨entry, mem, placed⟩
  cases first_found : plan.region? entry.1 with
  | none =>
      have other_monitor := List.find?_eq_none.mp first_found region region_mem
      simp [monitor_of_place placed] at other_monitor
  | some first =>
      -- The first region of the monitor comes from a box of it, and there is one such box.
      have first_mem := List.mem_of_find?_eq_some first_found
      have first_monitor := List.find?_some first_found
      rcases (mem_regions_iff first).mp first_mem with ⟨other, other_mem, other_placed⟩
      have same_monitor : other.1 = entry.1 := by
        rw [← monitor_of_place other_placed]
        exact eq_of_beq first_monitor
      have same_entry := (boxes_cover boxed).1.eq_of_monitor other_mem mem same_monitor
      rw [same_entry, placed] at other_placed
      cases other_placed
      rfl

/-- Every spot that is on its screen has a region, which is on the screen and
leaves out nothing of the screen that a sample of the spot looks at. -/
theorem exists_region_of_mem_spots
    (planned : build requirements catalogue screens threshold version = .ok plan)
    {s : Spot} (mem : s ∈ requirements.spots catalogue) (small : s.radius.toNat < 2 ^ 31)
    {screen : Screen} (found : screens.find? (fun c => c.id == s.monitor) = some screen)
    (centred : screen.rect.Has s.x.toInt s.y.toInt) :
    Frame.FitsSquare s.x.toInt s.y.toInt s.radius.toNat ∧
      ∃ region, plan.region? s.monitor = some region ∧ region.rect.Within screen.rect ∧
        ∀ place ∈ s.square, screen.rect.Has place.1 place.2 →
          region.rect.Has place.1 place.2 := by
  rcases build_cases planned with ⟨boxes, boxed, each_placed, _⟩
  rcases (boxes_cover boxed).2 s mem with ⟨rect, bounds_eq, box, box_mem, within⟩
  rcases Spot.bounds_cases small bounds_eq with ⟨_, mem_square_iff⟩
  rcases each_placed _ box_mem with ⟨outcome, placed⟩
  have box_has (place : Int × Int) (in_square : place ∈ s.square) : box.Has place.1 place.2 :=
    within _ _ ((mem_square_iff place).mp in_square)
  rcases place_cases placed found with ⟨bounded, offscreen | ⟨kind, part, rfl, inside, keeps⟩⟩
  · have centre_mem : (s.x.toInt, s.y.toInt) ∈ s.square :=
      Frame.mem_square.mpr ⟨by omega, by omega⟩
    exact absurd ⟨box_has _ centre_mem, centred⟩ (offscreen.1 _ _)
  · refine ⟨Spot.fitsSquare_of_within small bounds_eq within bounded, _,
      region?_of_place planned boxed box_mem placed, inside, ?_⟩
    intro place in_square on_screen
    exact keeps _ _ (box_has place in_square) on_screen

end

end Plan

end Rotation
