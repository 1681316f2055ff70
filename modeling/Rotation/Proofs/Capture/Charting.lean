import Rotation.Proofs.Capture.Regions
import Rotation.Proofs.Screen.Hull

/-!
# When there is a plan

A plan can fail for its numbers only.  The rectangle of a monitor is the hull of the
squares of its spots, so the squares that shape it tell whether it can be computed; and
placing it on a screen takes its corners.  A square whose radius is negative as a signed
word is empty, and shapes the hull only if there are no others.
-/

namespace Rotation

/-! ## Squares -/

namespace Spot

/-- The square of a spot, be its numbers words or not. -/
def reach (s : Spot) : Rect :=
  let r := Signed.wrap 32 s.radius.toNat
  ⟨s.x.toInt - r, s.y.toInt - r, 2 * r + 1, 2 * r + 1⟩

/-- The numbers of the square are words. -/
def Measured (s : Spot) : Prop :=
  s.reach.Anchored ∧ Signed.Fits 32 s.reach.w

instance (s : Spot) : Decidable s.Measured :=
  inferInstanceAs (Decidable (_ ∧ _))

theorem bounds_eq_ok_iff {s : Spot} {rect : Rect} :
    s.bounds = .ok rect ↔ s.Measured ∧ rect = s.reach := by
  unfold bounds Measured reach
  generalize Signed.wrap 32 s.radius.toNat = r
  simp only [Checked.bind_eq_ok_iff, Signed.sub_eq_ok_iff, Signed.mul_eq_ok_iff,
    Signed.add_eq_ok_iff]
  constructor
  · rintro ⟨_, ⟨left, rfl⟩, _, ⟨top, rfl⟩, _, ⟨_, rfl⟩, _, ⟨side, rfl⟩, ⟨⟩⟩
    exact ⟨⟨⟨left, top⟩, side⟩, rfl⟩
  · rintro ⟨⟨⟨left, top⟩, side⟩, rfl⟩
    have twice : Signed.Fits 32 (2 * r) := by
      have count_eq : (Unsigned.count (32 - 1) : Int) = 2 ^ 31 := rfl
      unfold Signed.Fits at *
      omega
    exact ⟨_, ⟨left, rfl⟩, _, ⟨top, rfl⟩, _, ⟨twice, rfl⟩, _, ⟨side, rfl⟩, rfl⟩

theorem Measured.spans {s : Spot} (measured : s.Measured) : s.reach.Spans s.reach := by
  have side := Rect.fits_word_iff.mp measured.2
  have square : s.reach.h = s.reach.w := rfl
  unfold Rect.Spans
  omega

/-- The spot and its square are not far from the origin. -/
def IsNear (s : Spot) : Prop :=
  s.radius.toNat < Unsigned.count 28 ∧
    (-(Unsigned.count 29 : Int) ≤ s.x.toInt ∧ s.x.toInt < Unsigned.count 29) ∧
    -(Unsigned.count 29 : Int) ≤ s.y.toInt ∧ s.y.toInt < Unsigned.count 29

theorem IsNear.reach {s : Spot} (near : s.IsNear) : s.reach.IsNear := by
  have small : s.radius.toNat < 2 ^ 31 := Nat.lt_trans near.1 (by decide)
  have radius_count : Unsigned.count 28 = 268435456 := rfl
  have place_count : Unsigned.count 29 = 536870912 := rfl
  have side_count : Unsigned.count 30 = 1073741824 := rfl
  unfold IsNear at near
  unfold Spot.reach
  rw [Signed.wrap_of_lt small]
  refine ⟨?_, ?_, ?_, ?_⟩ <;> dsimp only <;> omega

theorem IsNear.measured {s : Spot} (near : s.IsNear) : s.Measured :=
  ⟨near.reach.anchored, near.reach.fits_w⟩

end Spot

namespace Plan

variable {spots : List Spot} {screens : List Screen} {before after : Boxes}
  {monitor m : MonitorId} {rect : Rect}

/-- The squares of the spots of a monitor. -/
def reaches (spots : List Spot) (m : MonitorId) : List Rect :=
  (spots.filter fun s => s.monitor == m).map Spot.reach

/-- The squares that shape the rectangle of a monitor. -/
def shapes (spots : List Spot) (m : MonitorId) : List Rect :=
  Rect.shaping (reaches spots m)

/-- All numbers that a plan takes are words: the squares of the spots, their corners
where squares are united or placed on a screen, and their distances. -/
structure Plannable (screens : List Screen) (spots : List Spot) : Prop where
  measured : ∀ s ∈ spots, s.Measured
  bounded : ∀ s ∈ spots,
    (∃ screen ∈ screens, screen.id = s.monitor) ∨ 2 ≤ (shapes spots s.monitor).length →
      ∀ r ∈ shapes spots s.monitor, r.Bounded
  spanned : ∀ s ∈ spots, ∀ a ∈ shapes spots s.monitor, ∀ b ∈ shapes spots s.monitor, a.Spans b

instance (screens : List Screen) (spots : List Spot) : Decidable (Plannable screens spots) :=
  decidable_of_iff (_ ∧ _ ∧ _) ⟨fun ⟨measured, bounded, spanned⟩ => ⟨measured, bounded, spanned⟩,
    fun ⟨measured, bounded, spanned⟩ => ⟨measured, bounded, spanned⟩⟩

/-! ## Boxes -/

/-- The rectangle of a monitor; one without points if there is none. -/
def Boxes.box (boxes : Boxes) (m : MonitorId) : Rect :=
  (boxes.lookup m).getD .nothing

theorem Boxes.box_cons (first : MonitorId) (rect : Rect) (rest : Boxes) (m : MonitorId) :
    Boxes.box ((first, rect) :: rest) m = if m = first then rect else rest.box m := by
  rw [Boxes.box, Boxes.box, List.lookup_cons]
  by_cases own : m = first
  · simp [own]
  · rw [beq_false_of_ne own, if_neg own]

theorem Boxes.box_of_lt (least : ∀ entry ∈ before, m < entry.1) : before.box m = .nothing := by
  have missing : before.lookup m = none := by
    rw [List.lookup_eq_none_iff]
    intro entry mem
    have other := UInt32.ne_of_lt (least entry mem)
    simpa using other
  rw [Boxes.box, missing]
  rfl

theorem Boxes.Ascend.box_of_mem (ascend : before.Ascend) (mem : (m, rect) ∈ before) :
    before.box m = rect := by
  induction before with
  | nil => contradiction
  | cons entry rest ih =>
      obtain ⟨least, rest_ascend⟩ := List.pairwise_cons.mp ascend
      rw [Boxes.box_cons]
      rcases List.mem_cons.mp mem with rfl | later
      · exact if_pos rfl
      · rw [if_neg (UInt32.ne_of_lt (least _ later)).symm, ih rest_ascend later]

/-- A rectangle that has been added could be united with that of its monitor. -/
theorem box_of_extend (ascend : before.Ascend) (extended : extend monitor rect before = .ok after) :
    (before.box monitor).Joins rect ∧
      ∀ m, after.box m = if m = monitor then (before.box monitor).hull rect else before.box m := by
  induction before generalizing after with
  | nil =>
      cases extended
      refine ⟨Rect.joins_of_isEmpty rfl rect, fun m => ?_⟩
      rw [Boxes.box_cons]
      rfl
  | cons entry rest ih =>
      obtain ⟨first, old⟩ := entry
      obtain ⟨least, rest_ascend⟩ := List.pairwise_cons.mp ascend
      rcases extend_cases extended with ⟨rfl, both, united, rfl⟩ | ⟨before_first, rfl⟩ |
        ⟨after_first, others, rest_eq, rfl⟩
      · obtain ⟨joins, rfl⟩ := Rect.union_eq_ok_iff.mp united
        rw [Boxes.box_cons, if_pos rfl]
        refine ⟨joins, fun m => ?_⟩
        rw [Boxes.box_cons, Boxes.box_cons]
        split <;> rfl
      · have missing : Boxes.box ((first, old) :: rest) monitor = .nothing := by
          apply Boxes.box_of_lt
          intro entry mem
          rcases List.mem_cons.mp mem with rfl | later
          · exact before_first
          · exact UInt32.lt_trans before_first (least entry later)
        rw [missing]
        refine ⟨Rect.joins_of_isEmpty rfl rect, fun m => ?_⟩
        rw [Boxes.box_cons, Rect.hull_of_isEmpty rfl]
      · obtain ⟨joins, box_eq⟩ := ih rest_ascend rest_eq
        have other : monitor ≠ first := (UInt32.ne_of_lt after_first).symm
        rw [Boxes.box_cons, if_neg other]
        refine ⟨joins, fun m => ?_⟩
        rw [Boxes.box_cons, Boxes.box_cons, box_eq]
        by_cases own : m = first
        · rw [if_pos own, if_pos own, if_neg (own ▸ other.symm)]
        · rw [if_neg own, if_neg own]

theorem exists_extend (ascend : before.Ascend) (joins : (before.box monitor).Joins rect) :
    ∃ after, extend monitor rect before = .ok after := by
  induction before with
  | nil => exact ⟨_, rfl⟩
  | cons entry rest ih =>
      obtain ⟨first, old⟩ := entry
      rw [Boxes.box_cons] at joins
      rw [extend]
      split at joins
      · rename_i own
        rw [if_pos own, Rect.union_eq_ok_iff.mpr ⟨joins, rfl⟩]
        exact ⟨_, rfl⟩
      · rename_i other
        rw [if_neg other]
        split
        · exact ⟨_, rfl⟩
        · obtain ⟨others, rest_eq⟩ := ih (List.pairwise_cons.mp ascend).2 joins
          rw [rest_eq]
          exact ⟨_, rfl⟩

theorem reaches_cons (s : Spot) (rest : List Spot) (m : MonitorId) :
    reaches (s :: rest) m =
      if m = s.monitor then s.reach :: reaches rest m else reaches rest m := by
  rw [reaches, List.filter_cons, reaches]
  by_cases own : m = s.monitor
  · simp [own]
  · simp [own, Ne.symm own]

/-- A spot that has been added is the first of the squares to be united. -/
theorem reaches_after_extend {s : Spot} {rest : List Spot} {middle : Boxes}
    (joins : (before.box s.monitor).Joins s.reach)
    (middle_eq : ∀ m, middle.box m =
      if m = s.monitor then (before.box s.monitor).hull s.reach else before.box m)
    (m : MonitorId) :
    (Rect.JoinsAll (before.box m) (reaches (s :: rest) m) ↔
        Rect.JoinsAll (middle.box m) (reaches rest m)) ∧
      (reaches (s :: rest) m).foldl Rect.hull (before.box m) =
        (reaches rest m).foldl Rect.hull (middle.box m) := by
  rw [reaches_cons, middle_eq]
  by_cases own : m = s.monitor
  · subst own
    rw [if_pos rfl, if_pos rfl]
    exact ⟨and_iff_right joins, rfl⟩
  · rw [if_neg own, if_neg own]
    exact ⟨Iff.rfl, rfl⟩

/-- What one spot after the other adds to the rectangle of each monitor. -/
theorem box_of_foldlM_extend (ascend : before.Ascend)
    (extended : spots.foldlM (fun boxes s => do extend s.monitor (← s.bounds) boxes) before =
      .ok after) :
    (∀ s ∈ spots, s.Measured) ∧ ∀ m, Rect.JoinsAll (before.box m) (reaches spots m) ∧
      after.box m = (reaches spots m).foldl Rect.hull (before.box m) := by
  induction spots generalizing before with
  | nil =>
      cases extended
      exact ⟨nofun, fun m => ⟨trivial, rfl⟩⟩
  | cons s rest ih =>
      rw [List.foldlM_cons] at extended
      obtain ⟨middle, one_more, extended⟩ := Checked.bind_eq_ok_iff.mp extended
      obtain ⟨rect, bounds_eq, one_more⟩ := Checked.bind_eq_ok_iff.mp one_more
      obtain ⟨measured, rfl⟩ := Spot.bounds_eq_ok_iff.mp bounds_eq
      obtain ⟨joins, middle_eq⟩ := box_of_extend ascend one_more
      obtain ⟨rest_measured, rest_eq⟩ := ih (ascend.extend one_more) extended
      refine ⟨List.forall_mem_cons.mpr ⟨measured, rest_measured⟩, fun m => ?_⟩
      obtain ⟨joins_iff, hull_eq⟩ := reaches_after_extend joins middle_eq m
      rw [joins_iff, hull_eq]
      exact rest_eq m

theorem exists_foldlM_extend (ascend : before.Ascend) (measured : ∀ s ∈ spots, s.Measured)
    (joins : ∀ m, Rect.JoinsAll (before.box m) (reaches spots m)) :
    ∃ after, spots.foldlM (fun boxes s => do extend s.monitor (← s.bounds) boxes) before =
      .ok after := by
  induction spots generalizing before with
  | nil => exact ⟨before, rfl⟩
  | cons s rest ih =>
      obtain ⟨s_measured, rest_measured⟩ := List.forall_mem_cons.mp measured
      have bounds_eq := Spot.bounds_eq_ok_iff.mpr ⟨s_measured, rfl⟩
      have own_joins := joins s.monitor
      rw [reaches_cons, if_pos rfl] at own_joins
      obtain ⟨middle, one_more⟩ := exists_extend ascend own_joins.1
      obtain ⟨_, middle_eq⟩ := box_of_extend ascend one_more
      have rest_joins (m : MonitorId) : Rect.JoinsAll (middle.box m) (reaches rest m) :=
        (reaches_after_extend own_joins.1 middle_eq m).1.mp (joins m)
      obtain ⟨after, extended⟩ := ih (ascend.extend one_more) rest_measured rest_joins
      refine ⟨after, ?_⟩
      rw [List.foldlM_cons, bounds_eq, Checked.ok_bind, one_more, Checked.ok_bind, extended]

theorem mem_reaches {r : Rect} :
    r ∈ reaches spots m ↔ ∃ s ∈ spots, s.monitor = m ∧ s.reach = r := by
  simp only [reaches, List.mem_map, List.mem_filter, beq_iff_eq, and_assoc]

theorem reaches_eq_nil (no_spot : ¬∃ s ∈ spots, s.monitor = m) : reaches spots m = [] := by
  rw [List.eq_nil_iff_forall_not_mem]
  intro r mem
  obtain ⟨s, s_mem, own, _⟩ := mem_reaches.mp mem
  exact no_spot ⟨s, s_mem, own⟩

theorem anchored_of_mem_reaches (measured : ∀ s ∈ spots, s.Measured) :
    ∀ r ∈ reaches spots m, r.Anchored := by
  intro r mem
  obtain ⟨s, s_mem, _, rfl⟩ := mem_reaches.mp mem
  exact (measured s s_mem).1

/-- What can be told of the squares of a monitor once they are measured. -/
theorem joinsAll_reaches_iff (measured : ∀ s ∈ spots, s.Measured) (m : MonitorId) :
    Rect.JoinsAll .nothing (reaches spots m) ↔
      (2 ≤ (shapes spots m).length → ∀ r ∈ shapes spots m, r.Bounded) ∧
        ∀ a ∈ shapes spots m, ∀ b ∈ shapes spots m, a.Spans b := by
  refine Rect.joinsAll_iff rfl (anchored_of_mem_reaches measured) fun r mem => ?_
  obtain ⟨s, s_mem, _, rfl⟩ := mem_reaches.mp mem
  exact (measured s s_mem).spans

/-- The rectangle of a monitor has corners if the squares that shape it have. -/
theorem bounded_box_iff {boxes : Boxes} (boxed : Plan.boxes spots = .ok boxes) {s : Spot}
    (mem : s ∈ spots) :
    (boxes.box s.monitor).Bounded ↔ ∀ r ∈ shapes spots s.monitor, r.Bounded := by
  obtain ⟨measured, boxes_eq⟩ := box_of_foldlM_extend List.Pairwise.nil boxed
  have own : s.reach ∈ reaches spots s.monitor := mem_reaches.mpr ⟨s, mem, rfl, rfl⟩
  rw [(boxes_eq s.monitor).2]
  exact Rect.bounded_foldl_iff rfl (List.ne_nil_of_mem own) (anchored_of_mem_reaches measured)

/-! ## Plans -/

/-- A rectangle can be placed if its corners can be computed, and on a screen that is not
there in any case. -/
theorem exists_place_iff {threshold : Float} {rect : Rect}
    (proper : ∀ screen ∈ screens, screen.rect.Proper) :
    (∃ outcome, place screens threshold m rect = .ok outcome) ↔
      ((∃ screen ∈ screens, screen.id = m) → rect.Bounded) := by
  cases found : screens.find? (fun s => s.id == m) with
  | none =>
      have missing : ¬∃ screen ∈ screens, screen.id = m := by
        rintro ⟨screen, mem, own⟩
        have other := List.find?_eq_none.mp found screen mem
        simp [own] at other
      unfold place
      simp only [found]
      exact ⟨fun _ there => absurd there missing, fun _ => ⟨_, rfl⟩⟩
  | some screen =>
      have mem := List.mem_of_find?_eq_some found
      have own : screen.id = m := by simpa using List.find?_some found
      constructor
      · rintro ⟨outcome, placed⟩ _
        exact (place_cases placed found).1
      · intro bounded
        obtain ⟨common, met⟩ :=
          (Rect.exists_intersect_iff (proper screen mem)).mpr (bounded ⟨screen, mem, own⟩)
        unfold place
        simp only [found, met, Checked.ok_bind]
        cases common with
        | none => exact ⟨_, rfl⟩
        | some clipped =>
            dsimp only
            split <;> exact ⟨_, rfl⟩

theorem Plannable.of_boxes {boxes : Boxes} (boxed : Plan.boxes spots = .ok boxes)
    (proper : ∀ screen ∈ screens, screen.rect.Proper) {threshold : Float}
    (placed : ∀ entry ∈ boxes, ∃ outcome, place screens threshold entry.1 entry.2 = .ok outcome) :
    Plannable screens spots := by
  obtain ⟨measured, boxes_eq⟩ := box_of_foldlM_extend List.Pairwise.nil boxed
  obtain ⟨ascend, covered⟩ := boxes_cover boxed
  have shapes_join (s : Spot) := (joinsAll_reaches_iff measured s.monitor).mp (boxes_eq _).1
  refine ⟨measured, ?_, fun s _ => (shapes_join s).2⟩
  rintro s mem (there | two)
  · obtain ⟨_, _, box, box_mem, _⟩ := covered s mem
    rw [← bounded_box_iff boxed mem, ascend.box_of_mem box_mem]
    exact (exists_place_iff proper).mp (placed _ box_mem) there
  · exact (shapes_join s).1 two

theorem Plannable.exists_boxes (plannable : Plannable screens spots) :
    ∃ boxes, Plan.boxes spots = .ok boxes := by
  refine exists_foldlM_extend List.Pairwise.nil plannable.measured fun m => ?_
  by_cases some_spot : ∃ s ∈ spots, s.monitor = m
  · obtain ⟨s, mem, rfl⟩ := some_spot
    exact (joinsAll_reaches_iff plannable.measured s.monitor).mpr
      ⟨fun two => plannable.bounded s mem (.inr two), plannable.spanned s mem⟩
  · rw [reaches_eq_nil some_spot]
    trivial

/-- The rectangles of a monitor that is there have corners. -/
theorem Plannable.bounded_of_mem (plannable : Plannable screens spots) {boxes : Boxes}
    (boxed : Plan.boxes spots = .ok boxes) {entry : MonitorId × Rect} (mem : entry ∈ boxes)
    (there : ∃ screen ∈ screens, screen.id = entry.1) : entry.2.Bounded := by
  rw [← (boxes_cover boxed).1.box_of_mem mem]
  by_cases some_spot : ∃ s ∈ spots, s.monitor = entry.1
  · obtain ⟨s, s_mem, own⟩ := some_spot
    rw [← own] at there ⊢
    exact (bounded_box_iff boxed s_mem).mpr (plannable.bounded s s_mem (.inl there))
  · have corners : Rect.nothing.Bounded := by decide
    have boxes_eq := (box_of_foldlM_extend List.Pairwise.nil boxed).2 entry.1
    rw [boxes_eq.2, reaches_eq_nil some_spot]
    exact corners

/-- Spots that are not far from the origin and do not look far around can be planned for
any screens. -/
theorem plannable_of_near (near : ∀ s ∈ spots, s.IsNear) (screens : List Screen) :
    Plannable screens spots := by
  have reach_near {m : MonitorId} {r : Rect} (mem : r ∈ shapes spots m) : r.IsNear := by
    obtain ⟨s, s_mem, _, rfl⟩ := mem_reaches.mp (Rect.mem_of_mem_shaping mem)
    exact (near s s_mem).reach
  exact ⟨fun s mem => (near s mem).measured, fun s _ _ r mem => (reach_near mem).bounded,
    fun s _ a a_mem b b_mem => (reach_near a_mem).spans (reach_near b_mem)⟩

/-- What is grabbed of a screen is proper. -/
theorem proper_of_place {threshold : Float} {rect : Rect} {region : Region}
    (proper : ∀ screen ∈ screens, screen.rect.Proper)
    (placed : place screens threshold m rect = .ok (.ok region)) : region.rect.Proper := by
  unfold place at placed
  split at placed
  · cases placed
  · rename_i screen found
    have screen_proper := proper screen (List.mem_of_find?_eq_some found)
    obtain ⟨common, met, placed⟩ := Checked.bind_eq_ok_iff.mp placed
    cases common with
    | none => cases placed
    | some clipped =>
        dsimp only at placed
        split at placed <;> cases placed
        · exact screen_proper
        · exact Rect.proper_of_intersect screen_proper met

/-- There is a plan exactly if all its numbers are words. -/
theorem exists_build_iff {requirements : Requirements} {catalogue : Catalogue}
    {threshold : Float} {version : Nat} (proper : ∀ screen ∈ screens, screen.rect.Proper) :
    (∃ plan, build requirements catalogue screens threshold version = .ok plan) ↔
      Plannable screens (requirements.spots catalogue) := by
  constructor
  · rintro ⟨plan, planned⟩
    obtain ⟨boxes, boxed, placed, _⟩ := build_cases planned
    exact .of_boxes boxed proper placed
  · intro plannable
    obtain ⟨boxes, boxed⟩ := plannable.exists_boxes
    have each_placed (entry : MonitorId × Rect) (mem : entry ∈ boxes) :
        ∃ outcome, place screens threshold entry.1 entry.2 = .ok outcome :=
      (exists_place_iff proper).mpr (plannable.bounded_of_mem boxed mem)
    obtain ⟨placed, placed_eq⟩ := Checked.exists_mapM_iff.mpr each_placed
    unfold build
    rw [boxed, Checked.ok_bind]
    exact ⟨_, Checked.bind_eq_ok_iff.mpr ⟨placed, placed_eq, rfl⟩⟩

section

variable {requirements : Requirements} {catalogue : Catalogue} {threshold : Float}
  {version : Nat} {plan : Plan}

/-- Nothing near the origin stands in the way of a plan, whatever the screens are. -/
theorem exists_build_of_near (proper : ∀ screen ∈ screens, screen.rect.Proper)
    (near : ∀ s ∈ requirements.spots catalogue, s.IsNear) (threshold : Float) (version : Nat) :
    ∃ plan, build requirements catalogue screens threshold version = .ok plan :=
  (exists_build_iff proper).mpr (plannable_of_near near screens)

theorem proper_of_mem_regions (proper : ∀ screen ∈ screens, screen.rect.Proper)
    (planned : build requirements catalogue screens threshold version = .ok plan)
    {region : Region} (mem : region ∈ plan.regions) : region.rect.Proper := by
  obtain ⟨boxes, _, _, mem_regions_iff⟩ := build_cases planned
  obtain ⟨entry, _, placed⟩ := (mem_regions_iff region).mp mem
  exact proper_of_place proper placed

/-- Where something is grabbed, the corners of all squares have been computed. -/
theorem fitsSquare_of_mem_regions
    (planned : build requirements catalogue screens threshold version = .ok plan)
    {s : Spot} (mem : s ∈ requirements.spots catalogue) (small : s.radius.toNat < 2 ^ 31)
    {region : Region} (region_mem : region ∈ plan.regions) (own : region.monitor = s.monitor) :
    Frame.FitsSquare s.x.toInt s.y.toInt s.radius.toNat := by
  obtain ⟨boxes, boxed, _, mem_regions_iff⟩ := build_cases planned
  obtain ⟨ascend, covered⟩ := boxes_cover boxed
  obtain ⟨rect, bounds_eq, box, box_mem, within⟩ := covered s mem
  obtain ⟨entry, entry_mem, placed⟩ := (mem_regions_iff region).mp region_mem
  obtain rfl := ascend.eq_of_monitor entry_mem box_mem ((monitor_of_place placed).symm.trans own)
  cases found : screens.find? (fun c => c.id == s.monitor) with
  | none =>
      unfold place at placed
      simp only [found] at placed
      cases placed
  | some screen =>
      exact Spot.fitsSquare_of_within small bounds_eq within (place_cases placed found).1

end

end Plan

end Rotation
