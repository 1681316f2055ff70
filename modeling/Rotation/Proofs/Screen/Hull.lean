import Rotation.Proofs.Screen.Rect

/-!
# Hulls of rectangles

Rectangles are united one after the other.  Without regard to the width of words, the
union of two rectangles is their hull; what has to fit a word for the hull to be computed
can be told from the rectangles that have points, whatever their order: their corners, as
soon as there are two of them, and how far any of them reaches beyond the start of
another.
-/

namespace Rotation.Rect

variable {a b c r start : Rect} {rects : List Rect}

/-- The smallest rectangle that covers both, be its numbers words or not; an empty one
contributes nothing. -/
def hull (a b : Rect) : Rect :=
  if a.isEmpty then b
  else if b.isEmpty then a
  else ⟨min a.x b.x, min a.y b.y, max (a.x + a.w) (b.x + b.w) - min a.x b.x,
    max (a.y + a.h) (b.y + b.h) - min a.y b.y⟩

/-- The rectangle without points at the origin. -/
def nothing : Rect :=
  ⟨0, 0, 0, 0⟩

/-- The upper left corner is made of words. -/
def Anchored (r : Rect) : Prop :=
  Signed.Fits 32 r.x ∧ Signed.Fits 32 r.y

/-- How far a rectangle reaches beyond the start of another can be told by words. -/
def Spans (a b : Rect) : Prop :=
  a.x + a.w - b.x < Unsigned.count 31 ∧ a.y + a.h - b.y < Unsigned.count 31

/-- The hull of two rectangles can be computed. -/
def Joins (a b : Rect) : Prop :=
  a.isEmpty = false → b.isEmpty = false →
    (a.Bounded ∧ b.Bounded) ∧ Signed.Fits 32 (a.hull b).w ∧ Signed.Fits 32 (a.hull b).h

/-- The hull of a list of rectangles can be computed, one after the other. -/
def JoinsAll (start : Rect) : List Rect → Prop
  | [] => True
  | r :: rest => start.Joins r ∧ JoinsAll (start.hull r) rest

/-- The rectangles with points. -/
def filled (rects : List Rect) : List Rect :=
  rects.filter fun r => !r.isEmpty

/-- The rectangles that decide on the hull: those with points, or the last one if there
are none. -/
def shaping (rects : List Rect) : List Rect :=
  if filled rects = [] then rects.getLast?.toList else filled rects

instance (r : Rect) : Decidable r.Anchored :=
  inferInstanceAs (Decidable (_ ∧ _))

instance (a b : Rect) : Decidable (a.Spans b) :=
  inferInstanceAs (Decidable (_ ∧ _))

/-! ## Two rectangles -/

theorem fits_word_iff {n : Int} :
    Signed.Fits 32 n ↔ -(Unsigned.count 31 : Int) ≤ n ∧ n < Unsigned.count 31 :=
  Iff.rfl

theorem isEmpty_eq_false_iff : r.isEmpty = false ↔ 0 < r.w ∧ 0 < r.h := by
  simp only [isEmpty, Bool.or_eq_false_iff, decide_eq_false_iff_not, Int.not_le]

theorem hull_of_isEmpty (empty : a.isEmpty = true) (b : Rect) : a.hull b = b :=
  if_pos empty

theorem hull_of_isEmpty_right (full : a.isEmpty = false) (empty : b.isEmpty = true) :
    a.hull b = a := by
  rw [hull, if_neg (by simp [full]), if_pos empty]

theorem hull_of_full (a_full : a.isEmpty = false) (b_full : b.isEmpty = false) :
    a.hull b = ⟨min a.x b.x, min a.y b.y, max (a.x + a.w) (b.x + b.w) - min a.x b.x,
      max (a.y + a.h) (b.y + b.h) - min a.y b.y⟩ := by
  rw [hull, if_neg (by simp [a_full]), if_neg (by simp [b_full])]

theorem joins_of_isEmpty (empty : a.isEmpty = true) (b : Rect) : a.Joins b := by
  intro full
  rw [empty] at full
  contradiction

theorem joins_of_isEmpty_right (empty : b.isEmpty = true) (a : Rect) : a.Joins b := by
  intro _ full
  rw [empty] at full
  contradiction

/-- A union is the hull, if it can be computed. -/
theorem union_eq_ok_iff : a.union b = .ok c ↔ a.Joins b ∧ c = a.hull b := by
  cases a_empty : a.isEmpty with
  | true =>
      rw [union, if_pos a_empty, hull_of_isEmpty a_empty,
        and_iff_right (joins_of_isEmpty a_empty b)]
      exact ⟨fun same => (Except.ok.inj same).symm, fun same => congrArg Except.ok same.symm⟩
  | false =>
      cases b_empty : b.isEmpty with
      | true =>
          rw [union, if_neg (by simp [a_empty]), if_pos b_empty,
            hull_of_isEmpty_right a_empty b_empty,
            and_iff_right (joins_of_isEmpty_right b_empty a)]
          exact ⟨fun same => (Except.ok.inj same).symm, fun same => congrArg Except.ok same.symm⟩
      | false =>
          rw [union, if_neg (by simp [a_empty]), if_neg (by simp [b_empty]), Joins,
            hull_of_full a_empty b_empty]
          simp only [a_empty, b_empty, forall_const, Checked.bind_eq_ok_iff, right_eq_ok_iff,
            bottom_eq_ok_iff, Signed.sub_eq_ok_iff]
          constructor
          · rintro ⟨_, ⟨right_a, rfl⟩, _, ⟨right_b, rfl⟩, _, ⟨bottom_a, rfl⟩, _, ⟨bottom_b, rfl⟩,
              _, ⟨wide, rfl⟩, _, ⟨high, rfl⟩, ⟨⟩⟩
            exact ⟨⟨⟨⟨right_a, bottom_a⟩, right_b, bottom_b⟩, wide, high⟩, rfl⟩
          · rintro ⟨⟨⟨⟨right_a, bottom_a⟩, right_b, bottom_b⟩, wide, high⟩, rfl⟩
            exact ⟨_, ⟨right_a, rfl⟩, _, ⟨right_b, rfl⟩, _, ⟨bottom_a, rfl⟩, _, ⟨bottom_b, rfl⟩,
              _, ⟨wide, rfl⟩, _, ⟨high, rfl⟩, rfl⟩

theorem hull_full (a_full : a.isEmpty = false) (b_full : b.isEmpty = false) :
    (a.hull b).isEmpty = false := by
  rw [hull_of_full a_full b_full]
  rw [isEmpty_eq_false_iff] at *
  dsimp only
  omega

theorem Anchored.hull (a_anchored : a.Anchored) (b_anchored : b.Anchored) :
    (a.hull b).Anchored := by
  unfold Rect.hull
  split
  · exact b_anchored
  · split
    · exact a_anchored
    · unfold Anchored Signed.Fits at *
      dsimp only
      omega

/-- The hull has corners if both rectangles have. -/
theorem bounded_hull_iff (a_anchored : a.Anchored) (b_anchored : b.Anchored)
    (a_full : a.isEmpty = false) (b_full : b.isEmpty = false) :
    (a.hull b).Bounded ↔ a.Bounded ∧ b.Bounded := by
  rw [hull_of_full a_full b_full]
  rw [isEmpty_eq_false_iff] at a_full b_full
  unfold Anchored Signed.Fits at a_anchored b_anchored
  unfold Bounded Signed.Fits
  dsimp only
  omega

theorem hull_spans_iff (a_full : a.isEmpty = false) (b_full : b.isEmpty = false) (r : Rect) :
    (a.hull b).Spans r ↔ a.Spans r ∧ b.Spans r := by
  rw [hull_of_full a_full b_full]
  unfold Spans
  dsimp only
  omega

theorem spans_hull_iff (a_full : a.isEmpty = false) (b_full : b.isEmpty = false) (r : Rect) :
    r.Spans (a.hull b) ↔ r.Spans a ∧ r.Spans b := by
  rw [hull_of_full a_full b_full]
  unfold Spans
  dsimp only
  omega

theorem joins_iff (a_full : a.isEmpty = false) (b_full : b.isEmpty = false) :
    a.Joins b ↔ (a.Bounded ∧ b.Bounded) ∧ (a.hull b).Spans (a.hull b) := by
  have full := isEmpty_eq_false_iff.mp (hull_full a_full b_full)
  have measured (n : Int) (positive : 0 < n) : Signed.Fits 32 n ↔ n < Unsigned.count 31 := by
    rw [fits_word_iff]
    omega
  simp only [Joins, a_full, b_full, forall_const, Spans, measured _ full.1, measured _ full.2]
  exact and_congr_right fun _ => by omega

/-! ## Lists of rectangles -/

theorem filled_cons_of_isEmpty (empty : r.isEmpty = true) (rects : List Rect) :
    filled (r :: rects) = filled rects :=
  List.filter_cons_of_neg (by simp [empty])

theorem filled_cons_of_full (full : r.isEmpty = false) (rects : List Rect) :
    filled (r :: rects) = r :: filled rects :=
  List.filter_cons_of_pos (by simp [full])

/-- From a rectangle with points on, all rectangles with points count. -/
theorem joinsAll_iff_of_full (anchored : start.Anchored) (full : start.isEmpty = false)
    (spans : start.Spans start) (all_anchored : ∀ r ∈ rects, r.Anchored) :
    JoinsAll start rects ↔
      (filled rects ≠ [] → ∀ r ∈ start :: filled rects, r.Bounded) ∧
        ∀ a ∈ start :: filled rects, ∀ b ∈ start :: filled rects, a.Spans b := by
  induction rects generalizing start with
  | nil => simpa [JoinsAll, filled] using spans
  | cons r rest ih =>
      obtain ⟨r_anchored, rest_anchored⟩ := List.forall_mem_cons.mp all_anchored
      cases r_empty : r.isEmpty with
      | true =>
          rw [JoinsAll, hull_of_isEmpty_right full r_empty, filled_cons_of_isEmpty r_empty,
            ih anchored full spans rest_anchored]
          exact and_iff_right (joins_of_isEmpty_right r_empty start)
      | false =>
          -- The hull counts for both rectangles: it has corners if both have, and spans
          -- what both span.
          have hull_iff (hull_spans : (start.hull r).Spans (start.hull r)) :=
            ih (anchored.hull r_anchored) (hull_full full r_empty) hull_spans rest_anchored
          rw [JoinsAll, filled_cons_of_full r_empty, joins_iff full r_empty, and_assoc,
            and_congr_right fun _ => and_congr_right hull_iff]
          simp only [List.forall_mem_cons, hull_spans_iff full r_empty,
            spans_hull_iff full r_empty, bounded_hull_iff anchored r_anchored full r_empty,
            forall_and, ne_eq, List.cons_ne_nil, not_false_eq_true, forall_const]
          grind

theorem shaping_cons_of_full (full : r.isEmpty = false) (rects : List Rect) :
    shaping (r :: rects) = r :: filled rects := by
  rw [shaping, filled_cons_of_full full, if_neg (List.cons_ne_nil _ _)]

/-- A rectangle without points does not decide if others follow. -/
theorem shaping_cons_of_isEmpty (empty : r.isEmpty = true) (more : rects ≠ []) :
    shaping (r :: rects) = shaping rects := by
  rw [shaping, shaping, filled_cons_of_isEmpty empty, List.getLast?_cons_of_ne_nil more]

/-- Whether the hull of a list can be computed is decided by the shaping rectangles. -/
theorem joinsAll_iff (empty : start.isEmpty = true) (all_anchored : ∀ r ∈ rects, r.Anchored)
    (all_span : ∀ r ∈ rects, r.Spans r) :
    JoinsAll start rects ↔
      (2 ≤ (shaping rects).length → ∀ r ∈ shaping rects, r.Bounded) ∧
        ∀ a ∈ shaping rects, ∀ b ∈ shaping rects, a.Spans b := by
  induction rects generalizing start with
  | nil => simp [JoinsAll, shaping, filled]
  | cons r rest ih =>
      obtain ⟨r_anchored, rest_anchored⟩ := List.forall_mem_cons.mp all_anchored
      obtain ⟨r_spans, rest_span⟩ := List.forall_mem_cons.mp all_span
      rw [JoinsAll, hull_of_isEmpty empty, and_iff_right (joins_of_isEmpty empty r)]
      cases r_empty : r.isEmpty with
      | true =>
          rw [ih r_empty rest_anchored rest_span]
          by_cases more : rest = []
          · subst more
            simp [shaping, filled, r_empty, r_spans]
          · rw [shaping_cons_of_isEmpty r_empty more]
      | false =>
          rw [joinsAll_iff_of_full r_anchored r_empty r_spans rest_anchored,
            shaping_cons_of_full r_empty]
          have two_iff : 2 ≤ (r :: filled rest).length ↔ filled rest ≠ [] := by
            rw [List.length_cons, ← List.length_pos_iff]
            omega
          rw [two_iff]

theorem bounded_foldl_iff_of_full (anchored : start.Anchored) (full : start.isEmpty = false)
    (all_anchored : ∀ r ∈ rects, r.Anchored) :
    (rects.foldl hull start).Bounded ↔ ∀ r ∈ start :: filled rects, r.Bounded := by
  induction rects generalizing start with
  | nil => simp [filled]
  | cons r rest ih =>
      obtain ⟨r_anchored, rest_anchored⟩ := List.forall_mem_cons.mp all_anchored
      rw [List.foldl_cons]
      cases r_empty : r.isEmpty with
      | true =>
          rw [hull_of_isEmpty_right full r_empty, filled_cons_of_isEmpty r_empty,
            ih anchored full rest_anchored]
      | false =>
          rw [ih (anchored.hull r_anchored) (hull_full full r_empty) rest_anchored,
            filled_cons_of_full r_empty]
          simp only [List.forall_mem_cons, bounded_hull_iff anchored r_anchored full r_empty,
            and_assoc]

/-- The hull of a list has corners if the shaping rectangles have. -/
theorem bounded_foldl_iff (empty : start.isEmpty = true) (some_rect : rects ≠ [])
    (all_anchored : ∀ r ∈ rects, r.Anchored) :
    (rects.foldl hull start).Bounded ↔ ∀ r ∈ shaping rects, r.Bounded := by
  induction rects generalizing start with
  | nil => contradiction
  | cons r rest ih =>
      obtain ⟨r_anchored, rest_anchored⟩ := List.forall_mem_cons.mp all_anchored
      rw [List.foldl_cons, hull_of_isEmpty empty]
      cases r_empty : r.isEmpty with
      | true =>
          by_cases more : rest = []
          · subst more
            simp [shaping, filled, r_empty]
          · rw [ih r_empty more rest_anchored, shaping_cons_of_isEmpty r_empty more]
      | false =>
          rw [bounded_foldl_iff_of_full r_anchored r_empty rest_anchored,
            shaping_cons_of_full r_empty]

theorem mem_of_mem_shaping (mem : r ∈ shaping rects) : r ∈ rects := by
  unfold shaping at mem
  split at mem
  · exact List.mem_of_getLast? (Option.mem_toList.mp mem)
  · exact (List.mem_filter.mp mem).1

/-! ## Rectangles near the origin -/

/-- No number of the rectangle uses the last two bits of a word. -/
structure IsNear (r : Rect) : Prop where
  x : -(Unsigned.count 30 : Int) ≤ r.x ∧ r.x < Unsigned.count 30
  y : -(Unsigned.count 30 : Int) ≤ r.y ∧ r.y < Unsigned.count 30
  right : -(Unsigned.count 30 : Int) ≤ r.x + r.w ∧ r.x + r.w < Unsigned.count 30
  bottom : -(Unsigned.count 30 : Int) ≤ r.y + r.h ∧ r.y + r.h < Unsigned.count 30

theorem word_halves : Unsigned.count 31 = Unsigned.count 30 + Unsigned.count 30 :=
  rfl

theorem IsNear.anchored (near : r.IsNear) : r.Anchored := by
  obtain ⟨x, y, _, _⟩ := near
  have halves := word_halves
  rw [Anchored, fits_word_iff, fits_word_iff]
  omega

theorem IsNear.fits_w (near : r.IsNear) : Signed.Fits 32 r.w := by
  obtain ⟨x, _, right, _⟩ := near
  have halves := word_halves
  rw [fits_word_iff]
  omega

theorem IsNear.bounded (near : r.IsNear) : r.Bounded := by
  obtain ⟨_, _, right, bottom⟩ := near
  have halves := word_halves
  rw [Bounded, fits_word_iff, fits_word_iff]
  omega

theorem IsNear.spans (a_near : a.IsNear) (b_near : b.IsNear) : a.Spans b := by
  obtain ⟨_, _, right, bottom⟩ := a_near
  obtain ⟨x, y, _, _⟩ := b_near
  have halves := word_halves
  unfold Spans
  omega

/-! ## Intersections with a screen -/

/-- A rectangle with points that lies in the positive quadrant and has corners. -/
structure Proper (r : Rect) : Prop where
  anchored : 0 ≤ r.x ∧ 0 ≤ r.y
  full : 0 < r.w ∧ 0 < r.h
  bounded : r.Bounded

theorem proper_of_overlap (bounded : a.Bounded) (proper : b.Proper)
    (shared : a.overlap b = some r) : r.Proper := by
  have r_bounded := bounded_of_overlap bounded proper.bounded shared
  obtain ⟨anchored, _, _⟩ := proper
  obtain ⟨meet, rfl⟩ := overlap_eq_some_iff.mp shared
  constructor
  · dsimp only
    omega
  · dsimp only
    omega
  · exact r_bounded

/-- An intersection with a proper rectangle is proper, and can be computed if the corners
can. -/
theorem intersect_of_bounded (bounded : a.Bounded) (proper : b.Proper) :
    ∃ common, a.intersect b = .ok common ∧ ∀ r, common = some r → r.Proper := by
  refine ⟨a.overlap b, intersect_eq_ok_iff.mpr ⟨⟨bounded, proper.bounded⟩, ?_, rfl⟩, ?_⟩
  · intro r shared
    obtain ⟨anchored, full, right, bottom⟩ := proper_of_overlap bounded proper shared
    rw [fits_word_iff] at right bottom
    rw [fits_word_iff, fits_word_iff]
    omega
  · intro r shared
    exact proper_of_overlap bounded proper shared

theorem exists_intersect_iff (proper : b.Proper) :
    (∃ common, a.intersect b = .ok common) ↔ a.Bounded := by
  constructor
  · rintro ⟨common, met⟩
    exact (intersect_cases met).1.1
  · intro bounded
    obtain ⟨common, met, _⟩ := intersect_of_bounded bounded proper
    exact ⟨common, met⟩

theorem proper_of_intersect (proper : b.Proper) (met : a.intersect b = .ok (some r)) :
    r.Proper := by
  obtain ⟨common, same, all_proper⟩ :=
    intersect_of_bounded (intersect_cases met).1.1 proper
  exact all_proper r (Except.ok.inj (same.symm.trans met))

end Rotation.Rect
