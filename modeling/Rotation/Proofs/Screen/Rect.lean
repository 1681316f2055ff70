import Rotation.Screen.Rect

/-!
# The points of rectangles

Which points belong to a rectangle depends on its numbers alone, also where the
corners of it are no words.  Whenever the corners can be computed, a rectangle
contains its points, a union covers the points of both, and an intersection has
just the common ones.
-/

namespace Rotation.Rect

/-- The point belongs to the rectangle. -/
def Has (r : Rect) (x y : Int) : Prop :=
  (r.x ≤ x ∧ x < r.x + r.w) ∧ r.y ≤ y ∧ y < r.y + r.h

instance (r : Rect) (x y : Int) : Decidable (r.Has x y) :=
  inferInstanceAs (Decidable (_ ∧ _))

/-- All points of a rectangle belong to the other. -/
def Within (inner outer : Rect) : Prop :=
  ∀ x y, inner.Has x y → outer.Has x y

/-- The corners of the rectangle can be computed. -/
def Bounded (r : Rect) : Prop :=
  Signed.Fits 32 (r.x + r.w) ∧ Signed.Fits 32 (r.y + r.h)

instance (r : Rect) : Decidable r.Bounded :=
  inferInstanceAs (Decidable (_ ∧ _))

variable {a b c r : Rect} {x y : Int}

theorem Within.refl (r : Rect) : r.Within r := by
  intro x y has
  exact has

theorem Within.trans (first : a.Within b) (second : b.Within c) : a.Within c := by
  intro x y has
  exact second x y (first x y has)

theorem right_eq_ok_iff {n : Int} : r.right = .ok n ↔ Signed.Fits 32 (r.x + r.w) ∧ n = r.x + r.w :=
  Signed.add_eq_ok_iff

theorem bottom_eq_ok_iff {n : Int} :
    r.bottom = .ok n ↔ Signed.Fits 32 (r.y + r.h) ∧ n = r.y + r.h :=
  Signed.add_eq_ok_iff

theorem isEmpty_eq_false_of_has (has : r.Has x y) : r.isEmpty = false := by
  unfold Has at has
  simp only [isEmpty, Bool.or_eq_false_iff, decide_eq_false_iff_not]
  omega

theorem contains_eq (bounded : r.Bounded) (x y : Int) :
    r.contains x y = .ok (decide (r.Has x y)) := by
  have right_eq : r.right = .ok (r.x + r.w) := right_eq_ok_iff.mpr ⟨bounded.1, rfl⟩
  have bottom_eq : r.bottom = .ok (r.y + r.h) := bottom_eq_ok_iff.mpr ⟨bounded.2, rfl⟩
  unfold contains
  simp only [right_eq, bottom_eq, Checked.ok_bind]
  repeat' split
  all_goals
    apply congrArg Except.ok
    rw [Bool.eq_iff_iff]
    simp only [decide_eq_true_eq, Bool.false_eq_true, false_iff]
    unfold Has
    omega

theorem has_of_contains (inside : r.contains x y = .ok true) : r.Bounded ∧ r.Has x y := by
  unfold contains at inside
  split at inside
  · cases inside
  · simp only [Checked.bind_eq_ok_iff, right_eq_ok_iff] at inside
    rcases inside with ⟨_, ⟨right, rfl⟩, inside⟩
    split at inside
    · cases inside
    · split at inside
      · cases inside
      · simp only [Checked.bind_eq_ok_iff, bottom_eq_ok_iff] at inside
        rcases inside with ⟨_, ⟨bottom, rfl⟩, below⟩
        have below := of_decide_eq_true (Except.ok.inj below)
        refine ⟨⟨right, bottom⟩, ?_⟩
        unfold Has
        omega

/-! ## Unions -/

theorem union_cases (united : a.union b = .ok c) :
    (a.isEmpty = true ∧ c = b) ∨ (b.isEmpty = true ∧ c = a) ∨
      c = ⟨min a.x b.x, min a.y b.y, max (a.x + a.w) (b.x + b.w) - min a.x b.x,
        max (a.y + a.h) (b.y + b.h) - min a.y b.y⟩ := by
  unfold union at united
  split at united
  · rename_i empty
    exact .inl ⟨empty, (Except.ok.inj united).symm⟩
  · split at united
    · rename_i empty
      exact .inr (.inl ⟨empty, (Except.ok.inj united).symm⟩)
    · simp only [Checked.bind_eq_ok_iff, right_eq_ok_iff, bottom_eq_ok_iff,
        Signed.sub_eq_ok_iff] at united
      rcases united with ⟨_, ⟨_, rfl⟩, _, ⟨_, rfl⟩, _, ⟨_, rfl⟩, _, ⟨_, rfl⟩, _, ⟨_, rfl⟩,
        _, ⟨_, rfl⟩, ⟨⟩⟩
      exact .inr (.inr rfl)

theorem within_union_left (united : a.union b = .ok c) : a.Within c := by
  intro x y has
  rcases union_cases united with ⟨empty, _⟩ | ⟨_, rfl⟩ | rfl
  · rw [isEmpty_eq_false_of_has has] at empty
    contradiction
  · exact has
  · unfold Has at *
    dsimp only
    omega

theorem within_union_right (united : a.union b = .ok c) : b.Within c := by
  intro x y has
  rcases union_cases united with ⟨_, rfl⟩ | ⟨empty, _⟩ | rfl
  · exact has
  · rw [isEmpty_eq_false_of_has has] at empty
    contradiction
  · unfold Has at *
    dsimp only
    omega

/-! ## Intersections -/

/-- The part that two rectangles share, be its numbers words or not. -/
def overlap (a b : Rect) : Option Rect :=
  if min (a.x + a.w) (b.x + b.w) ≤ max a.x b.x ∨ min (a.y + a.h) (b.y + b.h) ≤ max a.y b.y then
    none
  else
    some ⟨max a.x b.x, max a.y b.y, min (a.x + a.w) (b.x + b.w) - max a.x b.x,
      min (a.y + a.h) (b.y + b.h) - max a.y b.y⟩

theorem overlap_eq_some_iff :
    a.overlap b = some r ↔
      (max a.x b.x < min (a.x + a.w) (b.x + b.w) ∧ max a.y b.y < min (a.y + a.h) (b.y + b.h)) ∧
        r = ⟨max a.x b.x, max a.y b.y, min (a.x + a.w) (b.x + b.w) - max a.x b.x,
          min (a.y + a.h) (b.y + b.h) - max a.y b.y⟩ := by
  rw [overlap, Option.ite_none_left_eq_some, not_or, Int.not_le, Int.not_le, Option.some.injEq,
    eq_comm (b := r)]

/-- An intersection is the overlap, if the corners of both rectangles and the extent of
the overlap can be computed. -/
theorem intersect_eq_ok_iff {common : Option Rect} :
    a.intersect b = .ok common ↔
      (a.Bounded ∧ b.Bounded) ∧
        (∀ r, a.overlap b = some r → Signed.Fits 32 r.w ∧ Signed.Fits 32 r.h) ∧
        common = a.overlap b := by
  unfold intersect
  simp only [Checked.bind_eq_ok_iff, right_eq_ok_iff, bottom_eq_ok_iff, Bool.or_eq_true,
    decide_eq_true_eq]
  by_cases apart : min (a.x + a.w) (b.x + b.w) ≤ max a.x b.x ∨
      min (a.y + a.h) (b.y + b.h) ≤ max a.y b.y
  · rw [overlap, if_pos apart]
    constructor
    · rintro ⟨_, ⟨right_a, rfl⟩, _, ⟨right_b, rfl⟩, _, ⟨bottom_a, rfl⟩, _, ⟨bottom_b, rfl⟩, met⟩
      rw [if_pos apart] at met
      exact ⟨⟨⟨right_a, bottom_a⟩, right_b, bottom_b⟩, nofun, (Except.ok.inj met).symm⟩
    · rintro ⟨⟨⟨right_a, bottom_a⟩, right_b, bottom_b⟩, _, rfl⟩
      refine ⟨_, ⟨right_a, rfl⟩, _, ⟨right_b, rfl⟩, _, ⟨bottom_a, rfl⟩, _, ⟨bottom_b, rfl⟩, ?_⟩
      rw [if_pos apart]
      rfl
  · rw [overlap, if_neg apart]
    simp only [Option.some.injEq, forall_eq']
    constructor
    · rintro ⟨_, ⟨right_a, rfl⟩, _, ⟨right_b, rfl⟩, _, ⟨bottom_a, rfl⟩, _, ⟨bottom_b, rfl⟩, met⟩
      rw [if_neg apart] at met
      simp only [Checked.bind_eq_ok_iff, Signed.sub_eq_ok_iff] at met
      obtain ⟨_, ⟨wide, rfl⟩, _, ⟨high, rfl⟩, met⟩ := met
      exact ⟨⟨⟨right_a, bottom_a⟩, right_b, bottom_b⟩, ⟨wide, high⟩, (Except.ok.inj met).symm⟩
    · rintro ⟨⟨⟨right_a, bottom_a⟩, right_b, bottom_b⟩, ⟨wide, high⟩, rfl⟩
      refine ⟨_, ⟨right_a, rfl⟩, _, ⟨right_b, rfl⟩, _, ⟨bottom_a, rfl⟩, _, ⟨bottom_b, rfl⟩, ?_⟩
      rw [if_neg apart, Signed.sub_eq_ok_iff.mpr ⟨wide, rfl⟩, Signed.sub_eq_ok_iff.mpr ⟨high, rfl⟩]
      rfl

theorem has_and_has_iff :
    a.Has x y ∧ b.Has x y ↔ ∃ r, a.overlap b = some r ∧ r.Has x y := by
  simp only [overlap_eq_some_iff]
  constructor
  · intro both
    refine ⟨_, ⟨?_, rfl⟩, ?_⟩
    · unfold Has at both
      omega
    · unfold Has at *
      dsimp only
      omega
  · rintro ⟨_, ⟨_, rfl⟩, has⟩
    unfold Has at *
    dsimp only at has
    omega

theorem exists_has_of_overlap (shared : a.overlap b = some r) : ∃ x y, r.Has x y := by
  obtain ⟨meet, rfl⟩ := overlap_eq_some_iff.mp shared
  refine ⟨max a.x b.x, max a.y b.y, ?_⟩
  unfold Has
  dsimp only
  omega

theorem bounded_of_overlap (a_bounded : a.Bounded) (b_bounded : b.Bounded)
    (shared : a.overlap b = some r) : r.Bounded := by
  obtain ⟨_, rfl⟩ := overlap_eq_some_iff.mp shared
  unfold Bounded Signed.Fits at *
  dsimp only
  omega

theorem intersect_cases {common : Option Rect} (met : a.intersect b = .ok common) :
    (a.Bounded ∧ b.Bounded) ∧
      ∀ x y, (a.Has x y ∧ b.Has x y ↔ ∃ r, common = some r ∧ r.Has x y) := by
  obtain ⟨bounded, _, rfl⟩ := intersect_eq_ok_iff.mp met
  exact ⟨bounded, fun x y => has_and_has_iff⟩

/-- An intersection has a point. -/
theorem exists_has_of_intersect (met : a.intersect b = .ok (some r)) : ∃ x y, r.Has x y := by
  obtain ⟨_, _, shared⟩ := intersect_eq_ok_iff.mp met
  exact exists_has_of_overlap shared.symm

end Rotation.Rect
