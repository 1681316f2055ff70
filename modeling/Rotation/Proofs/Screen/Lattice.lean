import Mathlib.Data.List.Perm.Basic
import Rotation.Proofs.Screen.Hull

/-!
# Rectangles as a lattice

Rectangles are compared by the points that they are told to contain.  The intersection
of two is the greatest rectangle within both, and there is none exactly if they share no
point; the union is the least one that covers both.  With points in each of them,
rectangles can be united in any order: the hull does not depend on it, and neither does
whether it can be computed.
-/

namespace Rotation.Rect

variable {a b c r start first second : Rect} {rects rest others : List Rect} {x y : Int}

/-- All numbers of the rectangle are words. -/
structure IsWords (r : Rect) : Prop where
  anchored : r.Anchored
  sized : Signed.Fits 32 r.w ∧ Signed.Fits 32 r.h

/-- Whatever point is told to be in the inner rectangle is told to be in the outer one. -/
def Covers (outer inner : Rect) : Prop :=
  ∀ x y, inner.contains x y = .ok true → outer.contains x y = .ok true

/-- What two rectangles have in common: a rectangle if they share a point, and of every
point it can be told whether it is in the rectangle, which it is if it is in both. -/
structure IsMeet (a b : Rect) (common : Option Rect) : Prop where
  isSome_iff : common.isSome = true ↔
    ∃ x y, a.contains x y = .ok true ∧ b.contains x y = .ok true
  contains_eq : ∀ r ∈ common, ∀ x y, ∃ in_a in_b, a.contains x y = .ok in_a ∧
    b.contains x y = .ok in_b ∧ r.contains x y = .ok (in_a && in_b)

/-- The least rectangle that covers two others. -/
structure IsJoin (a b c : Rect) : Prop where
  left : c.Covers a
  right : c.Covers b
  least : ∀ bound : Rect, bound.Covers a → bound.Covers b → bound.Covers c

theorem contains_eq_true_iff : r.contains x y = .ok true ↔ r.Bounded ∧ r.Has x y := by
  constructor
  · exact has_of_contains
  · rintro ⟨bounded, has⟩
    rw [contains_eq bounded, decide_eq_true has]

theorem IsWords.spans (words : r.IsWords) : r.Spans r := by
  obtain ⟨wide, high⟩ := words.sized
  rw [fits_word_iff] at wide high
  unfold Spans
  omega

/-! ## Intersections -/

/-- Where the corners can be computed, an intersection is no larger than the rectangles. -/
theorem exists_intersect_iff_bounded (a_words : a.IsWords) (b : Rect) :
    (∃ common, a.intersect b = .ok common) ↔ a.Bounded ∧ b.Bounded := by
  simp only [intersect_eq_ok_iff]
  constructor
  · rintro ⟨_, bounded, _⟩
    exact bounded
  · intro bounded
    refine ⟨a.overlap b, bounded, ?_, rfl⟩
    intro r shared
    obtain ⟨meet, rfl⟩ := overlap_eq_some_iff.mp shared
    obtain ⟨wide, high⟩ := a_words.sized
    rw [fits_word_iff] at wide high ⊢
    rw [fits_word_iff]
    dsimp only
    omega

theorem isMeet_of_intersect {common : Option Rect} (met : a.intersect b = .ok common) :
    IsMeet a b common := by
  obtain ⟨⟨a_bounded, b_bounded⟩, shared_iff⟩ := intersect_cases met
  constructor
  · simp only [contains_eq_true_iff, a_bounded, b_bounded, true_and, shared_iff]
    constructor
    · intro some_common
      obtain ⟨r, rfl⟩ := Option.isSome_iff_exists.mp some_common
      obtain ⟨x, y, has⟩ := exists_has_of_intersect met
      exact ⟨x, y, r, rfl, has⟩
    · rintro ⟨_, _, r, rfl, _⟩
      rfl
  · rintro r rfl x y
    exists decide (a.Has x y), decide (b.Has x y)
    refine ⟨contains_eq a_bounded x y, contains_eq b_bounded x y, ?_⟩
    have r_bounded : r.Bounded := by
      obtain ⟨_, _, shared⟩ := intersect_eq_ok_iff.mp met
      exact bounded_of_overlap a_bounded b_bounded shared.symm
    rw [contains_eq r_bounded, ← Bool.decide_and]
    congr 2
    rw [eq_iff_iff, shared_iff]
    simp

/-! ## Unions -/

theorem has_hull_iff (a_full : a.isEmpty = false) (b_full : b.isEmpty = false) :
    (a.hull b).Has x y ↔
      ((a.x ≤ x ∨ b.x ≤ x) ∧ (x < a.x + a.w ∨ x < b.x + b.w)) ∧
        (a.y ≤ y ∨ b.y ≤ y) ∧ (y < a.y + a.h ∨ y < b.y + b.h) := by
  rw [hull_of_full a_full b_full, Has]
  dsimp only
  apply and_congr
  · omega
  · omega

/-- To cover a rectangle with points is to contain its first and its last one. -/
theorem Covers.corners {outer inner : Rect} (covers : outer.Covers inner)
    (bounded : inner.Bounded) (full : inner.isEmpty = false) :
    outer.Bounded ∧ outer.Has inner.x inner.y ∧
      outer.Has (inner.x + inner.w - 1) (inner.y + inner.h - 1) := by
  rw [isEmpty_eq_false_iff] at full
  have found {x y : Int} (has : inner.Has x y) : outer.Bounded ∧ outer.Has x y :=
    contains_eq_true_iff.mp (covers x y (contains_eq_true_iff.mpr ⟨bounded, has⟩))
  have first : inner.Has inner.x inner.y := by
    unfold Has
    omega
  have last : inner.Has (inner.x + inner.w - 1) (inner.y + inner.h - 1) := by
    unfold Has
    omega
  exact ⟨(found first).1, (found first).2, (found last).2⟩

/-- A rectangle that covers both contains the corners of both, and so what lies between
them. -/
theorem Joins.covers_hull {bound : Rect} (joins : a.Joins b) (covers_a : bound.Covers a)
    (covers_b : bound.Covers b) : bound.Covers (a.hull b) := by
  cases a_empty : a.isEmpty with
  | true => rwa [hull_of_isEmpty a_empty]
  | false =>
      cases b_empty : b.isEmpty with
      | true => rwa [hull_of_isEmpty_right a_empty b_empty]
      | false =>
          obtain ⟨⟨a_bounded, b_bounded⟩, _⟩ := joins a_empty b_empty
          obtain ⟨bound_bounded, a_first, a_last⟩ := covers_a.corners a_bounded a_empty
          obtain ⟨_, b_first, b_last⟩ := covers_b.corners b_bounded b_empty
          intro x y inside
          have between := (contains_eq_true_iff.mp inside).2
          rw [has_hull_iff a_empty b_empty] at between
          apply contains_eq_true_iff.mpr
          refine ⟨bound_bounded, ?_⟩
          unfold Has at *
          constructor
          · omega
          · omega

/-- The hull of words has corners if it is needed to know them. -/
theorem Joins.bounded_hull (joins : a.Joins b) (a_words : a.IsWords) (b_words : b.IsWords)
    (has : (a.Bounded ∧ a.Has x y) ∨ (b.Bounded ∧ b.Has x y)) : (a.hull b).Bounded := by
  cases a_empty : a.isEmpty with
  | true =>
      rw [hull_of_isEmpty a_empty]
      rcases has with ⟨_, a_has⟩ | ⟨b_bounded, _⟩
      · rw [isEmpty_eq_false_of_has a_has] at a_empty
        contradiction
      · exact b_bounded
  | false =>
      cases b_empty : b.isEmpty with
      | true =>
          rw [hull_of_isEmpty_right a_empty b_empty]
          rcases has with ⟨a_bounded, _⟩ | ⟨_, b_has⟩
          · exact a_bounded
          · rw [isEmpty_eq_false_of_has b_has] at b_empty
            contradiction
      | false =>
          rw [bounded_hull_iff a_words.anchored b_words.anchored a_empty b_empty]
          exact (joins a_empty b_empty).1

theorem isJoin_of_union (a_words : a.IsWords) (b_words : b.IsWords)
    (united : a.union b = .ok c) : IsJoin a b c := by
  obtain ⟨joins, rfl⟩ := union_eq_ok_iff.mp united
  constructor
  · intro x y inside
    have has := contains_eq_true_iff.mp inside
    exact contains_eq_true_iff.mpr
      ⟨joins.bounded_hull a_words b_words (.inl has), within_union_left united x y has.2⟩
  · intro x y inside
    have has := contains_eq_true_iff.mp inside
    exact contains_eq_true_iff.mpr
      ⟨joins.bounded_hull a_words b_words (.inr has), within_union_right united x y has.2⟩
  · intro bound covers_a covers_b
    exact joins.covers_hull covers_a covers_b

/-! ## Unions in any order -/

theorem foldlM_union_eq_ok_iff :
    rects.foldlM union start = .ok c ↔ JoinsAll start rects ∧ c = rects.foldl hull start := by
  induction rects generalizing start with
  | nil =>
      rw [List.foldlM_nil, JoinsAll, true_and, List.foldl_nil]
      exact ⟨fun same => (Except.ok.inj same).symm, fun same => congrArg Except.ok same.symm⟩
  | cons r rest ih =>
      rw [List.foldlM_cons, Checked.bind_eq_ok_iff, JoinsAll, and_assoc, List.foldl_cons]
      constructor
      · rintro ⟨both, united, rest_united⟩
        obtain ⟨joins, rfl⟩ := union_eq_ok_iff.mp united
        exact ⟨joins, ih.mp rest_united⟩
      · rintro ⟨joins, rest_joins⟩
        exact ⟨start.hull r, union_eq_ok_iff.mpr ⟨joins, rfl⟩, ih.mpr rest_joins⟩

theorem hull_right_comm (a_full : a.isEmpty = false) (b_full : b.isEmpty = false) (r : Rect) :
    (r.hull a).hull b = (r.hull b).hull a := by
  cases r_empty : r.isEmpty with
  | true =>
      rw [hull_of_isEmpty r_empty, hull_of_isEmpty r_empty, hull_of_full a_full b_full,
        hull_of_full b_full a_full]
      simp only [Int.min_comm, Int.max_comm]
  | false =>
      have reach (m n : Int) : m + (n - m) = n := by omega
      have least (l m n : Int) : min (min l m) n = min (min l n) m := by omega
      have greatest (l m n : Int) : max (max l m) n = max (max l n) m := by omega
      rw [hull_of_full (hull_full r_empty a_full) b_full,
        hull_of_full (hull_full r_empty b_full) a_full, hull_of_full r_empty a_full,
        hull_of_full r_empty b_full]
      simp only [reach]
      rw [least r.x, least r.y, greatest (r.x + r.w), greatest (r.y + r.h)]

theorem shaping_of_all_full (some_rect : rects ≠ []) (all_full : ∀ r ∈ rects, r.isEmpty = false) :
    shaping rects = rects := by
  have filled_eq : filled rects = rects :=
    List.filter_eq_self.mpr fun r mem => by simp [all_full r mem]
  rw [shaping, filled_eq, if_neg some_rect]

/-- Which rectangles with points can be united is told without regard to their order. -/
theorem joinsAll_iff_of_all_full (all_words : ∀ r ∈ first :: rest, r.IsWords)
    (all_full : ∀ r ∈ first :: rest, r.isEmpty = false) :
    JoinsAll first rest ↔
      (2 ≤ (first :: rest).length → ∀ r ∈ first :: rest, r.Bounded) ∧
        ∀ a ∈ first :: rest, ∀ b ∈ first :: rest, a.Spans b := by
  have from_nothing : JoinsAll nothing (first :: rest) ↔ JoinsAll first rest := by
    rw [JoinsAll, hull_of_isEmpty rfl, and_iff_right (joins_of_isEmpty rfl first)]
  rw [← from_nothing, joinsAll_iff rfl (fun r mem => (all_words r mem).anchored)
    (fun r mem => (all_words r mem).spans), shaping_of_all_full (List.cons_ne_nil _ _) all_full]

theorem foldl_hull_perm (reordered : (first :: rest).Perm (second :: others))
    (all_full : ∀ r ∈ first :: rest, r.isEmpty = false) :
    rest.foldl hull first = others.foldl hull second := by
  have from_nothing (r : Rect) (rects : List Rect) :
      (r :: rects).foldl hull nothing = rects.foldl hull r := by
    rw [List.foldl_cons, hull_of_isEmpty rfl]
  rw [← from_nothing, ← from_nothing]
  apply reordered.foldl_eq'
  intro a a_mem b b_mem r
  exact hull_right_comm (all_full a a_mem) (all_full b b_mem) r

theorem foldlM_union_perm (reordered : (first :: rest).Perm (second :: others))
    (all_words : ∀ r ∈ first :: rest, r.IsWords)
    (all_full : ∀ r ∈ first :: rest, r.isEmpty = false) :
    rest.foldlM union first = .ok c ↔ others.foldlM union second = .ok c := by
  have others_words : ∀ r ∈ second :: others, r.IsWords := fun r mem =>
    all_words r (reordered.mem_iff.mpr mem)
  have others_full : ∀ r ∈ second :: others, r.isEmpty = false := fun r mem =>
    all_full r (reordered.mem_iff.mpr mem)
  rw [foldlM_union_eq_ok_iff, foldlM_union_eq_ok_iff, foldl_hull_perm reordered all_full,
    joinsAll_iff_of_all_full all_words all_full,
    joinsAll_iff_of_all_full others_words others_full, reordered.length_eq]
  simp only [reordered.mem_iff]

/-! ## The lattice -/

/-- Rectangles of words have an intersection exactly if their corners can be computed, and
it is what they have in common.  They have a union exactly if the numbers of their hull
can be computed, and it is the least rectangle that covers both.  Rectangles with points
are united to the same one in every order, if they can be united in any. -/
theorem meets_and_joins (a_words : a.IsWords) (b_words : b.IsWords)
    (reordered : (first :: rest).Perm (second :: others))
    (all_words : ∀ r ∈ first :: rest, r.IsWords)
    (all_full : ∀ r ∈ first :: rest, r.isEmpty = false) :
    ((∃ common, a.intersect b = .ok common) ↔ a.Bounded ∧ b.Bounded) ∧
      (∀ common, a.intersect b = .ok common → IsMeet a b common) ∧
      ((∃ c, a.union b = .ok c) ↔ a.Joins b) ∧
      (∀ c, a.union b = .ok c → IsJoin a b c) ∧
      ∀ c, rest.foldlM union first = .ok c ↔ others.foldlM union second = .ok c := by
  refine ⟨?_, ?_, ?_, ?_, ?_⟩
  · exact exists_intersect_iff_bounded a_words b
  · intro common met
    exact isMeet_of_intersect met
  · simp only [union_eq_ok_iff, exists_and_left, exists_eq, and_true]
  · intro c united
    exact isJoin_of_union a_words b_words united
  · intro c
    exact foldlM_union_perm reordered all_words all_full

/-- A rectangle around the origin. -/
def rug : Rect :=
  ⟨-3, -2, 5, 4⟩

/-- A rectangle that stands on a corner of the rug. -/
def table : Rect :=
  ⟨1, 0, 4, 6⟩

/-- A rectangle beside both. -/
def lampshade : Rect :=
  ⟨9, -7, 1, 2⟩

theorem furniture_isWords : ∀ r ∈ [rug, table, lampshade], r.IsWords := by
  simp only [List.forall_mem_cons, List.not_mem_nil, false_implies, implies_true, and_true]
  exact ⟨⟨by decide, by decide⟩, ⟨by decide, by decide⟩, ⟨by decide, by decide⟩⟩

theorem furniture_meets_and_joins :
    (rug.IsWords ∧ table.IsWords) ∧
      [rug, table, lampshade].Perm [lampshade, rug, table] ∧
      (∀ r ∈ [rug, table, lampshade], r.isEmpty = false) ∧
      (rug.intersect table = .ok (some ⟨1, 0, 1, 2⟩) ∧ IsMeet rug table (some ⟨1, 0, 1, 2⟩)) ∧
      (rug.union table = .ok ⟨-3, -2, 8, 8⟩ ∧ IsJoin rug table ⟨-3, -2, 8, 8⟩) ∧
      [table, lampshade].foldlM union rug = .ok ⟨-3, -7, 13, 13⟩ ∧
      [rug, table].foldlM union lampshade = .ok ⟨-3, -7, 13, 13⟩ := by
  have rug_words : rug.IsWords := furniture_isWords rug (by simp)
  have table_words : table.IsWords := furniture_isWords table (by simp)
  have reordered : [rug, table, lampshade].Perm [lampshade, rug, table] := by decide
  have all_full : ∀ r ∈ [rug, table, lampshade], r.isEmpty = false := by decide
  have met : rug.intersect table = .ok (some ⟨1, 0, 1, 2⟩) := by rfl
  have united : rug.union table = .ok ⟨-3, -2, 8, 8⟩ := by rfl
  have all_united : [table, lampshade].foldlM union rug = .ok ⟨-3, -7, 13, 13⟩ := by rfl
  obtain ⟨_, meets, _, joins, order_free⟩ :=
    meets_and_joins rug_words table_words reordered furniture_isWords all_full
  exact ⟨⟨rug_words, table_words⟩, reordered, all_full, ⟨met, meets _ met⟩,
    ⟨united, joins _ united⟩, all_united, (order_free _).mp all_united⟩

end Rotation.Rect
