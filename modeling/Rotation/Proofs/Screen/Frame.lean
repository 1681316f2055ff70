import Mathlib.Algebra.Ring.Nat
import Mathlib.Data.List.Sort
import Rotation.Proofs.Screen.Rect
import Rotation.Proofs.Word.Traversal
import Rotation.Screen.Frame

/-!
# What frames show

The mean colour around a coordinate is that of the pixels of a square, and the
part of the square that a frame visits has all the pixels of it.  So two frames
that show the same picture have the same mean wherever neither lacks a pixel of
the square that the other has.
-/

namespace Rotation

/-- The floor of the mean of a channel. -/
def Color.meanOf (channel : Color → UInt8) (colors : List Color) : UInt8 :=
  UInt8.ofNat ((colors.map fun c => (channel c).toNat).sum / colors.length)

/-- The colour each of whose channels is the floor of its mean. -/
def Color.mean (colors : List Color) : Color where
  red := meanOf Color.red colors
  green := meanOf Color.green colors
  blue := meanOf Color.blue colors

theorem Signed.wrap_of_lt {n : Nat} (small : n < 2 ^ 31) : Signed.wrap 32 n = n := by
  have count_eq : Unsigned.count 32 = 4294967296 := by rfl
  rw [Signed.wrap, count_eq, Int.bmod]
  omega

namespace Frame

/-! ## Intervals -/

theorem mem_interval {lo hi z : Int} : z ∈ interval lo hi ↔ lo ≤ z ∧ z ≤ hi := by
  simp only [interval, List.mem_map, List.mem_range]
  constructor
  · rintro ⟨k, _, rfl⟩
    omega
  · rintro ⟨_, _⟩
    exact ⟨(z - lo).toNat, by omega, by omega⟩

theorem pairwise_interval (lo hi : Int) : (interval lo hi).Pairwise (· < ·) := by
  rw [interval, List.pairwise_map]
  apply List.pairwise_lt_range.imp
  omega

theorem filter_interval (lo hi first last : Int) :
    (interval lo hi).filter (fun z => first ≤ z ∧ z ≤ last) =
      interval (max lo first) (min hi last) := by
  apply ((pairwise_interval lo hi).filter _).eq_of_mem_iff (pairwise_interval _ _)
  intro z
  simp only [List.mem_filter, mem_interval, decide_eq_true_eq]
  omega

/-- What contributes nothing outside of some bounds can be visited between them
alone. -/
theorem flatMap_interval {α : Type} {g : Int → List α} {first last lo hi : Int}
    (outside : ∀ z ∈ interval lo hi, ¬(first ≤ z ∧ z ≤ last) → g z = []) :
    (interval (max lo first) (min hi last)).flatMap g = (interval lo hi).flatMap g := by
  rw [← filter_interval]
  generalize interval lo hi = zs at outside ⊢
  induction zs with
  | nil => rfl
  | cons z rest ih =>
      obtain ⟨z_outside, rest_outside⟩ := List.forall_mem_cons.mp outside
      by_cases inside : first ≤ z ∧ z ≤ last
      · rw [List.filter_cons_of_pos (by simpa using inside), List.flatMap_cons,
          List.flatMap_cons, ih rest_outside]
      · rw [List.filter_cons_of_neg (by simpa using inside), List.flatMap_cons, ih rest_outside,
          z_outside inside, List.nil_append]

/-! ## Pixels -/

/-- What the frame has at each coordinate; no coordinate is at fault. -/
def Sees (f : Frame) (see : Int → Int → Option Color) : Prop :=
  ∀ x y, f.pixel x y = .ok (see x y)

variable {f : Frame} {see : Int → Int → Option Color} {x y : Int}

/-- A coordinate with a place in the data is in the declared size, and its place is a word
with all bytes of the pixel behind it. -/
theorem index_eq_some {i : Nat} (found : f.index x y = .ok (some i)) :
    f.origin.Has x y ∧ (x - f.origin.x).toNat < f.width ∧ (y - f.origin.y).toNat < f.height ∧
      Unsigned.Fits 32 i ∧ i + 3 < f.data.size ∧
      i = (y - f.origin.y).toNat * f.bytesPerRow + (x - f.origin.x).toNat * 4 := by
  unfold index at found
  obtain ⟨inside, contains_eq, found⟩ := Checked.bind_eq_ok_iff.mp found
  cases inside with
  | false => cases found
  | true =>
      have has := (Rect.has_of_contains contains_eq).2
      dsimp only at found
      split at found
      · cases found
      · split at found
        · cases found
        · rename_i small
          simp only [Bool.or_eq_true, decide_eq_true_eq, not_or, Nat.not_le] at small
          simp only [Checked.bind_eq_ok_iff, Unsigned.mul_eq_ok_iff, Unsigned.add_eq_ok_iff]
            at found
          obtain ⟨_, ⟨_, rfl⟩, _, ⟨_, rfl⟩, _, ⟨fits, rfl⟩, found⟩ := found
          split at found
          · cases found
          · rename_i inside
            cases found
            exact ⟨has, small.1, small.2, fits, Nat.lt_of_not_le inside, rfl⟩

theorem exists_index_of_pixel {c : Color} (there : f.pixel x y = .ok (some c)) :
    ∃ i, f.index x y = .ok (some i) := by
  obtain ⟨found, index_eq, there⟩ := Checked.bind_eq_ok_iff.mp there
  cases found with
  | none => cases there
  | some i => exact ⟨i, index_eq⟩

/-- A coordinate with a pixel is in the declared size. -/
theorem inside_of_pixel {c : Color} (there : f.pixel x y = .ok (some c)) :
    (f.origin.x ≤ x ∧ x ≤ f.origin.x + f.width - 1) ∧
      f.origin.y ≤ y ∧ y ≤ f.origin.y + f.height - 1 := by
  obtain ⟨i, found⟩ := exists_index_of_pixel there
  obtain ⟨has, in_columns, in_rows, _⟩ := index_eq_some found
  unfold Rect.Has at has
  omega

/-- The colours at the coordinates of a row or a column that have one. -/
theorem colorsOn_of_seen (columns rows : List Int)
    (seen : ∀ y ∈ rows, ∀ x ∈ columns, f.pixel x y = .ok (see x y)) :
    f.colorsOn columns rows =
      .ok (rows.flatMap fun y => columns.filterMap fun x => see x y) := by
  have rows_eq := Checked.mapM_eq_map fun y mem => Checked.filterMapM_eq_filterMap (seen y mem)
  rw [colorsOn, rows_eq, List.flatMap_def]
  rfl

/-! ## Means -/

theorem channelMean_eq {channel : Color → UInt8} {colors : List Color} (some_color : colors ≠ []) :
    channelMean channel colors = .ok (Color.meanOf channel colors) := by
  have sum_eq : colors.foldl (fun n c => n + (channel c).toNat) 0 =
      (colors.map fun c => (channel c).toNat).sum := by
    rw [List.sum_eq_foldl, List.foldl_map]
  rw [channelMean, Color.meanOf, if_neg (by simpa using some_color), sum_eq]

/-- The square of `2 * radius + 1` coordinates a side around one, row by row. -/
def square (x y : Int) (radius : Nat) : List (Int × Int) :=
  (interval (y - radius) (y + radius)).flatMap fun row =>
    (interval (x - radius) (x + radius)).map fun column => (column, row)

/-- The corners of the square can be computed. -/
structure FitsSquare (x y : Int) (radius : Nat) : Prop where
  small : radius < 2 ^ 31
  left : Signed.Fits 32 (x - radius)
  right : Signed.Fits 32 (x + radius)
  top : Signed.Fits 32 (y - radius)
  bottom : Signed.Fits 32 (y + radius)

theorem mem_square {radius : Nat} {place : Int × Int} :
    place ∈ square x y radius ↔
      (x - radius ≤ place.1 ∧ place.1 ≤ x + radius) ∧
        y - radius ≤ place.2 ∧ place.2 ≤ y + radius := by
  simp only [square, List.mem_flatMap, List.mem_map, mem_interval]
  constructor
  · rintro ⟨row, in_rows, column, in_columns, rfl⟩
    exact ⟨in_columns, in_rows⟩
  · rintro ⟨in_columns, in_rows⟩
    exact ⟨place.2, in_rows, place.1, in_columns, rfl⟩

/-- The part of the square in the declared size has all of its pixels. -/
theorem visited_eq {radius : Nat}
    (seen : ∀ place ∈ square x y radius, f.pixel place.1 place.2 = .ok (see place.1 place.2)) :
    ((interval (max (y - radius) f.origin.y) (min (y + radius) (f.origin.y + f.height - 1))).flatMap
        fun row =>
          (interval (max (x - radius) f.origin.x)
            (min (x + radius) (f.origin.x + f.width - 1))).filterMap fun column => see column row) =
      (square x y radius).filterMap fun place => see place.1 place.2 := by
  -- Outside the declared size nothing is seen: first along a row, then in whole rows.
  have inside (row column : Int) (in_rows : row ∈ interval (y - radius) (y + radius))
      (in_columns : column ∈ interval (x - radius) (x + radius)) (c : Color)
      (there : see column row = some c) :=
    inside_of_pixel ((seen (column, row)
      (mem_square.mpr ⟨mem_interval.mp in_columns, mem_interval.mp in_rows⟩)).trans
        (congrArg Except.ok there))
  have row_eq (row : Int) (in_rows : row ∈ interval (y - radius) (y + radius)) :
      ((interval (max (x - radius) f.origin.x)
        (min (x + radius) (f.origin.x + f.width - 1))).filterMap fun column => see column row) =
      (interval (x - radius) (x + radius)).filterMap fun column => see column row := by
    rw [List.filterMap_eq_flatMap_toList, List.filterMap_eq_flatMap_toList]
    apply flatMap_interval
    intro column in_columns outside
    cases there : see column row with
    | none => rfl
    | some c => exact absurd (inside row column in_rows in_columns c there).1 outside
  have rows_eq := List.flatMap_congr fun row
      (mem : row ∈ interval (max (y - radius) f.origin.y)
        (min (y + radius) (f.origin.y + f.height - 1))) =>
    row_eq row (mem_interval.mpr (by rw [mem_interval] at mem; omega))
  rw [rows_eq]
  simp only [square, List.filterMap_flatMap, List.filterMap_map, Function.comp_def]
  apply flatMap_interval
  intro row in_rows outside
  rw [List.filterMap_eq_nil_iff]
  intro column in_columns
  cases there : see column row with
  | none => rfl
  | some c => exact absurd (inside row column in_rows in_columns c there).2 outside

/-- The mean colour is that of all pixels of the square. -/
theorem average_of_seen {radius : Nat} (fits : FitsSquare x y radius)
    (seen : ∀ place ∈ square x y radius, f.pixel place.1 place.2 = .ok (see place.1 place.2)) :
    f.average x y radius = .ok ((see x y).map fun _ =>
      Color.mean ((square x y radius).filterMap fun place => see place.1 place.2)) := by
  have centred : (x, y) ∈ square x y radius := mem_square.mpr ⟨by omega, by omega⟩
  unfold average
  rw [seen (x, y) centred, Checked.ok_bind]
  cases centre : see x y with
  | none => rfl
  | some c =>
      have left_eq := Signed.sub_eq_ok_iff.mpr ⟨fits.left, rfl⟩
      have right_eq := Signed.add_eq_ok_iff.mpr ⟨fits.right, rfl⟩
      have top_eq := Signed.sub_eq_ok_iff.mpr ⟨fits.top, rfl⟩
      have bottom_eq := Signed.add_eq_ok_iff.mpr ⟨fits.bottom, rfl⟩
      have some_color : (square x y radius).filterMap (fun place => see place.1 place.2) ≠ [] :=
        List.ne_nil_of_mem (List.mem_filterMap.mpr ⟨(x, y), centred, centre⟩)
      have colors_eq := colorsOn_of_seen
        (interval (max (x - radius) f.origin.x) (min (x + radius) (f.origin.x + f.width - 1)))
        (interval (max (y - radius) f.origin.y) (min (y + radius) (f.origin.y + f.height - 1)))
        fun row in_rows column in_columns => seen (column, row) (mem_square.mpr (by
          rw [mem_interval] at in_rows in_columns
          omega))
      rw [visited_eq seen] at colors_eq
      simp only [Option.isNone_some, Bool.false_eq_true, if_false, Signed.wrap_of_lt fits.small,
        left_eq, right_eq, top_eq, bottom_eq, Checked.ok_bind, colors_eq,
        channelMean_eq some_color]
      rw [if_neg (by omega)]
      rfl

/-! ## Pictures -/

/-- What there is of a picture in a rectangle. -/
def view (r : Rect) (picture : Int → Int → Color) (x y : Int) : Option Color :=
  if r.Has x y then some (picture x y) else none

/-- The frame covers a rectangle and has there the colours of a picture. -/
def Shows (f : Frame) (r : Rect) (picture : Int → Int → Color) : Prop :=
  f.origin = r ∧ f.Sees (view r picture)

theorem average_of_shows {r : Rect} {picture : Int → Int → Color} {radius : Nat}
    (shows_picture : f.Shows r picture) (fits : FitsSquare x y radius) (centred : r.Has x y) :
    f.average x y radius = .ok (some (Color.mean
      ((square x y radius).filterMap fun place => view r picture place.1 place.2))) := by
  rw [average_of_seen fits fun place _ => shows_picture.2 place.1 place.2]
  simp only [view, if_pos centred, Option.map_some]

/-- Two frames of one picture have the same mean, if one is a part of the other
that lacks nothing of the square. -/
theorem average_eq_of_shows {part whole : Frame} {inner outer : Rect}
    {picture : Int → Int → Color} {radius : Nat} (part_shows : part.Shows inner picture)
    (whole_shows : whole.Shows outer picture) (fits : FitsSquare x y radius)
    (inside : inner.Within outer)
    (covered : ∀ place ∈ square x y radius, outer.Has place.1 place.2 →
      inner.Has place.1 place.2) (centred : outer.Has x y) :
    ∃ c, part.average x y radius = .ok (some c) ∧ whole.average x y radius = .ok (some c) := by
  have in_square : (x, y) ∈ square x y radius := mem_square.mpr ⟨by omega, by omega⟩
  have same_view : ((square x y radius).filterMap fun place => view inner picture place.1 place.2) =
      (square x y radius).filterMap fun place => view outer picture place.1 place.2 := by
    apply List.filterMap_congr
    intro place in_square
    have has_iff : inner.Has place.1 place.2 ↔ outer.Has place.1 place.2 :=
      ⟨inside place.1 place.2, covered place in_square⟩
    simp only [view, has_iff]
  refine ⟨_, average_of_shows part_shows fits (covered (x, y) in_square centred), ?_⟩
  rw [same_view]
  exact average_of_shows whole_shows fits centred

/-- A frame of a picture without padding. -/
def paint (r : Rect) (picture : Int → Int → Color) : Frame where
  origin := r
  width := r.w.toNat
  height := r.h.toNat
  bytesPerRow := r.w.toNat * 4
  data := Array.ofFn fun i : Fin (r.h.toNat * r.w.toNat * 4) =>
    let pixel := i.val / 4
    channelByte (picture (r.x + (pixel % r.w.toNat : Nat)) (r.y + (pixel / r.w.toNat : Nat)))
      (i.val % 4)

theorem pixel_lt {w h column row : Nat} (in_columns : column < w) (in_rows : row < h) :
    row * w + column < h * w := by
  have rows_fit : (row + 1) * w ≤ h * w := Nat.mul_le_mul_right w in_rows
  rw [Nat.succ_mul] at rows_fit
  omega

theorem getD_data_paint {r : Rect} {picture : Int → Int → Color} {column row channel : Nat}
    (in_columns : column < r.w.toNat) (in_rows : row < r.h.toNat) (is_channel : channel < 4) :
    (paint r picture).data.getD ((row * r.w.toNat + column) * 4 + channel) 0 =
      channelByte (picture (r.x + column) (r.y + row)) channel := by
  have pixel_inside := pixel_lt in_columns in_rows
  have pixel_eq : ((row * r.w.toNat + column) * 4 + channel) / 4 = row * r.w.toNat + column := by
    omega
  have channel_eq : ((row * r.w.toNat + column) * 4 + channel) % 4 = channel := by omega
  have column_eq : (row * r.w.toNat + column) % r.w.toNat = column := by
    rw [Nat.mul_add_mod', Nat.mod_eq_of_lt in_columns]
  have row_eq : (row * r.w.toNat + column) / r.w.toNat = row := by
    rw [Nat.mul_comm, Nat.mul_add_div (by omega), Nat.div_eq_of_lt in_columns, Nat.add_zero]
  rw [paint, Array.getD_eq_getD_getElem?, Array.getElem?_ofFn, dif_pos (by omega)]
  simp only [pixel_eq, channel_eq, column_eq, row_eq, Option.getD_some]

theorem index_paint {r : Rect} {picture : Int → Int → Color} {column row : Nat}
    (bounded : r.Bounded) (fits : Unsigned.Fits 32 (r.h.toNat * r.w.toNat * 4))
    (in_columns : column < r.w.toNat) (in_rows : row < r.h.toNat) :
    (paint r picture).index (r.x + column) (r.y + row) =
      .ok (some ((row * r.w.toNat + column) * 4)) := by
  have pixel_inside := pixel_lt in_columns in_rows
  have start_eq : row * (r.w.toNat * 4) + column * 4 = (row * r.w.toNat + column) * 4 := by
    rw [Nat.add_mul, Nat.mul_assoc]
  have has : r.Has (r.x + column) (r.y + row) := by
    unfold Rect.Has
    omega
  have contains_eq := Rect.contains_eq bounded (r.x + column) (r.y + row)
  have column_eq : (r.x + column - r.x).toNat = column := by omega
  have row_eq : (r.y + row - r.y).toNat = row := by omega
  unfold Unsigned.Fits at fits
  have row_start : Unsigned.mul 32 row (r.w.toNat * 4) = .ok (row * (r.w.toNat * 4)) :=
    Unsigned.mul_eq_ok_iff.mpr ⟨by omega, rfl⟩
  have in_row : Unsigned.mul 32 column 4 = .ok (column * 4) :=
    Unsigned.mul_eq_ok_iff.mpr ⟨by omega, rfl⟩
  have start : Unsigned.add 32 (row * (r.w.toNat * 4)) (column * 4) =
      .ok ((row * r.w.toNat + column) * 4) :=
    Unsigned.add_eq_ok_iff.mpr ⟨by omega, start_eq.symm⟩
  unfold index paint
  simp only [contains_eq, has, decide_true, Bool.not_true, Bool.false_eq_true, if_false, column_eq,
    row_eq, Nat.not_le.mpr in_columns, Nat.not_le.mpr in_rows, decide_false, Bool.or_false,
    row_start, in_row, start, Checked.ok_bind, Array.size_ofFn]
  rw [if_neg (by omega)]
  rfl

/-- Every picture can be shown on a rectangle whose bytes can be counted. -/
theorem shows_paint {r : Rect} (bounded : r.Bounded)
    (fits : Unsigned.Fits 32 (r.h.toNat * r.w.toNat * 4)) (picture : Int → Int → Color) :
    (paint r picture).Shows r picture := by
  refine ⟨rfl, ?_⟩
  intro x y
  unfold pixel view
  by_cases has : r.Has x y
  · obtain ⟨column, row, in_columns, in_rows, rfl, rfl⟩ : ∃ column row : Nat,
        column < r.w.toNat ∧ row < r.h.toNat ∧ x = r.x + column ∧ y = r.y + row := by
      unfold Rect.Has at has
      exact ⟨(x - r.x).toNat, (y - r.y).toNat, by omega, by omega, by omega, by omega⟩
    have first_byte : (paint r picture).data.getD ((row * r.w.toNat + column) * 4) 0 =
        channelByte (picture (r.x + column) (r.y + row)) 0 :=
      getD_data_paint in_columns in_rows (Nat.succ_pos 3)
    rw [index_paint bounded fits in_columns in_rows, Checked.ok_bind, if_pos has]
    dsimp only
    rw [getD_data_paint in_columns in_rows (by decide),
      getD_data_paint in_columns in_rows (by decide), first_byte]
    rfl
  · have contains_eq := Rect.contains_eq bounded x y
    have origin_eq : (paint r picture).origin = r := rfl
    rw [decide_eq_false has] at contains_eq
    rw [index, origin_eq, contains_eq, if_neg has]
    rfl

end Frame

end Rotation
