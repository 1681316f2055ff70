import Rotation.Proofs.Screen.Frame
import Rotation.Proofs.Word.Traversal

/-!
# When a frame has a mean

A coordinate that is in a frame has a place in its data, counted in a word; what is
looked up is a colour or nothing, unless the place cannot be counted.  So a mean fails if
a pixel of the square has no such place, or if the square is empty although its centre
has a colour, because the radius is negative as a signed word.
-/

namespace Rotation.Frame

variable {f : Frame} {x y : Int} {radius : Nat} {columns rows : List Int} {colors : List Color}
  {c : Color}

/-- The coordinate is in the rectangle of the frame and in its declared size. -/
def Reaches (f : Frame) (x y : Int) : Prop :=
  f.origin.Has x y ∧ x - f.origin.x < f.width ∧ y - f.origin.y < f.height

instance (f : Frame) (x y : Int) : Decidable (f.Reaches x y) :=
  inferInstanceAs (Decidable (_ ∧ _))

/-- The place of a coordinate in the data, be it a word or not. -/
def offset (f : Frame) (x y : Int) : Nat :=
  (y - f.origin.y).toNat * f.bytesPerRow + (x - f.origin.x).toNat * 4

/-- The place of a coordinate can be counted, if it has one. -/
def Addresses (f : Frame) (x y : Int) : Prop :=
  f.Reaches x y → Unsigned.Fits 32 (f.offset x y)

/-- The coordinate has a colour. -/
def HasPixel (f : Frame) (x y : Int) : Prop :=
  f.Reaches x y ∧ f.offset x y + 3 < f.data.size

/-- The mean around a coordinate exists, or there is none because the centre has no
colour. -/
def Averages (f : Frame) (x y : Int) (radius : Nat) : Prop :=
  f.Addresses x y ∧ (f.HasPixel x y →
    radius < 2 ^ 31 ∧ ∀ place ∈ square x y radius, f.Addresses place.1 place.2)

instance (f : Frame) (x y : Int) : Decidable (f.Addresses x y) :=
  inferInstanceAs (Decidable (_ → _))

instance (f : Frame) (x y : Int) : Decidable (f.HasPixel x y) :=
  inferInstanceAs (Decidable (_ ∧ _))

instance (f : Frame) (x y : Int) (radius : Nat) : Decidable (f.Averages x y radius) :=
  inferInstanceAs (Decidable (_ ∧ _))

/-! ## Pixels -/

theorem index_of_not_reaches (bounded : f.origin.Bounded) (outside : ¬f.Reaches x y) :
    f.index x y = .ok none := by
  rw [index, Rect.contains_eq bounded, Checked.ok_bind]
  by_cases has : f.origin.Has x y
  · have beyond : f.width ≤ (x - f.origin.x).toNat ∨ f.height ≤ (y - f.origin.y).toNat := by
      unfold Reaches Rect.Has at *
      omega
    simp only [has, decide_true, Bool.not_true, Bool.false_eq_true, if_false]
    rw [if_pos (by simpa using beyond)]
    rfl
  · rw [if_pos (by simpa using has)]
    rfl

theorem index_of_reaches (bounded : f.origin.Bounded) (inside : f.Reaches x y) :
    f.index x y = do
      let start ← Unsigned.add 32
        (← Unsigned.mul 32 (y - f.origin.y).toNat f.bytesPerRow)
        (← Unsigned.mul 32 (x - f.origin.x).toNat 4)
      return if f.data.size ≤ start + 3 then none else some start := by
  obtain ⟨has, in_columns, in_rows⟩ := inside
  have within : ¬(f.width ≤ (x - f.origin.x).toNat ∨ f.height ≤ (y - f.origin.y).toNat) := by
    unfold Rect.Has at has
    omega
  rw [index, Rect.contains_eq bounded, Checked.ok_bind]
  simp only [has, decide_true, Bool.not_true, Bool.false_eq_true, if_false]
  rw [if_neg (by simpa using within)]

/-- The place of a coordinate is found if it can be counted. -/
theorem index_eq_ok_iff (bounded : f.origin.Bounded) (inside : f.Reaches x y)
    {found : Option Nat} :
    f.index x y = .ok found ↔ Unsigned.Fits 32 (f.offset x y) ∧
      found = if f.data.size ≤ f.offset x y + 3 then none else some (f.offset x y) := by
  rw [index_of_reaches bounded inside]
  simp only [Checked.bind_eq_ok_iff, Unsigned.mul_eq_ok_iff, Unsigned.add_eq_ok_iff]
  unfold Unsigned.Fits offset
  constructor
  · rintro ⟨_, ⟨_, rfl⟩, _, ⟨_, rfl⟩, _, ⟨fits, rfl⟩, ⟨⟩⟩
    exact ⟨fits, rfl⟩
  · rintro ⟨fits, rfl⟩
    exact ⟨_, ⟨by omega, rfl⟩, _, ⟨by omega, rfl⟩, _, ⟨fits, rfl⟩, rfl⟩

/-- A coordinate can be looked up if its place can be counted. -/
theorem exists_pixel_iff (bounded : f.origin.Bounded) (x y : Int) :
    (∃ found, f.pixel x y = .ok found) ↔ f.Addresses x y := by
  have pixel_iff : (∃ found, f.pixel x y = .ok found) ↔ ∃ found, f.index x y = .ok found := by
    unfold pixel
    rcases f.index x y with fault | _ | start
    · exact ⟨nofun, nofun⟩
    · exact ⟨fun _ => ⟨_, rfl⟩, fun _ => ⟨_, rfl⟩⟩
    · exact ⟨fun _ => ⟨_, rfl⟩, fun _ => ⟨_, rfl⟩⟩
  rw [pixel_iff, Addresses]
  by_cases inside : f.Reaches x y
  · simp only [index_eq_ok_iff bounded inside, inside, true_imp_iff]
    exact ⟨fun ⟨_, fits, _⟩ => fits, fun fits => ⟨_, fits, rfl⟩⟩
  · simp only [index_of_not_reaches bounded inside, inside, false_imp_iff, iff_true]
    exact ⟨none, rfl⟩

theorem isSome_of_pixel (bounded : f.origin.Bounded) {found : Option Color}
    (looked : f.pixel x y = .ok found) : found.isSome = true ↔ f.HasPixel x y := by
  obtain ⟨start, index_eq, looked⟩ := Checked.bind_eq_ok_iff.mp looked
  have same : found.isSome = start.isSome := by
    cases start <;> cases looked <;> rfl
  rw [same, HasPixel]
  by_cases inside : f.Reaches x y
  · obtain ⟨_, rfl⟩ := (index_eq_ok_iff bounded inside).mp index_eq
    rw [and_iff_right inside]
    by_cases beyond : f.data.size ≤ f.offset x y + 3
    · simp [beyond]
    · simp [beyond, Nat.lt_of_not_le beyond]
  · cases (index_of_not_reaches bounded inside).symm.trans index_eq
    simp [inside]

/-- If no row of the data overlaps the next one, neither do the bytes of different
coordinates. -/
theorem index_apart (apart : 4 * f.width ≤ f.bytesPerRow) (place other : Int × Int)
    {i j : Nat} (found : f.index place.1 place.2 = .ok (some i))
    (other_found : f.index other.1 other.2 = .ok (some j)) (differs : place ≠ other) :
    i + 4 ≤ j ∨ j + 4 ≤ i := by
  obtain ⟨has, in_columns, _, _, _, place_eq⟩ := index_eq_some found
  obtain ⟨other_has, other_in_columns, _, _, _, other_eq⟩ := index_eq_some other_found
  -- A row that begins before another one ends before that one begins.
  have ends_before {row later : Nat} (before : row < later) :
      row * f.bytesPerRow + f.bytesPerRow ≤ later * f.bytesPerRow := by
    rw [← Nat.succ_mul]
    exact Nat.mul_le_mul_right _ before
  rcases Nat.lt_trichotomy (place.2 - f.origin.y).toNat (other.2 - f.origin.y).toNat with
    above | same_row | below
  · have row_ends := ends_before above
    omega
  · have columns_differ : (place.1 - f.origin.x).toNat ≠ (other.1 - f.origin.x).toNat := by
      intro same_column
      unfold Rect.Has at has other_has
      exact differs (Prod.ext (by omega) (by omega))
    rw [same_row] at place_eq
    omega
  · have row_ends := ends_before below
    omega

/-! ## Squares -/

/-- The colours at some coordinates are found if each can be looked up. -/
theorem exists_colorsOn_iff (bounded : f.origin.Bounded) :
    (∃ colors, f.colorsOn columns rows = .ok colors) ↔
      ∀ y ∈ rows, ∀ x ∈ columns, f.Addresses x y := by
  have rows_iff : (∃ colors, f.colorsOn columns rows = .ok colors) ↔
      ∃ found, rows.mapM (fun y => columns.filterMapM fun x => f.pixel x y) = .ok found := by
    unfold colorsOn
    constructor
    · rintro ⟨colors, done⟩
      obtain ⟨found, rows_eq, _⟩ := Checked.bind_eq_ok_iff.mp done
      exact ⟨found, rows_eq⟩
    · rintro ⟨found, rows_eq⟩
      rw [rows_eq]
      exact ⟨_, rfl⟩
  simp only [rows_iff, Checked.exists_mapM_iff, Checked.exists_filterMapM_iff,
    exists_pixel_iff bounded]

theorem mem_of_colorsOn (done : f.colorsOn columns rows = .ok colors) (in_columns : x ∈ columns)
    (in_rows : y ∈ rows) (looked : f.pixel x y = .ok (some c)) : c ∈ colors := by
  obtain ⟨found, rows_eq, same⟩ := Checked.bind_eq_ok_iff.mp done
  cases same
  obtain ⟨row, row_mem, row_eq⟩ := (Checked.mapM_eq_ok rows_eq).1 y in_rows
  exact List.mem_flatten.mpr ⟨row, row_mem, Checked.mem_of_filterMapM row_eq in_columns looked⟩

theorem wrap_neg {n : Nat} (large : 2 ^ 31 ≤ n) (word : n < 2 ^ 32) : Signed.wrap 32 n < 0 := by
  have count_eq : Unsigned.count 32 = 4294967296 := by rfl
  rw [Signed.wrap, count_eq, Int.bmod]
  omega

/-- An empty square has no mean, even if its centre has a colour. -/
theorem average_ne_ok_of_large (large : 2 ^ 31 ≤ radius) (word : radius < 2 ^ 32)
    (centre : f.pixel x y = .ok (some c)) (mean : Option Color) :
    f.average x y radius ≠ .ok mean := by
  intro done
  have negative := wrap_neg large word
  unfold average at done
  rw [centre, Checked.ok_bind] at done
  simp only [Option.isNone_some, Bool.false_eq_true, if_false, Checked.bind_eq_ok_iff,
    Signed.sub_eq_ok_iff, Signed.add_eq_ok_iff] at done
  obtain ⟨_, ⟨_, rfl⟩, _, ⟨_, rfl⟩, done⟩ := done
  rw [if_pos (by omega)] at done
  cases done

/-- The columns of the square in the declared size. -/
def columnsIn (f : Frame) (x : Int) (radius : Nat) : List Int :=
  interval (max (x - radius) f.origin.x) (min (x + radius) (f.origin.x + f.width - 1))

/-- The rows of the square in the declared size. -/
def rowsIn (f : Frame) (y : Int) (radius : Nat) : List Int :=
  interval (max (y - radius) f.origin.y) (min (y + radius) (f.origin.y + f.height - 1))

/-- All places that the square has in the frame are visited, and only such. -/
theorem addresses_iff_visited :
    (∀ row ∈ f.rowsIn y radius, ∀ column ∈ f.columnsIn x radius, f.Addresses column row) ↔
      ∀ place ∈ square x y radius, f.Addresses place.1 place.2 := by
  constructor
  · intro visited place mem reached
    have in_square := mem_square.mp mem
    have has := reached.1
    have in_size := reached.2
    unfold Rect.Has at has
    refine visited _ (mem_interval.mpr ⟨?_, ?_⟩) _ (mem_interval.mpr ⟨?_, ?_⟩) reached <;> omega
  · intro addresses row in_rows column in_columns
    have row_bounds := mem_interval.mp in_rows
    have column_bounds := mem_interval.mp in_columns
    refine addresses (column, row) (mem_square.mpr ⟨?_, ?_⟩) <;> dsimp only <;> omega

/-- A mean of a square whose corners can be computed exists if each of its pixels can be
looked up. -/
theorem exists_average_iff_of_fits (bounded : f.origin.Bounded) (fits : FitsSquare x y radius)
    (centre : f.pixel x y = .ok (some c)) :
    (∃ mean, f.average x y radius = .ok mean) ↔
      ∀ place ∈ square x y radius, f.Addresses place.1 place.2 := by
  have left_eq := Signed.sub_eq_ok_iff.mpr ⟨fits.left, rfl⟩
  have right_eq := Signed.add_eq_ok_iff.mpr ⟨fits.right, rfl⟩
  have top_eq := Signed.sub_eq_ok_iff.mpr ⟨fits.top, rfl⟩
  have bottom_eq := Signed.add_eq_ok_iff.mpr ⟨fits.bottom, rfl⟩
  have average_eq : f.average x y radius =
      f.colorsOn (f.columnsIn x radius) (f.rowsIn y radius) >>= fun colors => do
        return some {
          red := ← channelMean Color.red colors
          green := ← channelMean Color.green colors
          blue := ← channelMean Color.blue colors } := by
    unfold average
    rw [centre, Checked.ok_bind]
    simp only [Option.isNone_some, Bool.false_eq_true, if_false, Signed.wrap_of_lt fits.small,
      left_eq, right_eq, top_eq, bottom_eq, Checked.ok_bind]
    rw [if_neg (by omega)]
    rfl
  rw [average_eq, ← addresses_iff_visited, ← exists_colorsOn_iff bounded]
  constructor
  · rintro ⟨mean, done⟩
    obtain ⟨colors, visited, _⟩ := Checked.bind_eq_ok_iff.mp done
    exact ⟨colors, visited⟩
  · rintro ⟨colors, visited⟩
    -- The centre is visited and has a colour, so that there is something to take the mean of.
    have centre_inside := inside_of_pixel centre
    have centre_mem : c ∈ colors := by
      refine mem_of_colorsOn visited (mem_interval.mpr ⟨?_, ?_⟩) (mem_interval.mpr ⟨?_, ?_⟩)
        centre <;> omega
    have some_color := List.ne_nil_of_mem centre_mem
    rw [visited, Checked.ok_bind]
    simp only [channelMean_eq some_color, Checked.ok_bind]
    exact ⟨_, rfl⟩

/-- A mean exists exactly if all that it looks up can be counted, and its radius is not
negative as a word. -/
theorem exists_average_iff (bounded : f.origin.Bounded) (word : radius < 2 ^ 32)
    (fits : radius < 2 ^ 31 → f.HasPixel x y → FitsSquare x y radius) :
    (∃ mean, f.average x y radius = .ok mean) ↔ f.Averages x y radius := by
  rw [Averages, ← exists_pixel_iff bounded]
  constructor
  · rintro ⟨mean, done⟩
    obtain ⟨found, centre, _⟩ := Checked.bind_eq_ok_iff.mp done
    refine ⟨⟨found, centre⟩, fun has => ?_⟩
    obtain ⟨c, rfl⟩ := Option.isSome_iff_exists.mp ((isSome_of_pixel bounded centre).mpr has)
    have small : radius < 2 ^ 31 := by
      by_contra large
      exact average_ne_ok_of_large (Nat.le_of_not_lt large) word centre mean done
    exact ⟨small, (exists_average_iff_of_fits bounded (fits small has) centre).mp ⟨mean, done⟩⟩
  · rintro ⟨⟨found, centre⟩, coloured⟩
    cases found with
    | none => exact ⟨none, by rw [average, centre]; rfl⟩
    | some c =>
        have has : f.HasPixel x y := (isSome_of_pixel bounded centre).mp rfl
        obtain ⟨small, addresses⟩ := coloured has
        exact (exists_average_iff_of_fits bounded (fits small has) centre).mpr addresses

end Rotation.Frame
