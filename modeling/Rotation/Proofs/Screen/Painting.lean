import Rotation.Proofs.Screen.Averaging

/-!
# Overwriting pixels

A frame is a finite map from coordinates to colours.  As long as no row of its data overlaps
the next one, the bytes of different coordinates are apart, so that overwriting a pixel
changes what is seen at one coordinate and nothing else.  A frame of one colour that has been
overwritten again and again shows, inside its rectangle, the last colour that each
coordinate was given.
-/

namespace Rotation.Frame

variable {f : Frame} {r : Rect} {picture : Int → Int → Color} {x y : Int} {c fill : Color}
  {data : Array UInt8} {i j : Nat}

/-! ## Bytes -/

/-- The colour whose bytes begin at a place. -/
def colorAt (data : Array UInt8) (i : Nat) : Color where
  red := data.getD (i + 2) 0
  green := data.getD (i + 1) 0
  blue := data.getD i 0

theorem pixel_eq (f : Frame) (x y : Int) :
    f.pixel x y = (f.index x y).map (Option.map (colorAt f.data)) := by
  unfold pixel
  rcases f.index x y with fault | _ | start <;> rfl

@[simp]
theorem size_write (data : Array UInt8) (i : Nat) (c : Color) :
    (write data i c).size = data.size := by
  simp [write]

theorem getD_write_of_apart {k : Nat} (apart : k < i ∨ i + 2 < k) :
    (write data i c).getD k 0 = data.getD k 0 := by
  simp only [write, Array.getD_eq_getD_getElem?]
  rw [Array.getElem?_setIfInBounds_ne (by omega), Array.getElem?_setIfInBounds_ne (by omega),
    Array.getElem?_setIfInBounds_ne (by omega)]

/-- The bytes of a colour are read back. -/
theorem colorAt_write_self (inside : i + 2 < data.size) : colorAt (write data i c) i = c := by
  have blue_inside : i < data.size := by omega
  have green_inside : i + 1 < data.size := by omega
  simp [colorAt, write, inside, blue_inside, green_inside]

/-- The bytes of other pixels stay as they are. -/
theorem colorAt_write_of_apart (apart : i + 4 ≤ j ∨ j + 4 ≤ i) :
    colorAt (write data i c) j = colorAt data j := by
  unfold colorAt
  rw [getD_write_of_apart (by omega), getD_write_of_apart (by omega),
    getD_write_of_apart (by omega)]

/-! ## One pixel -/

/-- The frame has another colour at one coordinate, and the same pixels at all others. -/
structure Overwrites (f f' : Frame) (x y : Int) (c : Color) : Prop where
  origin : f'.origin = f.origin
  width : f'.width = f.width
  bytesPerRow : f'.bytesPerRow = f.bytesPerRow
  written : f'.pixel x y = .ok (some c)
  others : ∀ x' y', (x', y') ≠ (x, y) → f'.pixel x' y' = f.pixel x' y'

/-- Places depend on how much data there is, and not on the data. -/
theorem index_write (f : Frame) (i : Nat) (c : Color) (x y : Int) :
    { f with data := write f.data i c }.index x y = f.index x y := by
  simp only [index, size_write]

theorem put_eq (f : Frame) (x y : Int) (c : Color) :
    f.put x y c = (f.index x y).map fun found =>
      found.elim f fun i => { f with data := write f.data i c } := by
  unfold put
  rcases f.index x y with fault | _ | start <;> rfl

/-- What cannot be looked up cannot be overwritten. -/
theorem put_of_pixel_eq_error {fault : Fault} (failed : f.pixel x y = .error fault) :
    f.put x y c = .error fault := by
  rw [pixel_eq] at failed
  rw [put_eq]
  cases index_eq : f.index x y with
  | error e =>
      rw [index_eq] at failed
      cases failed
      rfl
  | ok found =>
      rw [index_eq] at failed
      cases failed

/-- Where there is no pixel, nothing is overwritten. -/
theorem put_of_pixel_eq_none (absent : f.pixel x y = .ok none) : f.put x y c = .ok f := by
  obtain ⟨found, index_eq, absent⟩ := Checked.bind_eq_ok_iff.mp absent
  cases found with
  | none =>
      rw [put_eq, index_eq]
      rfl
  | some i => cases absent

/-- Where there is a pixel, this one is overwritten. -/
theorem exists_put_of_pixel_eq_some (apart : 4 * f.width ≤ f.bytesPerRow) {old : Color}
    (there : f.pixel x y = .ok (some old)) (c : Color) :
    ∃ f', f.put x y c = .ok f' ∧ f.Overwrites f' x y c := by
  obtain ⟨i, index_eq⟩ := exists_index_of_pixel there
  have inside := (index_eq_some index_eq).2.2.2.2.1
  refine ⟨{ f with data := write f.data i c }, ?_, rfl, rfl, rfl, ?_, ?_⟩
  · rw [put_eq, index_eq]
    rfl
  · rw [pixel_eq, index_write, index_eq]
    simp only [Except.map, Option.map_some, colorAt_write_self (Nat.lt_of_succ_lt inside)]
  · intro x' y' differs
    rw [pixel_eq, pixel_eq, index_write]
    cases other_eq : f.index x' y' with
    | error fault => simp only [Except.map]
    | ok found =>
        cases found with
        | none => simp only [Except.map, Option.map_none]
        | some j =>
            have bytes_apart := index_apart apart (x, y) (x', y') index_eq other_eq differs.symm
            simp only [Except.map, Option.map_some, colorAt_write_of_apart bytes_apart]

/-! ## Pictures -/

/-- A colour for a coordinate. -/
structure Stroke where
  x : Int
  y : Int
  color : Color
  deriving DecidableEq, Repr

/-- Overwrite one pixel after the other. -/
def putAll (f : Frame) (strokes : List Stroke) : Checked Frame :=
  strokes.foldlM (fun f s => f.put s.x s.y s.color) f

/-- The last colour that some strokes give to a coordinate. -/
def lastColor? (strokes : List Stroke) (x y : Int) : Option Color :=
  (strokes.reverse.find? fun s => s.x = x ∧ s.y = y).map Stroke.color

/-- A picture under some strokes. -/
def overlay (picture : Int → Int → Color) (strokes : List Stroke) (x y : Int) : Color :=
  (lastColor? strokes x y).getD (picture x y)

theorem overlay_singleton (picture : Int → Int → Color) (s : Stroke) (x y : Int) :
    overlay picture [s] x y = if s.x = x ∧ s.y = y then s.color else picture x y := by
  by_cases here : s.x = x ∧ s.y = y <;> simp [overlay, lastColor?, here]

/-- A stroke is covered by those that follow it. -/
theorem overlay_cons (picture : Int → Int → Color) (s : Stroke) (rest : List Stroke) :
    overlay picture (s :: rest) = overlay (overlay picture [s]) rest := by
  funext x y
  rw [overlay, overlay, overlay_singleton, lastColor?, lastColor?, List.reverse_cons,
    List.find?_append]
  cases rest.reverse.find? fun s => s.x = x ∧ s.y = y with
  | some last => rfl
  | none => by_cases here : s.x = x ∧ s.y = y <;> simp [here]

/-- A frame of a picture that is overwritten shows the picture under the stroke, whether the
stroke is inside of its rectangle or not. -/
theorem Shows.put (shown : f.Shows r picture) (apart : 4 * f.width ≤ f.bytesPerRow)
    (s : Stroke) :
    ∃ f', f.put s.x s.y s.color = .ok f' ∧ 4 * f'.width ≤ f'.bytesPerRow ∧
      f'.Shows r (overlay picture [s]) := by
  obtain ⟨origin_eq, sees⟩ := shown
  by_cases has : r.Has s.x s.y
  · have there : f.pixel s.x s.y = .ok (some (picture s.x s.y)) := by
      rw [sees, view, if_pos has]
    obtain ⟨f', put_eq, overwrites⟩ := exists_put_of_pixel_eq_some apart there s.color
    refine ⟨f', put_eq, ?_, overwrites.origin.trans origin_eq, ?_⟩
    · rw [overwrites.width, overwrites.bytesPerRow]
      exact apart
    · intro x y
      by_cases here : (x, y) = (s.x, s.y)
      · obtain ⟨rfl, rfl⟩ := Prod.mk.inj here
        rw [overwrites.written, view, if_pos has, overlay_singleton, if_pos ⟨rfl, rfl⟩]
      · have elsewhere : ¬(s.x = x ∧ s.y = y) := by
          rintro ⟨rfl, rfl⟩
          exact here rfl
        rw [overwrites.others x y here, sees, view, view, overlay_singleton, if_neg elsewhere]
  · have absent : f.pixel s.x s.y = .ok none := by
      rw [sees, view, if_neg has]
    refine ⟨f, put_of_pixel_eq_none absent, apart, origin_eq, ?_⟩
    intro x y
    rw [sees, view, view, overlay_singleton]
    by_cases inside : r.Has x y
    · have elsewhere : ¬(s.x = x ∧ s.y = y) := by
        rintro ⟨rfl, rfl⟩
        exact has inside
      rw [if_neg elsewhere]
    · rw [if_neg inside, if_neg inside]

theorem Shows.putAll (strokes : List Stroke) (shown : f.Shows r picture)
    (apart : 4 * f.width ≤ f.bytesPerRow) :
    ∃ f', f.putAll strokes = .ok f' ∧ f'.Shows r (overlay picture strokes) := by
  induction strokes generalizing f picture with
  | nil => exact ⟨f, rfl, shown⟩
  | cons s rest ih =>
      obtain ⟨next, put_eq, next_apart, next_shown⟩ := shown.put apart s
      obtain ⟨f', rest_eq, last_shown⟩ := ih next_shown next_apart
      refine ⟨f', ?_, ?_⟩
      · rw [Frame.putAll, List.foldlM_cons, put_eq, Checked.ok_bind]
        exact rest_eq
      · rw [overlay_cons]
        exact last_shown

/-! ## Frames of one colour -/

/-- How many bytes the frame of a rectangle has: those of a row, times its rows. -/
def byteSize (r : Rect) : Checked Nat := do
  Unsigned.mul 32 (← Unsigned.mul 32 r.w.toNat 4) r.h.toNat

theorem byteSize_eq_ok_iff {bytes : Nat} :
    byteSize r = .ok bytes ↔ Unsigned.Fits 32 (r.w.toNat * 4) ∧
      Unsigned.Fits 32 (r.w.toNat * 4 * r.h.toNat) ∧ bytes = r.w.toNat * 4 * r.h.toNat := by
  simp only [byteSize, Checked.bind_eq_ok_iff, Unsigned.mul_eq_ok_iff]
  constructor
  · rintro ⟨_, ⟨row_fits, rfl⟩, all_fits, rfl⟩
    exact ⟨row_fits, all_fits, rfl⟩
  · rintro ⟨row_fits, all_fits, rfl⟩
    exact ⟨_, ⟨row_fits, rfl⟩, all_fits, rfl⟩

/-- A frame of one colour is that of a picture of this colour. -/
theorem solid_eq_paint {bytes : Nat} (counted : byteSize r = .ok bytes) (fill : Color) :
    solid r fill = .ok (paint r fun _ _ => fill) ∧
      Unsigned.Fits 32 (r.h.toNat * r.w.toNat * 4) ∧
      bytes = (paint r fun _ _ => fill).data.size := by
  obtain ⟨row_fits, all_fits, rfl⟩ := byteSize_eq_ok_iff.mp counted
  have size_eq : r.w.toNat * 4 * r.h.toNat = r.h.toNat * r.w.toNat * 4 := by
    rw [Nat.mul_comm, Nat.mul_assoc]
  have row_eq := Unsigned.mul_eq_ok_iff.mpr ⟨row_fits, rfl⟩
  have all_eq := Unsigned.mul_eq_ok_iff.mpr ⟨all_fits, rfl⟩
  refine ⟨?_, size_eq ▸ all_fits, by rw [size_eq, paint, Array.size_ofFn]⟩
  simp only [solid, row_eq, all_eq, Checked.ok_bind]
  apply congrArg Except.ok
  unfold paint
  congr 1
  apply Array.ext
  · rw [Array.size_ofFn, Array.size_ofFn, Nat.mul_comm, Nat.mul_comm r.w.toNat]
  · intro k _ _
    simp only [Array.getElem_ofFn]

/-- Frames are finite maps of colours.  A frame of one colour whose corners and whose bytes
can be counted exists, can be overwritten anywhere and as often as one likes, and then has a
pixel exactly inside its rectangle: the last colour that was given to this coordinate, or its
own one.  More generally, in every frame none of whose rows overlap, overwriting a coordinate
that can be looked up changes nothing where there is no pixel, and elsewhere the pixel at this
coordinate and no other; what cannot be looked up cannot be overwritten. -/
theorem putAll_shows_last_colors :
    (∀ (r : Rect) (fill : Color) (strokes : List Stroke) (bytes : Nat), r.Bounded →
      byteSize r = .ok bytes → ∃ f f', solid r fill = .ok f ∧ f.data.size = bytes ∧
        f.putAll strokes = .ok f' ∧ ∀ x y, f'.pixel x y =
          .ok (if r.Has x y then some ((lastColor? strokes x y).getD fill) else none)) ∧
      ∀ (f : Frame) (x y : Int) (c : Color), 4 * f.width ≤ f.bytesPerRow →
        (f.origin.Bounded → f.Addresses x y →
          (f.pixel x y = .ok none ∧ f.put x y c = .ok f) ∨
            ∃ old f', f.pixel x y = .ok (some old) ∧ f.put x y c = .ok f' ∧
              f.Overwrites f' x y c) ∧
          ∀ fault, f.pixel x y = .error fault → f.put x y c = .error fault := by
  constructor
  · intro r fill strokes bytes bounded counted
    obtain ⟨solid_eq, fits, rfl⟩ := solid_eq_paint counted fill
    have shown := shows_paint bounded fits fun _ _ => fill
    have apart : 4 * (paint r fun _ _ => fill).width ≤ (paint r fun _ _ => fill).bytesPerRow :=
      Nat.le_of_eq (Nat.mul_comm _ _)
    obtain ⟨f', put_eq, _, sees⟩ := shown.putAll strokes apart
    exact ⟨_, f', solid_eq, rfl, put_eq, sees⟩
  · intro f x y c apart
    refine ⟨?_, fun fault => put_of_pixel_eq_error⟩
    intro bounded addressed
    obtain ⟨found, looked⟩ := (exists_pixel_iff bounded x y).mpr addressed
    cases found with
    | none => exact .inl ⟨looked, put_of_pixel_eq_none looked⟩
    | some old =>
        obtain ⟨f', put_eq, overwrites⟩ := exists_put_of_pixel_eq_some apart looked c
        exact .inr ⟨old, f', looked, put_eq, overwrites⟩

/-- A banner to the left of the origin and above it. -/
def banner : Rect :=
  ⟨-1, -2, 3, 2⟩

/-- Two strokes on one pixel of the banner, with one below the banner between them. -/
def bannerStrokes : List Stroke :=
  [⟨0, -1, ⟨255, 0, 0⟩⟩, ⟨0, 0, ⟨0, 255, 0⟩⟩, ⟨0, -1, ⟨0, 0, 255⟩⟩]

/-- The banner shows the last stroke on its pixel and its own colour beside it; and the torn
frame, whose rows are longer than its pixels, can be mended at one of them. -/
theorem banner_shows_last_stroke :
    banner.Bounded ∧ byteSize banner = .ok 24 ∧
      (∃ f f', solid banner ⟨7, 7, 7⟩ = .ok f ∧ f.putAll bannerStrokes = .ok f' ∧
        f'.pixel 0 (-1) = .ok (some ⟨0, 0, 255⟩) ∧ f'.pixel 1 (-1) = .ok (some ⟨7, 7, 7⟩) ∧
        f'.pixel 0 0 = .ok none) ∧
      4 * torn.width ≤ torn.bytesPerRow ∧ torn.origin.Bounded ∧ torn.Addresses (-1) 0 ∧
      (∃ f', torn.put (-1) 0 ⟨1, 2, 3⟩ = .ok f' ∧ torn.Overwrites f' (-1) 0 ⟨1, 2, 3⟩) ∧
      torn.Addresses 0 0 ∧ torn.put 0 0 ⟨1, 2, 3⟩ = .ok torn := by
  have bounded : banner.Bounded := by decide
  have counted : byteSize banner = .ok 24 := by decide
  have apart : 4 * torn.width ≤ torn.bytesPerRow := by decide
  have torn_bounded : torn.origin.Bounded := by decide
  have addressed : torn.Addresses (-1) 0 := by decide
  have end_addressed : torn.Addresses 0 0 := by decide
  obtain ⟨f, f', solid_eq, _, put_eq, sees⟩ :=
    putAll_shows_last_colors.1 banner ⟨7, 7, 7⟩ bannerStrokes 24 bounded counted
  have last_stroke := (sees 0 (-1)).trans (by decide : _ = .ok (some ⟨0, 0, 255⟩))
  have no_stroke := (sees 1 (-1)).trans (by decide : _ = .ok (some ⟨7, 7, 7⟩))
  have outside := (sees 0 0).trans (by decide : _ = .ok none)
  refine ⟨bounded, counted, ⟨f, f', solid_eq, put_eq, last_stroke, no_stroke, outside⟩, apart,
    torn_bounded, addressed, ?_, end_addressed, ?_⟩
  · rcases (putAll_shows_last_colors.2 torn (-1) 0 ⟨1, 2, 3⟩ apart).1 torn_bounded addressed with
      ⟨absent, _⟩ | ⟨_, f', _, mended, overwrites⟩
    · have there : torn.pixel (-1) 0 = .ok (some ⟨200, 190, 180⟩) := by decide +kernel
      cases absent.symm.trans there
    · exact ⟨f', mended, overwrites⟩
  · rcases (putAll_shows_last_colors.2 torn 0 0 ⟨1, 2, 3⟩ apart).1 torn_bounded end_addressed with
      ⟨_, same⟩ | ⟨_, _, there, _⟩
    · exact same
    · have absent : torn.pixel 0 0 = .ok none := by decide +kernel
      cases absent.symm.trans there

/-- A row that cannot be counted is at fault even if there are no rows. -/
example : byteSize ⟨0, 0, 2 ^ 30, 0⟩ = .error .multiplyOverflow := by decide

end Rotation.Frame
