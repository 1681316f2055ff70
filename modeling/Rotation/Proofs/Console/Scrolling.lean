import Rotation.Console.View

/-!
# Scrolling the log

The panel shows a window of the log.  Calls move the window by changing how far it has
been moved up from the latest line, which is kept apart from the length of the log and
the height of the panel; only when the panel is drawn is the window held inside the log.
So an up call moves the window as far as there are lines above it, and what it asks for
beyond the first line is kept: a down call takes that back before it moves the window.
As long as no up call asks for more than there is, every call moves the window by what it
asks for or by all there is.
-/

namespace Rotation.Console

/-- A call that moves the window of the log. -/
inductive Scroll where
  | up (n : Nat)
  | down (n : Nat)
  deriving DecidableEq, Repr

/-- Move the window of the log. -/
def scroll (c : Console) : Scroll → Console
  | .up n => c.scrollUp n
  | .down n => c.scrollDown n

/-- Move the window of the log by one call after the other. -/
def scrollAll (c : Console) (calls : List Scroll) : Console :=
  calls.foldl scroll c

/-- The first of the lines that are shown, and the one after the last. -/
def window (c : Console) (rows : Nat) : Nat × Nat :=
  logWindow c.log.size rows c.logScroll

/-- The number of lines above the window. -/
def linesAbove (c : Console) (rows : Nat) : Nat :=
  (c.window rows).1

/-- The number of lines below the window. -/
def linesBelow (c : Console) (rows : Nat) : Nat :=
  c.log.size - (c.window rows).2

/-- How far the window would be beyond the first line if nothing held it inside the
log. -/
def excess (c : Console) (rows : Nat) : Nat :=
  c.logScroll - (c.log.size - rows)

/-- The window of one console is some lines further up than that of the other. -/
def StandsAbove (upper lower : Console) (rows n : Nat) : Prop :=
  (upper.window rows).1 + n = (lower.window rows).1 ∧
    (upper.window rows).2 + n = (lower.window rows).2

instance (upper lower : Console) (rows n : Nat) : Decidable (upper.StandsAbove lower rows n) :=
  inferInstanceAs (Decidable (_ ∧ _))

/-- No up call asks for more lines than there are above the window. -/
def StaysInside (rows : Nat) : Console → List Scroll → Prop
  | _, [] => True
  | c, .up n :: rest => n ≤ c.linesAbove rows ∧ StaysInside rows (c.scrollUp n) rest
  | c, .down n :: rest => StaysInside rows (c.scrollDown n) rest

/-- What a panel shows, and how a further call moves it: up by what is asked for or all
lines above, and down by what is asked for beyond the excess, or all lines below.  So down
calls move it by what they ask for, or all lines below, just if there is no excess or no
line below. -/
structure Responds (c : Console) (rows : Nat) : Prop where
  size_eq : c.linesAbove rows + min c.log.size rows + c.linesBelow rows = c.log.size
  shown_eq : c.shownLog rows =
    (c.log.toList.drop (c.linesAbove rows)).take (min c.log.size rows)
  up : ∀ n, (c.scrollUp n).StandsAbove c rows (min n (c.linesAbove rows))
  down : ∀ n, c.StandsAbove (c.scrollDown n) rows (min (n - c.excess rows) (c.linesBelow rows))
  down_iff : (∀ n, c.StandsAbove (c.scrollDown n) rows (min n (c.linesBelow rows))) ↔
    c.excess rows = 0 ∨ c.linesBelow rows = 0

variable {c : Console} {rows : Nat}

/-! ## Windows -/

theorem linesAbove_eq (c : Console) (rows : Nat) :
    c.linesAbove rows = c.log.size - rows - c.logScroll := by
  unfold linesAbove window logWindow
  dsimp only
  omega

theorem linesBelow_eq (c : Console) (rows : Nat) :
    c.linesBelow rows = min c.logScroll (c.log.size - rows) := by
  unfold linesBelow window logWindow
  dsimp only
  omega

theorem lines_add_eq_size (c : Console) (rows : Nat) :
    c.linesAbove rows + min c.log.size rows + c.linesBelow rows = c.log.size := by
  rw [linesAbove_eq, linesBelow_eq]
  omega

theorem shownLog_eq (c : Console) (rows : Nat) :
    c.shownLog rows = (c.log.toList.drop (c.linesAbove rows)).take (min c.log.size rows) := by
  unfold shownLog
  dsimp only
  rw [Array.toList_extract, List.extract_eq_take_drop, logWindow_length]
  rfl

/-- One window is above another of the same log by the lines that it has more below. -/
theorem standsAbove_iff {upper lower : Console} (same : upper.log = lower.log) {n : Nat} :
    upper.StandsAbove lower rows n ↔ upper.linesBelow rows = lower.linesBelow rows + n := by
  rw [linesBelow_eq, linesBelow_eq]
  unfold StandsAbove window logWindow
  rw [same]
  dsimp only
  omega

/-! ## One call -/

@[simp]
theorem log_scrollUp (c : Console) (n : Nat) : (c.scrollUp n).log = c.log :=
  rfl

@[simp]
theorem log_scrollDown (c : Console) (n : Nat) : (c.scrollDown n).log = c.log :=
  rfl

@[simp]
theorem log_scroll (c : Console) (call : Scroll) : (c.scroll call).log = c.log := by
  cases call with
  | up n => rfl
  | down n => rfl

theorem linesBelow_scrollUp (fits : Unsigned.Fits 64 c.log.size) (rows n : Nat) :
    (c.scrollUp n).linesBelow rows = c.linesBelow rows + min n (c.linesAbove rows) := by
  rw [linesBelow_eq, linesBelow_eq, linesAbove_eq, log_scrollUp]
  unfold scrollUp Unsigned.saturatingAdd
  unfold Unsigned.Fits at fits
  dsimp only
  omega

theorem linesBelow_scrollDown (c : Console) (rows n : Nat) :
    c.linesBelow rows =
      (c.scrollDown n).linesBelow rows + min (n - c.excess rows) (c.linesBelow rows) := by
  rw [linesBelow_eq, linesBelow_eq, log_scrollDown]
  unfold scrollDown excess
  dsimp only
  generalize c.log.size - rows = most
  omega

/-- What an up call asks for beyond the first line is kept, as far as a word can tell it. -/
theorem excess_scrollUp (c : Console) (rows n : Nat) :
    (c.scrollUp n).excess rows =
      min (c.excess rows + (n - c.linesAbove rows))
        (Unsigned.count 64 - 1 - (c.log.size - rows)) := by
  rw [linesAbove_eq]
  unfold excess scrollUp Unsigned.saturatingAdd
  dsimp only
  generalize c.log.size - rows = most
  omega

theorem excess_scrollDown (c : Console) (rows n : Nat) :
    (c.scrollDown n).excess rows = c.excess rows - n := by
  unfold excess scrollDown
  dsimp only
  omega

theorem responds_of_fits (fits : Unsigned.Fits 64 c.log.size) (rows : Nat) : c.Responds rows := by
  have down (n : Nat) :
      c.StandsAbove (c.scrollDown n) rows (min (n - c.excess rows) (c.linesBelow rows)) :=
    (standsAbove_iff (log_scrollDown c n).symm).mpr (linesBelow_scrollDown c rows n)
  constructor
  · exact lines_add_eq_size c rows
  · exact shownLog_eq c rows
  · intro n
    exact (standsAbove_iff (log_scrollUp c n)).mpr (linesBelow_scrollUp fits rows n)
  · exact down
  · constructor
    · intro obeys
      -- A call for one line tells whether there is something to take back.
      have one_asked := (standsAbove_iff (log_scrollDown c 1).symm).mp (obeys 1)
      have one_moved := (standsAbove_iff (log_scrollDown c 1).symm).mp (down 1)
      omega
    · rintro (no_excess | none_below) n
      · have moved := down n
        rwa [no_excess, Nat.sub_zero] at moved
      · have moved := down n
        rwa [none_below, Nat.min_zero] at moved ⊢

/-! ## Histories -/

@[simp]
theorem log_scrollAll (c : Console) (calls : List Scroll) : (c.scrollAll calls).log = c.log := by
  induction calls generalizing c with
  | nil => rfl
  | cons call rest ih =>
      rw [scrollAll, List.foldl_cons, ← scrollAll, ih, log_scroll]

/-- A history that stays inside the log leaves nothing to take back. -/
theorem excess_scrollAll {calls : List Scroll} (no_excess : c.excess rows = 0)
    (inside : c.StaysInside rows calls) : (c.scrollAll calls).excess rows = 0 := by
  induction calls generalizing c with
  | nil => exact no_excess
  | cons call rest ih =>
      cases call with
      | up n =>
          obtain ⟨enough, rest_inside⟩ := inside
          apply ih _ rest_inside
          rw [excess_scrollUp, no_excess, Nat.sub_eq_zero_of_le enough]
          exact Nat.zero_min _
      | down n =>
          apply ih _ inside
          rw [excess_scrollDown, no_excess, Nat.zero_sub]

/-- A history that leaves nothing to take back at any time has stayed inside the log. -/
theorem staysInside_of_excess {calls : List Scroll} (fits : Unsigned.Fits 64 c.log.size)
    (some_row : 0 < rows)
    (never : ∀ before, before <+: calls → (c.scrollAll before).excess rows = 0) :
    c.StaysInside rows calls := by
  induction calls generalizing c with
  | nil => trivial
  | cons call rest ih =>
      have later (before : List Scroll) (first : before <+: rest) :
          ((c.scroll call).scrollAll before).excess rows = 0 :=
        never (call :: before) (List.cons_prefix_cons.mpr ⟨rfl, first⟩)
      cases call with
      | up n =>
          constructor
          · have next : (c.scrollUp n).excess rows = 0 := later [] List.nil_prefix
            have some_word : 1 < Unsigned.count 64 := by decide
            rw [excess_scrollUp] at next
            unfold Unsigned.Fits at fits
            omega
          · exact ih fits later
      | down n => exact ih fits later

/-- Whatever calls have been made on a log of any length, and however high the panel is:
the panel shows as many successive lines as there is room for, a further up call moves it
by what is asked for or all lines above, and a further down call, beyond what earlier up
calls have asked for in excess of the first line, by what is asked for or all lines below.
After calls that have stayed inside the log, a down call moves it by just what is asked
for or all lines below; other calls leave an excess at some time. -/
theorem scrolls_by_lines (fits : Unsigned.Fits 64 c.log.size) (calls : List Scroll)
    (rows : Nat) :
    (c.scrollAll calls).Responds rows ∧
      (c.excess rows = 0 → c.StaysInside rows calls → ∀ n,
        (c.scrollAll calls).StandsAbove ((c.scrollAll calls).scrollDown n) rows
          (min n ((c.scrollAll calls).linesBelow rows))) ∧
      (0 < rows → (∀ before, before <+: calls → (c.scrollAll before).excess rows = 0) →
        c.StaysInside rows calls) := by
  have responds : (c.scrollAll calls).Responds rows := by
    apply responds_of_fits
    rwa [log_scrollAll]
  refine ⟨?_, ?_, ?_⟩
  · exact responds
  · intro no_excess inside
    exact responds.down_iff.mpr (.inl (excess_scrollAll no_excess inside))
  · exact staysInside_of_excess fits

/-- A console with six lines in its log. -/
def lobby : Console :=
  { opened (.start .empty .standard (.start ⟨[], 0, 0⟩ [])) [] .standard .empty with
    log := #["dawn", "prime", "noon", "dusk", "night", "witching"] }

/-- Up to the first line and back by one. -/
theorem lobby_scrolls_by_lines :
    Unsigned.Fits 64 lobby.log.size ∧ lobby.excess 3 = 0 ∧
      lobby.StaysInside 3 [.up 1, .up 2, .down 1] ∧
      (lobby.scrollAll [.up 1, .up 2, .down 1]).shownLog 3 = ["prime", "noon", "dusk"] ∧
      (lobby.scrollAll [.up 1, .up 2, .down 1]).StandsAbove
        ((lobby.scrollAll [.up 1, .up 2, .down 1]).scrollDown 7) 3 2 := by
  have fits : Unsigned.Fits 64 lobby.log.size := by decide
  have inside : lobby.StaysInside 3 [.up 1, .up 2, .down 1] :=
    ⟨by decide, by decide, trivial⟩
  obtain ⟨responds, obeys, _⟩ := scrolls_by_lines fits [.up 1, .up 2, .down 1] 3
  exact ⟨fits, rfl, inside, responds.shown_eq, obeys rfl inside 7⟩

/-- Beyond the first line, where a down call does not move the window although there are
lines below it. -/
theorem lobby_scrolls_in_vain :
    (lobby.scrollAll [.up 9]).linesBelow 3 = 3 ∧
      ¬(lobby.scrollAll [.up 9]).StandsAbove ((lobby.scrollAll [.up 9]).scrollDown 3) 3
        (min 3 ((lobby.scrollAll [.up 9]).linesBelow 3)) ∧
      ((lobby.scrollAll [.up 9]).scrollDown 3).shownLog 3 =
        (lobby.scrollAll [.up 9]).shownLog 3 := by
  decide

end Rotation.Console
