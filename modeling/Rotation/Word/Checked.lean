/-!
# Checked word arithmetic

Times, counters and coordinates are words of a fixed width.  A word is held as
an unbounded number, and every sum, difference or product that has to stay
inside its width goes through this module: the result is either the exact
number or the fault that stopped it.  Nothing wraps silently.
-/

namespace Rotation

/-- Why an arithmetic step has no result. -/
inductive Fault where
  | addOverflow
  | subtractOverflow
  | multiplyOverflow
  | divideByZero
  deriving DecidableEq, Repr

/-- The text under which a fault is reported. -/
def Fault.message : Fault → String
  | .addOverflow => "attempt to add with overflow"
  | .subtractOverflow => "attempt to subtract with overflow"
  | .multiplyOverflow => "attempt to multiply with overflow"
  | .divideByZero => "attempt to divide by zero"

/-- A computation that may stop at a fault. -/
abbrev Checked (α : Type) := Except Fault α

theorem Checked.ok_bind {α β : Type} (a : α) (f : α → Checked β) : .ok a >>= f = f a :=
  rfl

theorem Checked.bind_eq_ok_iff {α β : Type} {x : Checked α} {f : α → Checked β} {b : β} :
    x >>= f = .ok b ↔ ∃ a, x = .ok a ∧ f a = .ok b := by
  cases x with
  | error fault =>
      constructor
      · intro failed
        contradiction
      · rintro ⟨a, failed, _⟩
        contradiction
  | ok a =>
      constructor
      · intro done
        exact ⟨a, rfl, done⟩
      · rintro ⟨_, ⟨⟩, done⟩
        exact done

/-! ## Unsigned words -/

namespace Unsigned

/-- The number of words of `bits` bits, and so the bound that all of them stay
below. -/
def count (bits : Nat) : Nat :=
  Nat.pow 2 bits

/-- The naturals that fit a word of `bits` bits. -/
def Fits (bits n : Nat) : Prop :=
  n < count bits

instance (bits n : Nat) : Decidable (Fits bits n) :=
  inferInstanceAs (Decidable (n < count bits))

/-- The sum, if it fits the width. -/
def add (bits a b : Nat) : Checked Nat :=
  if a + b < count bits then .ok (a + b) else .error .addOverflow

/-- The difference, if there is one. -/
def sub (a b : Nat) : Checked Nat :=
  if b ≤ a then .ok (a - b) else .error .subtractOverflow

/-- The product, if it fits the width. -/
def mul (bits a b : Nat) : Checked Nat :=
  if a * b < count bits then .ok (a * b) else .error .multiplyOverflow

/-- The sum cut off at the largest word. -/
def saturatingAdd (bits a b : Nat) : Nat :=
  min (a + b) (count bits - 1)

theorem add_eq_ok_iff {bits a b c : Nat} :
    add bits a b = .ok c ↔ a + b < count bits ∧ c = a + b := by
  unfold add
  split
  · simp_all [eq_comm]
  · simp
    omega

theorem mul_eq_ok_iff {bits a b c : Nat} :
    mul bits a b = .ok c ↔ a * b < count bits ∧ c = a * b := by
  unfold mul
  split
  · simp_all [eq_comm]
  · simp
    omega

end Unsigned

/-! ## Signed words -/

namespace Signed

/-- The integers that fit a two's-complement word of `bits` bits. -/
def Fits (bits : Nat) (n : Int) : Prop :=
  -(Unsigned.count (bits - 1) : Int) ≤ n ∧ n < Unsigned.count (bits - 1)

instance (bits : Nat) (n : Int) : Decidable (Fits bits n) :=
  inferInstanceAs (Decidable (_ ∧ _))

/-- The sum, if it fits the width. -/
def add (bits : Nat) (a b : Int) : Checked Int :=
  if Fits bits (a + b) then .ok (a + b) else .error .addOverflow

/-- The difference, if it fits the width. -/
def sub (bits : Nat) (a b : Int) : Checked Int :=
  if Fits bits (a - b) then .ok (a - b) else .error .subtractOverflow

/-- The product, if it fits the width. -/
def mul (bits : Nat) (a b : Int) : Checked Int :=
  if Fits bits (a * b) then .ok (a * b) else .error .multiplyOverflow

/-- The word that has the same low bits as `n`. -/
def wrap (bits : Nat) (n : Int) : Int :=
  n.bmod (Unsigned.count bits)

theorem add_eq_ok_iff {bits : Nat} {a b c : Int} :
    add bits a b = .ok c ↔ Fits bits (a + b) ∧ c = a + b := by
  unfold add
  split <;> simp_all [eq_comm]

theorem sub_eq_ok_iff {bits : Nat} {a b c : Int} :
    sub bits a b = .ok c ↔ Fits bits (a - b) ∧ c = a - b := by
  unfold sub
  split <;> simp_all [eq_comm]

theorem mul_eq_ok_iff {bits : Nat} {a b c : Int} :
    mul bits a b = .ok c ↔ Fits bits (a * b) ∧ c = a * b := by
  unfold mul
  split <;> simp_all [eq_comm]

end Signed

end Rotation
