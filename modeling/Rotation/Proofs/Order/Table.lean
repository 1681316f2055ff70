import Mathlib.Algebra.Ring.Nat
import Mathlib.Data.List.DropRight
import Mathlib.Data.String.Basic
import Rotation.Order.Keyed

/-!
# Ascending tables and tallies

The keys of a table that is built by insertions ascend, and no key repeats.
In such a table an entry that is erased is gone, an entry is in the table
exactly when its key finds it, and counting under a key counts once.

A tally counts the items of a history of a certain kind, and begins anew with
each item of another kind.
-/

namespace Rotation.Order.Table

variable {α : Type} {table : Table α} {key other : String} {value : α}

/-- The keys ascend strictly. -/
def Ascending (table : Table α) : Prop :=
  table.Pairwise fun first second => first.1 < second.1

theorem ascending_nil : Ascending ([] : Table α) :=
  .nil

theorem mem_of_mem_insert {entry : String × α} (mem : entry ∈ table.insert key value) :
    entry = (key, value) ∨ entry ∈ table := by
  induction table with
  | nil => simpa [insert] using mem
  | cons first rest ih =>
      obtain ⟨k, v⟩ := first
      unfold insert at mem
      split at mem
      · rcases List.mem_cons.mp mem with new | old
        · exact .inl new
        · exact .inr (List.mem_cons_of_mem _ old)
      · split at mem
        · exact List.mem_cons.mp mem
        · rcases List.mem_cons.mp mem with same | later
          · exact .inr (same ▸ List.mem_cons_self)
          · rcases ih later with new | old
            · exact .inl new
            · exact .inr (List.mem_cons_of_mem _ old)

theorem mem_of_mem_erase {entry : String × α} (mem : entry ∈ table.erase key) : entry ∈ table := by
  induction table with
  | nil => exact mem
  | cons first rest ih =>
      obtain ⟨k, v⟩ := first
      unfold erase at mem
      split at mem
      · exact List.mem_cons_of_mem _ mem
      · rcases List.mem_cons.mp mem with same | later
        · exact same ▸ List.mem_cons_self
        · exact List.mem_cons_of_mem _ (ih later)

theorem ascending_insert (ascending : table.Ascending) (key : String) (value : α) :
    (table.insert key value).Ascending := by
  induction table with
  | nil => exact List.pairwise_singleton _ _
  | cons first rest ih =>
      obtain ⟨k, v⟩ := first
      obtain ⟨above, rest_ascending⟩ := List.pairwise_cons.mp ascending
      unfold insert
      split
      · rename_i same
        exact List.pairwise_cons.mpr ⟨same ▸ above, rest_ascending⟩
      · split
        · rename_i less
          refine List.pairwise_cons.mpr ⟨?_, ascending⟩
          intro entry mem
          rcases List.mem_cons.mp mem with rfl | later
          · exact less
          · exact less.trans (above entry later)
        · rename_i differs not_less
          refine List.pairwise_cons.mpr ⟨?_, ih rest_ascending⟩
          intro entry mem
          rcases mem_of_mem_insert mem with rfl | old
          · exact lt_of_le_of_ne (not_lt.mp not_less) (Ne.symm differs)
          · exact above entry old

theorem ascending_erase (ascending : table.Ascending) (key : String) :
    (table.erase key).Ascending := by
  induction table with
  | nil => exact ascending
  | cons first rest ih =>
      obtain ⟨k, v⟩ := first
      obtain ⟨above, rest_ascending⟩ := List.pairwise_cons.mp ascending
      unfold erase
      split
      · exact rest_ascending
      · exact List.pairwise_cons.mpr
          ⟨fun entry mem => above entry (mem_of_mem_erase mem), ih rest_ascending⟩

/-- An entry is found under its key. -/
theorem find?_eq_some_iff (ascending : table.Ascending) :
    table.find? key = some value ↔ (key, value) ∈ table := by
  induction table with
  | nil => simp [find?]
  | cons first rest ih =>
      obtain ⟨k, v⟩ := first
      obtain ⟨above, rest_ascending⟩ := List.pairwise_cons.mp ascending
      unfold find?
      split
      · rename_i same
        subst same
        constructor
        · rintro ⟨⟩
          exact List.mem_cons_self
        · intro mem
          rcases List.mem_cons.mp mem with same | later
          · rw [Prod.mk.inj same |>.2]
          · exact absurd (above _ later) (lt_irrefl key)
      · rename_i differs
        rw [ih rest_ascending, List.mem_cons, Prod.mk.injEq]
        simp [differs]

theorem find?_erase_self (ascending : table.Ascending) (key : String) :
    (table.erase key).find? key = none := by
  induction table with
  | nil => rfl
  | cons first rest ih =>
      obtain ⟨k, v⟩ := first
      obtain ⟨above, rest_ascending⟩ := List.pairwise_cons.mp ascending
      unfold erase
      split
      · rename_i same
        subst same
        rw [Option.eq_none_iff_forall_ne_some]
        intro value found
        have mem := (find?_eq_some_iff rest_ascending).mp found
        exact lt_irrefl key (above _ mem)
      · rename_i differs
        simp [find?, differs, ih rest_ascending]

theorem find?_erase_of_ne (differs : other ≠ key) (table : Table α) :
    (table.erase key).find? other = table.find? other := by
  induction table with
  | nil => rfl
  | cons first rest ih =>
      obtain ⟨k, v⟩ := first
      unfold erase
      split
      · rename_i same
        subst same
        simp [find?, differs]
      · simp [find?, ih]

theorem find?_insert (key other : String) (value : α) (table : Table α) :
    (table.insert key value).find? other =
      if other = key then some value else table.find? other := by
  split
  · rename_i same
    rw [same, find?_insert_self]
  · rename_i differs
    exact find?_insert_of_ne differs value table

/-- The later of two values under one key counts. -/
theorem insert_insert (key : String) (first second : α) (table : Table α) :
    (table.insert key first).insert key second = table.insert key second := by
  induction table with
  | nil => simp [insert]
  | cons entry rest ih =>
      obtain ⟨k, v⟩ := entry
      by_cases same : key = k
      · simp [insert, same]
      · by_cases before : key < k
        · simp [insert, same, before]
        · simp [insert, same, before, ih]

theorem ascending_modify (ascending : table.Ascending) (key : String) (fresh : α) (f : α → α) :
    (table.modify key fresh f).Ascending :=
  ascending_insert ascending key _

theorem find?_modify (key other : String) (fresh : α) (f : α → α) (table : Table α) :
    (table.modify key fresh f).find? other =
      if other = key then some (f ((table.find? key).getD fresh)) else table.find? other :=
  find?_insert key other _ table

theorem modify_modify (key : String) (fresh : α) (f g : α → α) (table : Table α) :
    (table.modify key fresh f).modify key fresh g = table.modify key fresh fun a => g (f a) := by
  unfold modify
  rw [insert_insert, find?_insert_self]
  rfl

theorem find?_erase (ascending : table.Ascending) (key other : String) :
    (table.erase key).find? other = if other = key then none else table.find? other := by
  split
  · rename_i same
    rw [same, find?_erase_self ascending]
  · rename_i differs
    exact find?_erase_of_ne differs table

/-- A table in which nothing is found is empty. -/
theorem eq_nil_of_find?_eq_none (nothing : ∀ key, table.find? key = none) : table = [] := by
  cases table with
  | nil => rfl
  | cons first rest =>
      have found := nothing first.1
      simp [find?] at found

/-! ## Sums -/

/-- A value that is put into a table takes the place of the old one in the sum
of all. -/
theorem sum_values_insert {table : Table Nat} (ascending : table.Ascending) (key : String)
    (value : Nat) :
    (table.insert key value).values.sum + (table.find? key).getD 0 = table.values.sum + value := by
  induction table with
  | nil => simp [insert, find?, values]
  | cons first rest ih =>
      obtain ⟨k, v⟩ := first
      obtain ⟨above, rest_ascending⟩ := List.pairwise_cons.mp ascending
      have rest_sum := ih rest_ascending
      unfold insert
      split
      · rename_i same
        subst same
        simp only [find?, if_true, values, List.map_cons, List.sum_cons, Option.getD_some]
        omega
      · rename_i differs
        rw [find?, if_neg differs]
        split
        · rename_i less
          have absent : find? key rest = none := by
            rw [Option.eq_none_iff_forall_ne_some]
            intro old found
            have mem := (find?_eq_some_iff rest_ascending).mp found
            exact absurd (less.trans (above _ mem)) (lt_irrefl key)
          simp only [absent, values, List.map_cons, List.sum_cons, Option.getD_none]
          omega
        · simp only [values, List.map_cons, List.sum_cons] at rest_sum ⊢
          omega

/-- Counting under a key adds one to the sum. -/
theorem sum_values_modify_succ {table : Table Nat} (ascending : table.Ascending) (key : String) :
    (table.modify key 0 (· + 1)).values.sum = table.values.sum + 1 := by
  have sum_eq := sum_values_insert ascending key ((table.find? key).getD 0 + 1)
  rw [modify]
  omega

end Rotation.Order.Table

/-! ## Tallies -/

namespace Rotation

variable {α : Type} {counts resets : α → Bool}

/-- How many items count after the last that resets the tally. -/
def tallySince (resets counts : α → Bool) (history : List α) : Nat :=
  (history.rtakeWhile fun item => !resets item).countP counts

theorem tallySince_concat (history : List α) (item : α) :
    tallySince resets counts (history ++ [item]) =
      if resets item then 0 else tallySince resets counts history + (counts item).toNat := by
  unfold tallySince
  rw [List.rtakeWhile_concat]
  cases resets item with
  | true => rfl
  | false =>
      simp only [Bool.not_false, if_true, Bool.false_eq_true, if_false, List.countP_append,
        List.countP_singleton]
      cases counts item <;> rfl

end Rotation
