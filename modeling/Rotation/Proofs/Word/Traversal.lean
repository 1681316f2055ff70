import Rotation.Word.Checked

/-!
# Checked computations along a list

What is computed for each item of a list is computed for all of them unless one of them
is at fault.
-/

namespace Rotation.Checked

variable {α β : Type} {items : List α}

/-- All items are computed if the list is, and each result is that of an item. -/
theorem mapM_eq_ok {f : α → Checked β} {results : List β} (done : items.mapM f = .ok results) :
    (∀ a ∈ items, ∃ b ∈ results, f a = .ok b) ∧ ∀ b ∈ results, ∃ a ∈ items, f a = .ok b := by
  induction items generalizing results with
  | nil =>
      cases done
      simp
  | cons a rest ih =>
      rw [List.mapM_cons] at done
      rcases bind_eq_ok_iff.mp done with ⟨b, a_eq, done⟩
      rcases bind_eq_ok_iff.mp done with ⟨others, rest_eq, done⟩
      cases done
      have rest_done := ih rest_eq
      constructor
      · intro item mem
        rcases List.mem_cons.mp mem with rfl | later
        · exact ⟨b, List.mem_cons_self, a_eq⟩
        · rcases rest_done.1 item later with ⟨result, result_mem, item_eq⟩
          exact ⟨result, List.mem_cons_of_mem b result_mem, item_eq⟩
      · intro result mem
        rcases List.mem_cons.mp mem with rfl | later
        · exact ⟨a, List.mem_cons_self, a_eq⟩
        · rcases rest_done.2 result later with ⟨item, item_mem, item_eq⟩
          exact ⟨item, List.mem_cons_of_mem a item_mem, item_eq⟩

theorem mapM_eq_map {f : α → Checked β} {g : α → β} (each : ∀ a ∈ items, f a = .ok (g a)) :
    items.mapM f = .ok (items.map g) := by
  induction items with
  | nil => rfl
  | cons a rest ih =>
      obtain ⟨a_eq, rest_each⟩ := List.forall_mem_cons.mp each
      rw [List.mapM_cons, a_eq, ok_bind, ih rest_each]
      rfl

theorem filterMapM_eq_filterMap {f : α → Checked (Option β)} {g : α → Option β}
    (each : ∀ a ∈ items, f a = .ok (g a)) : items.filterMapM f = .ok (items.filterMap g) := by
  induction items with
  | nil => rfl
  | cons a rest ih =>
      obtain ⟨a_eq, rest_each⟩ := List.forall_mem_cons.mp each
      rw [List.filterMapM_cons, a_eq, ok_bind, List.filterMap_cons]
      cases g a with
      | none => exact ih rest_each
      | some b =>
          dsimp only
          rw [ih rest_each]
          rfl

theorem exists_mapM_iff {f : α → Checked β} :
    (∃ results, items.mapM f = .ok results) ↔ ∀ a ∈ items, ∃ b, f a = .ok b := by
  constructor
  · rintro ⟨results, done⟩ a mem
    obtain ⟨b, _, a_eq⟩ := (mapM_eq_ok done).1 a mem
    exact ⟨b, a_eq⟩
  · intro each
    induction items with
    | nil => exact ⟨[], rfl⟩
    | cons a rest ih =>
        obtain ⟨⟨b, a_eq⟩, rest_each⟩ := List.forall_mem_cons.mp each
        obtain ⟨others, rest_eq⟩ := ih rest_each
        exact ⟨b :: others, by rw [List.mapM_cons, a_eq, ok_bind, rest_eq]; rfl⟩

/-- What is left out of a list makes no difference to whether it can be computed. -/
theorem exists_filterMapM_iff {f : α → Checked (Option β)} :
    (∃ results, items.filterMapM f = .ok results) ↔ ∀ a ∈ items, ∃ b, f a = .ok b := by
  induction items with
  | nil => exact ⟨fun _ => nofun, fun _ => ⟨[], rfl⟩⟩
  | cons a rest ih =>
      rw [List.forall_mem_cons, ← ih, List.filterMapM_cons]
      rcases f a with fault | _ | b
      · exact ⟨nofun, nofun⟩
      · exact ⟨fun done => ⟨⟨none, rfl⟩, done⟩, fun done => done.2⟩
      · constructor
        · rintro ⟨results, done⟩
          rw [ok_bind] at done
          obtain ⟨others, rest_eq, _⟩ := bind_eq_ok_iff.mp done
          exact ⟨⟨some b, rfl⟩, others, rest_eq⟩
        · rintro ⟨_, others, rest_eq⟩
          exact ⟨b :: others, by rw [ok_bind]; dsimp only; rw [rest_eq]; rfl⟩

theorem mem_of_filterMapM {f : α → Checked (Option β)} {results : List β}
    (done : items.filterMapM f = .ok results) {a : α} {b : β} (mem : a ∈ items)
    (a_eq : f a = .ok (some b)) : b ∈ results := by
  induction items generalizing results with
  | nil => contradiction
  | cons first rest ih =>
      rw [List.filterMapM_cons] at done
      obtain ⟨result, first_eq, done⟩ := bind_eq_ok_iff.mp done
      rcases List.mem_cons.mp mem with rfl | later
      · cases first_eq.symm.trans a_eq
        obtain ⟨others, _, same⟩ := bind_eq_ok_iff.mp done
        cases same
        exact List.mem_cons_self
      · cases result with
        | none => exact ih done later
        | some c =>
            obtain ⟨others, rest_eq, same⟩ := bind_eq_ok_iff.mp done
            cases same
            exact List.mem_cons_of_mem c (ih rest_eq later)

end Rotation.Checked
