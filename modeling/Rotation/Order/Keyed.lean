/-!
# Tables in key order

A table is a list of entries whose keys ascend; text keys are compared by
code point, which is also the order of their UTF-8 bytes.  A later entry
replaces an earlier one of the same key.  Sets of identifiers are kept in the
same way.
-/

namespace Rotation.Order

variable {α : Type}

/-- Entries in ascending key order. -/
abbrev Table (α : Type) := List (String × α)

namespace Table

/-- Add an entry, in place of the one with the same key if there is one. -/
def insert (key : String) (value : α) : Table α → Table α
  | [] => [(key, value)]
  | (k, v) :: rest =>
    if key = k then (key, value) :: rest
    else if key < k then (key, value) :: (k, v) :: rest
    else (k, v) :: insert key value rest

/-- The value stored under a key. -/
def find? (key : String) : Table α → Option α
  | [] => none
  | (k, v) :: rest => if key = k then some v else find? key rest

/-- Change the value under a key; an absent key counts as `fresh`. -/
def modify (key : String) (fresh : α) (f : α → α) (table : Table α) : Table α :=
  table.insert key (f ((table.find? key).getD fresh))

/-- The entries without the given key. -/
def erase (key : String) : Table α → Table α
  | [] => []
  | (k, v) :: rest => if key = k then rest else (k, v) :: erase key rest

/-- The keys, ascending. -/
def keys (table : Table α) : List String :=
  table.map Prod.fst

/-- The values in the order of their keys. -/
def values (table : Table α) : List α :=
  table.map Prod.snd

/-- The table of a list of entries; later ones replace earlier ones. -/
def ofList (entries : List (String × α)) : Table α :=
  entries.foldl (fun table entry => table.insert entry.1 entry.2) []

@[simp]
theorem find?_insert_self (key : String) (value : α) (table : Table α) :
    (table.insert key value).find? key = some value := by
  induction table with
  | nil => simp [insert, find?]
  | cons entry rest ih =>
      obtain ⟨k, v⟩ := entry
      unfold insert
      split
      · simp [find?]
      · split
        · simp [find?]
        · simp_all [find?]

theorem find?_insert_of_ne {key other : String} (h : other ≠ key) (value : α)
    (table : Table α) : (table.insert key value).find? other = table.find? other := by
  induction table with
  | nil => simp [insert, find?, h]
  | cons entry rest ih =>
      obtain ⟨k, v⟩ := entry
      unfold insert
      split
      · next hk => subst hk; simp [find?, h]
      · split
        · simp [find?, h]
        · simp [find?, ih]

end Table

/-- A set of identifiers, ascending and without repetition. -/
abbrev IdSet := List String

namespace IdSet

/-- Add an identifier. -/
def insert (id : String) : IdSet → IdSet
  | [] => [id]
  | x :: rest =>
    if id = x then x :: rest
    else if id < x then id :: x :: rest
    else x :: insert id rest

/-- The set of a list of identifiers. -/
def ofList (ids : List String) : IdSet :=
  ids.foldl (fun set id => set.insert id) []

/-- The members of both sets. -/
def union (a b : IdSet) : IdSet :=
  b.foldl (fun set id => set.insert id) a

theorem mem_insert {id x : String} {set : IdSet} :
    x ∈ set.insert id ↔ x = id ∨ x ∈ set := by
  induction set with
  | nil => simp [insert]
  | cons y rest ih =>
      unfold insert
      split
      · next h => subst h; simp
      · split
        · simp
        · simp only [List.mem_cons, ih]
          constructor
          · rintro (h | h | h) <;> simp [h]
          · rintro (h | h | h) <;> simp [h]

end IdSet

end Rotation.Order
