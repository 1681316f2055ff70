import Rotation.Catalogue.Wire
import Rotation.Document.Record
import Rotation.Proofs.Order.Table
import Rotation.Proofs.Text.Spelling

/-!
# The entries of a catalogue

A catalogue answers with the last entry that was given under an identifier, in whatever way
its entries came into it.  Since every entry stands under its own identifier and the
identifiers ascend, its lists of entries are all that there is to it: the catalogue made of
them is the same, and so is the one that is read from its document, because records, lists
and words are read back from the documents they are written as.
-/

namespace Rotation.Source

/-! ## Reading records -/

theorem map_fst_ofFields (fields : List (String × Document)) :
    (ofFields fields).map Prod.fst = fields.map Prod.fst := by
  induction fields with
  | nil => rfl
  | cons field rest ih =>
      rw [ofFields, List.map_cons, List.map_cons, ih]

/-- A record has the fields that are written, if they are the declared ones. -/
theorem fields?_ofDocument {names : List String} {fields : List (String × Document)}
    (declared : fields.map Prod.fst = names) (distinct : names.Nodup) :
    fields? names (ofDocument (.record fields)) = some (ofFields fields) := by
  have known : (ofFields fields).filter (fun entry => names.contains entry.1) = ofFields fields := by
    rw [List.filter_eq_self]
    intro entry mem
    have name_mem := List.mem_map_of_mem (f := Prod.fst) mem
    rw [map_fst_ofFields, declared] at name_mem
    exact List.contains_iff_mem.mpr name_mem
  rw [ofDocument, fields?, known, map_fst_ofFields, declared, if_pos distinct]

theorem get?_ofFields (fields : List (String × Document)) (name : String) :
    get? (ofFields fields) name = (Document.field? fields name).map ofDocument := by
  induction fields with
  | nil => rfl
  | cons field rest ih =>
      unfold get? Document.field? at ih ⊢
      rw [ofFields, List.find?_cons, List.find?_cons]
      cases field.1 == name with
      | true => rfl
      | false => exact ih

variable {α : Type} {read : Source → Option α} {write : α → Document}
  {fields : List (String × Document)} {name : String} {d : Document} {a : α}

theorem required_ofFields (written : Document.field? fields name = some d)
    (back : read (ofDocument d) = some a) :
    required (ofFields fields) name read = some a := by
  rw [required, get?_ofFields, written]
  exact back

theorem withDefault_ofFields (default : α) (written : Document.field? fields name = some d)
    (back : read (ofDocument d) = some a) :
    withDefault (ofFields fields) name default read = some a := by
  rw [withDefault, get?_ofFields, written]
  exact back

/-- A field that may be missing is written as null if it is. -/
theorem optional_ofFields {value : Option α}
    (written : Document.field? fields name = some (.option write value))
    (back : ∀ a, read (ofDocument (write a)) = some a)
    (present : ∀ a, ofDocument (write a) ≠ .null) :
    optional (ofFields fields) name read = some value := by
  rw [optional, withDefault_ofFields none written]
  cases value with
  | none => rfl
  | some a =>
      rw [Document.option, nullable, back]
      · rfl
      · exact present a

/-! ## Reading values -/

theorem text?_ofDocument (t : String) : text? (ofDocument (.text t)) = some t :=
  rfl

theorem bool?_ofDocument (b : Bool) : bool? (ofDocument (.bool b)) = some b :=
  rfl

theorem list?_ofDocument (back : ∀ a, read (ofDocument (write a)) = some a) (items : List α) :
    list? read (ofDocument (.list (items.map write))) = some items := by
  rw [ofDocument, list?]
  induction items with
  | nil => rfl
  | cons a rest ih =>
      rw [List.map_cons, ofDocuments, List.mapM_cons, back, ih]
      rfl

theorem integerIn?_natCast {n size : Nat} (word : n < size) :
    integerIn? 0 (size - 1) (.integer n) = some (n : Int) :=
  if_pos ⟨Int.natCast_nonneg n, by omega⟩

theorem word8?_ofDocument (n : UInt8) : word8? (ofDocument (.nat n.toNat)) = some n := by
  rw [Document.nat, ofDocument, word8?, integerIn?_natCast n.toNat_lt_size]
  simp

theorem word32?_ofDocument (n : UInt32) : word32? (ofDocument (.nat n.toNat)) = some n := by
  rw [Document.nat, ofDocument, word32?, integerIn?_natCast n.toNat_lt_size]
  simp

theorem word64?_ofDocument (n : UInt64) : word64? (ofDocument (.nat n.toNat)) = some n := by
  rw [Document.nat, ofDocument, word64?, integerIn?_natCast n.toNat_lt_size]
  simp

theorem signed32?_ofDocument (n : Int32) : signed32? (ofDocument (.integer n.toInt)) = some n := by
  have word : Int32.minValue.toInt ≤ n.toInt ∧ n.toInt ≤ Int32.maxValue.toInt :=
    ⟨n.minValue_le_toInt, n.toInt_le⟩
  rw [ofDocument, signed32?, integerIn?, if_pos word]
  simp

end Rotation.Source

namespace Rotation.Order.Table

variable {α : Type} {id : α → String} {table : Table α} {items : List α} {key : String} {a : α}

/-! ## Tables of items -/

/-- The table of some items under their identifiers. -/
def ofItems (id : α → String) (items : List α) : Table α :=
  ofList (items.map fun a => (id a, a))

/-- The last of some items with an identifier. -/
def last? (id : α → String) (items : List α) (key : String) : Option α :=
  items.reverse.find? fun a => id a = key

theorem ofItems_eq_foldl (id : α → String) (items : List α) :
    ofItems id items = items.foldl (fun (table : Table α) a => table.insert (id a) a) [] := by
  rw [ofItems, ofList, List.foldl_map]

theorem ofItems_concat (id : α → String) (items : List α) (a : α) :
    ofItems id (items ++ [a]) = (ofItems id items).insert (id a) a := by
  simp only [ofItems_eq_foldl, List.foldl_append, List.foldl_cons, List.foldl_nil]

theorem last?_concat (id : α → String) (items : List α) (a : α) (key : String) :
    last? id (items ++ [a]) key = if key = id a then some a else last? id items key := by
  rw [last?, List.reverse_concat, List.find?_cons]
  by_cases same : key = id a
  · simp [same]
  · simp [same, Ne.symm same, last?]

/-- A table of items has the last item with each identifier, under this identifier. -/
structure Records (id : α → String) (table : Table α) (items : List α) : Prop where
  ascending : table.Ascending
  own : ∀ entry ∈ table, entry.1 = id entry.2
  find?_eq : ∀ key, table.find? key = last? id items key

theorem Records.insert (records : table.Records id items) (a : α) :
    (table.insert (id a) a).Records id (items ++ [a]) where
  ascending := ascending_insert records.ascending _ _
  own entry mem := by
    rcases mem_of_mem_insert mem with rfl | old
    · rfl
    · exact records.own entry old
  find?_eq key := by
    rw [find?_insert, last?_concat, records.find?_eq]

theorem records_ofItems (id : α → String) (items : List α) :
    (ofItems id items).Records id items := by
  induction items using List.reverseRecOn with
  | nil => exact ⟨ascending_nil, by simp [ofItems, ofList], fun _ => rfl⟩
  | append_singleton items a ih =>
      rw [ofItems_concat]
      exact ih.insert a

/-! ## Enumerations -/

/-- Some items are the last ones of a history with their identifiers: each identifier has one,
and they stand in the order of the bytes of their identifiers. -/
structure Enumerates (id : α → String) (items history : List α) : Prop where
  ascending : items.Pairwise fun a b => Text.bytes (id a) < Text.bytes (id b)
  mem_iff : ∀ a, a ∈ items ↔ last? id history (id a) = some a
  mem_ids_iff : ∀ key, key ∈ items.map id ↔ key ∈ history.map id

theorem Records.mem_values_iff (records : table.Records id items) :
    a ∈ table.values ↔ last? id items (id a) = some a := by
  rw [← records.find?_eq, find?_eq_some_iff records.ascending, values, List.mem_map]
  constructor
  · rintro ⟨entry, mem, rfl⟩
    rw [← records.own entry mem]
    exact mem
  · intro mem
    exact ⟨_, mem, rfl⟩

theorem last?_eq_some (found : last? id items key = some a) : id a = key ∧ a ∈ items := by
  have same := List.find?_some found
  have mem := List.mem_of_find?_eq_some found
  exact ⟨of_decide_eq_true same, List.mem_reverse.mp mem⟩

theorem exists_last?_of_mem (mem : a ∈ items) : ∃ last, last? id items (id a) = some last := by
  rw [← Option.isSome_iff_exists, last?, List.find?_isSome]
  exact ⟨a, List.mem_reverse.mpr mem, by simp⟩

theorem Records.enumerates (records : table.Records id items) :
    Enumerates id table.values items where
  ascending := by
    rw [values, List.pairwise_map]
    refine records.ascending.imp_of_mem ?_
    intro first second first_mem second_mem before
    rw [← records.own first first_mem, ← records.own second second_mem]
    exact Text.bytes_lt_bytes_iff.mpr before
  mem_iff _ := records.mem_values_iff
  mem_ids_iff key := by
    simp only [List.mem_map]
    constructor
    · rintro ⟨a, mem, rfl⟩
      exact ⟨a, (last?_eq_some (records.mem_values_iff.mp mem)).2, rfl⟩
    · rintro ⟨a, mem, rfl⟩
      obtain ⟨last, found⟩ : ∃ last, last? id items (id a) = some last := exists_last?_of_mem mem
      have same := (last?_eq_some found).1
      exact ⟨last, records.mem_values_iff.mpr (by rw [same]; exact found), same⟩

/-! ## Making a table anew -/

theorem insert_of_forall_lt (below : ∀ entry ∈ table, entry.1 < key) :
    table.insert key a = table ++ [(key, a)] := by
  induction table with
  | nil => rfl
  | cons first rest ih =>
      obtain ⟨k, v⟩ := first
      obtain ⟨first_below, rest_below⟩ := List.forall_mem_cons.mp below
      rw [insert, if_neg (ne_of_gt first_below), if_neg (lt_asymm first_below), ih rest_below]
      rfl

/-- A table whose entries stand under their own identifiers is that of its values. -/
theorem ofItems_values (ascending : table.Ascending) (own : ∀ entry ∈ table, entry.1 = id entry.2) :
    ofItems id table.values = table := by
  induction table using List.reverseRecOn with
  | nil => rfl
  | append_singleton table entry ih =>
      obtain ⟨table_ascending, _, below⟩ := List.pairwise_append.mp ascending
      obtain ⟨table_own, own_entry⟩ := List.forall_mem_append.mp own
      have key_eq : entry.1 = id entry.2 := own_entry entry (List.mem_singleton_self entry)
      have entry_below : ∀ earlier ∈ table, earlier.1 < id entry.2 := by
        intro earlier mem
        rw [← key_eq]
        exact below earlier mem entry (List.mem_singleton_self entry)
      have values_eq : values (table ++ [entry]) = values table ++ [entry.2] := List.map_append
      rw [values_eq, ofItems_concat, ih table_ascending table_own,
        insert_of_forall_lt entry_below, ← key_eq]

end Rotation.Order.Table

namespace Rotation

open Rotation.Order (Table)

/-! ## Documents -/

namespace Source

theorem color?_ofDocument (c : Color) : color? (ofDocument c.toDocument) = some c := by
  rw [Color.toDocument, ofDocument, ofDocuments, ofDocuments, ofDocuments, ofDocuments, color?,
    word8?_ofDocument, word8?_ofDocument, word8?_ofDocument]
  rfl

theorem indicatorOf_ofFields {fields : List (String × Document)} {i : Indicator}
    (written : ∀ field ∈ i.fields, Document.field? fields field.1 = some field.2) :
    indicatorOf (ofFields fields) = some i := by
  simp only [Indicator.fields, List.forall_mem_cons] at written
  obtain ⟨monitor, x, y, color, tolerance, radius, _⟩ := written
  rw [indicatorOf, withDefault_ofFields _ monitor (word32?_ofDocument _),
    required_ofFields x (signed32?_ofDocument _), required_ofFields y (signed32?_ofDocument _),
    withDefault_ofFields _ radius (word32?_ofDocument _),
    required_ofFields color (color?_ofDocument _),
    withDefault_ofFields _ tolerance (word8?_ofDocument _)]
  rfl

theorem indicator?_ofDocument (i : Indicator) :
    indicator? (ofDocument (.record i.fields)) = some i := by
  rw [indicator?, fields?_ofDocument, Option.bind_some]
  · apply indicatorOf_ofFields
    simp [Indicator.fields, Document.field?]
  · rfl
  · decide

theorem point?_ofDocument (p : Point) : point? (ofDocument p.toDocument) = some p := by
  rw [point?, Point.toDocument, fields?_ofDocument, Option.bind_eq_bind, Option.bind_some,
    required_ofFields rfl (text?_ofDocument _), indicatorOf_ofFields]
  · rfl
  · simp [Indicator.fields, Document.field?]
  · rfl
  · decide

theorem skill?_ofDocument (s : Skill) : skill? (ofDocument s.toDocument) = some s := by
  have text_present (t : String) : ofDocument (.text t) ≠ .null := nofun
  have record_present (i : Indicator) : ofDocument (.record i.fields) ≠ .null := nofun
  rw [skill?, Skill.toDocument, fields?_ofDocument, Option.bind_eq_bind, Option.bind_some,
    required_ofFields rfl (text?_ofDocument _), withDefault_ofFields _ rfl (text?_ofDocument _),
    withDefault_ofFields _ rfl (bool?_ofDocument _),
    optional_ofFields rfl text?_ofDocument text_present,
    withDefault_ofFields _ rfl (word64?_ofDocument _),
    withDefault_ofFields _ rfl (word64?_ofDocument _),
    optional_ofFields rfl indicator?_ofDocument record_present,
    optional_ofFields rfl text?_ofDocument text_present]
  · rfl
  · rfl
  · decide

/-- Read the lists of a catalogue. -/
def lists? (s : Source) : Option (List Skill × List Point) := do
  let fields ← fields? ["skills", "points"] s
  let skills ← withDefault fields "skills" [] (list? skill?)
  let points ← withDefault fields "points" [] (list? point?)
  return (skills, points)

/-- A document is read as the catalogue of its lists. -/
theorem catalogue?_eq (s : Source) :
    catalogue? s = (lists? s).map fun lists => .ofLists lists.1 lists.2 := by
  simp only [catalogue?, lists?, Option.bind_eq_bind, Option.map_bind, Function.comp_def]
  rfl

end Source

namespace Catalogue

/-- A document that lists some skills and points. -/
def listing (skills : List Skill) (points : List Point) : Document :=
  .record [("skills", .list (skills.map Skill.toDocument)),
    ("points", .list (points.map Point.toDocument))]

theorem lists?_listing (skills : List Skill) (points : List Point) :
    Source.lists? (.ofDocument (listing skills points)) = some (skills, points) := by
  rw [Source.lists?, listing, Source.fields?_ofDocument, Option.bind_eq_bind, Option.bind_some,
    Source.withDefault_ofFields _ rfl (Source.list?_ofDocument Source.skill?_ofDocument skills),
    Source.withDefault_ofFields _ rfl (Source.list?_ofDocument Source.point?_ofDocument points)]
  · rfl
  · rfl
  · decide

/-- A document of lists is the catalogue of these lists. -/
theorem catalogue?_listing (skills : List Skill) (points : List Point) :
    Source.catalogue? (.ofDocument (listing skills points)) = some (ofLists skills points) := by
  rw [Source.catalogue?_eq, lists?_listing]
  rfl

/-! ## Entries -/

/-- Something that is added to a catalogue. -/
inductive Entry where
  | skill (s : Skill)
  | point (p : Point)

/-- The skill that an entry is. -/
def Entry.skill? : Entry → Option Skill
  | .skill s => some s
  | .point _ => none

/-- The point that an entry is. -/
def Entry.point? : Entry → Option Point
  | .skill _ => none
  | .point p => some p

/-- Add an entry. -/
def add (c : Catalogue) : Entry → Catalogue
  | .skill s => c.addSkill s
  | .point p => c.addPoint p

/-- Add one entry after the other. -/
def addAll (c : Catalogue) (entries : List Entry) : Catalogue :=
  entries.foldl add c

theorem foldl_addSkill (skills : List Skill) (c : Catalogue) :
    skills.foldl addSkill c = { c with
      skillTable := skills.foldl (fun table s => Table.insert s.id s table) c.skillTable } := by
  induction skills generalizing c with
  | nil => rfl
  | cons s rest ih => exact ih (c.addSkill s)

theorem foldl_addPoint (points : List Point) (c : Catalogue) :
    points.foldl addPoint c = { c with
      pointTable := points.foldl (fun table p => Table.insert p.id p table) c.pointTable } := by
  induction points generalizing c with
  | nil => rfl
  | cons p rest ih => exact ih (c.addPoint p)

theorem ofLists_eq (skills : List Skill) (points : List Point) :
    ofLists skills points = ⟨Table.ofItems Skill.id skills, Table.ofItems Point.id points⟩ := by
  rw [ofLists, foldl_addSkill, foldl_addPoint, Table.ofItems_eq_foldl, Table.ofItems_eq_foldl]
  rfl

/-- Entries that are added count as if they stood at the ends of the lists. -/
theorem addAll_ofLists (skills : List Skill) (points : List Point) (entries : List Entry) :
    (ofLists skills points).addAll entries =
      ofLists (skills ++ entries.filterMap Entry.skill?) (points ++ entries.filterMap Entry.point?) := by
  induction entries generalizing skills points with
  | nil => simp [addAll]
  | cons entry rest ih =>
      cases entry with
      | skill s =>
          have added : (ofLists skills points).add (.skill s) = ofLists (skills ++ [s]) points := by
            rw [ofLists_eq, ofLists_eq, Table.ofItems_concat]
            rfl
          rw [addAll, List.foldl_cons, added, ← addAll, ih, List.append_assoc,
            List.filterMap_cons_none (f := Entry.point?) rfl]
          rfl
      | point p =>
          have added : (ofLists skills points).add (.point p) = ofLists skills (points ++ [p]) := by
            rw [ofLists_eq, ofLists_eq, Table.ofItems_concat]
            rfl
          rw [addAll, List.foldl_cons, added, ← addAll, ih, List.append_assoc,
            List.filterMap_cons_none (f := Entry.skill?) rfl]
          rfl

/-- A catalogue is the one made of its own lists. -/
theorem ofLists_skills_points (skills : List Skill) (points : List Point) :
    ofLists (ofLists skills points).skills (ofLists skills points).points =
      ofLists skills points := by
  have skill_records := Table.records_ofItems Skill.id skills
  have point_records := Table.records_ofItems Point.id points
  rw [ofLists_eq, Catalogue.skills, Catalogue.points, ofLists_eq skills points,
    Table.ofItems_values skill_records.ascending skill_records.own,
    Table.ofItems_values point_records.ascending point_records.own]

/-- A catalogue knows the last entry under each identifier, among those that were listed and
those that were added afterwards, and nothing under any other.  Its lists have each identifier
once, in the order of its bytes, and every entry stands under its own identifier.  Every
document is read as the catalogue of its lists, and any lists can be those of a document.  So
the catalogue of its own lists, and the one read from its own document, is the catalogue
itself. -/
theorem knows_last_entries (skills : List Skill) (points : List Point) (entries : List Entry) :
    let c := (ofLists skills points).addAll entries
    let allSkills := skills ++ entries.filterMap Entry.skill?
    let allPoints := points ++ entries.filterMap Entry.point?
    (∀ id, c.skill? id = Table.last? Skill.id allSkills id) ∧
      (∀ id, c.point? id = Table.last? Point.id allPoints id) ∧
      Table.Enumerates Skill.id c.skills allSkills ∧
      Table.Enumerates Point.id c.points allPoints ∧
      (∀ entry ∈ c.skillTable, entry.1 = entry.2.id) ∧
      (∀ entry ∈ c.pointTable, entry.1 = entry.2.id) ∧
      (∀ s, Source.catalogue? s = (Source.lists? s).map fun l => ofLists l.1 l.2) ∧
      Source.lists? (.ofDocument (listing skills points)) = some (skills, points) ∧
      ofLists c.skills c.points = c ∧ Source.catalogue? (.ofDocument c.toDocument) = some c := by
  intro c allSkills allPoints
  have same : c = ofLists allSkills allPoints := addAll_ofLists skills points entries
  have skill_records := Table.records_ofItems Skill.id allSkills
  have point_records := Table.records_ofItems Point.id allPoints
  have made_anew : ofLists c.skills c.points = c := by
    rw [same]
    exact ofLists_skills_points allSkills allPoints
  have read_anew : Source.catalogue? (.ofDocument c.toDocument) = some c :=
    (catalogue?_listing c.skills c.points).trans (congrArg some made_anew)
  have tables : c = ⟨Table.ofItems Skill.id allSkills, Table.ofItems Point.id allPoints⟩ :=
    same.trans (ofLists_eq allSkills allPoints)
  refine ⟨?_, ?_, ?_, ?_, ?_, ?_, Source.catalogue?_eq, lists?_listing skills points, made_anew,
    read_anew⟩ <;> rw [tables]
  · exact skill_records.find?_eq
  · exact point_records.find?_eq
  · exact skill_records.enumerates
  · exact point_records.enumerates
  · exact skill_records.own
  · exact point_records.own

/-- A skill that takes its time. -/
def slowFire : Skill :=
  { Skill.named "fire" with castMs := 1500 }

/-- A skill that is added after another one with its identifier replaces it, wherever that has
come from, and stands under this identifier. -/
theorem slow_fire_replaces_fire :
    let c := (ofLists [.named "fire"] []).addAll [.skill (.named "ice"), .skill slowFire]
    c.skill? "fire" = some slowFire ∧ c.skill? "frost" = none ∧ slowFire ∈ c.skills ∧
      Skill.named "fire" ∉ c.skills ∧ ("fire", slowFire) ∈ c.skillTable ∧
      "fire" = slowFire.id ∧ Source.catalogue? (.ofDocument c.toDocument) = some c := by
  intro c
  obtain ⟨skill_eq, _, listed, _, own, _, _, _, _, read_anew⟩ :=
    knows_last_entries [.named "fire"] [] [.skill (.named "ice"), .skill slowFire]
  have entry : ("fire", slowFire) ∈ c.skillTable := by decide
  refine ⟨skill_eq "fire", skill_eq "frost", ?_, ?_, entry, own _ entry, read_anew⟩
  · exact (listed.mem_iff slowFire).mpr rfl
  · intro mem
    cases (listed.mem_iff _).mp mem

end Catalogue

end Rotation
