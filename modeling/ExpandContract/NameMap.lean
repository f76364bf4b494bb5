/-!
# Maps from names

A finite map whose keys are names, kept as a list of entries in increasing order of the names. The
order is part of the type, so two maps are equal as soon as they hold the same values under the same
names (`NameMap.ext_find?`), whatever was inserted and erased on the way.

Each operation is described by what it does to `find?`.
-/

set_option autoImplicit false

namespace ExpandContract

/-- A finite map from names, in the order of the names. -/
structure NameMap (α : Type) where
  entries : List (String × α)
  sorted : entries.Pairwise fun a b => a.1 < b.1

namespace NameMap

variable {α : Type}

instance [DecidableEq α] : DecidableEq (NameMap α) := fun a b =>
  if same : a.entries = b.entries then
    isTrue (by cases a; cases b; cases same; rfl)
  else isFalse fun equal => same (equal ▸ rfl)

/-! ## Lists of entries -/

/-- The entries with one more: it takes the place of an entry of the same name, or stands before the
first entry with a greater name. -/
def insertEntry (name : String) (value : α) : List (String × α) → List (String × α)
  | [] => [(name, value)]
  | entry :: rest =>
      if name < entry.1 then (name, value) :: entry :: rest
      else if name = entry.1 then (name, value) :: rest
      else entry :: insertEntry name value rest

/-- An entry after the insertion is the new one or was there before. -/
theorem eq_or_mem_of_mem_insertEntry {name : String} {value : α} {list : List (String × α)}
    {entry : String × α} (member : entry ∈ insertEntry name value list) :
    entry = (name, value) ∨ entry ∈ list := by
  induction list with
  | nil => simpa [insertEntry] using member
  | cons first rest ih =>
      unfold insertEntry at member
      split at member
      · simpa using member
      · split at member
        · rcases List.mem_cons.mp member with new | old
          · exact .inl new
          · exact .inr (List.mem_cons_of_mem _ old)
        · rcases List.mem_cons.mp member with same | later
          · exact .inr (same ▸ List.mem_cons_self)
          · rcases ih later with new | old
            · exact .inl new
            · exact .inr (List.mem_cons_of_mem _ old)

/-- A name that is neither smaller nor equal is greater. -/
theorem lt_of_not_lt_of_ne {a b : String} (notLess : ¬a < b) (different : a ≠ b) : b < a := by
  rcases Classical.em (b < a) with less | notGreater
  · exact less
  · exact absurd (String.le_antisymm (String.not_lt.mp notGreater) (String.not_lt.mp notLess))
      different

/-- Insertion keeps the entries in order. -/
theorem sorted_insertEntry (name : String) (value : α) {list : List (String × α)}
    (sorted : list.Pairwise fun a b => a.1 < b.1) :
    (insertEntry name value list).Pairwise fun a b => a.1 < b.1 := by
  induction list with
  | nil => simp [insertEntry]
  | cons first rest ih =>
      obtain ⟨before, tail⟩ := List.pairwise_cons.mp sorted
      unfold insertEntry
      split
      · rename_i less
        refine List.pairwise_cons.mpr ⟨fun entry member => ?_, sorted⟩
        rcases List.mem_cons.mp member with same | later
        · exact same ▸ less
        · exact String.lt_trans less (before entry later)
      · split
        · rename_i same
          exact List.pairwise_cons.mpr ⟨fun entry member => same ▸ before entry member, tail⟩
        · rename_i notLess different
          refine List.pairwise_cons.mpr ⟨fun entry member => ?_, ih tail⟩
          rcases eq_or_mem_of_mem_insertEntry member with new | old
          · exact new ▸ lt_of_not_lt_of_ne notLess different
          · exact before entry old

/-! ## Operations -/

/-- The map without entries. -/
def empty : NameMap α := ⟨[], .nil⟩

instance : Inhabited (NameMap α) := ⟨empty⟩

/-- The value under a name. -/
def find? (m : NameMap α) (name : String) : Option α :=
  m.entries.lookup name

/-- Whether the map has a value under the name. -/
def contains (m : NameMap α) (name : String) : Bool :=
  (m.find? name).isSome

/-- The map with a value under a name, in place of the value that was there. -/
def insert (m : NameMap α) (name : String) (value : α) : NameMap α :=
  ⟨insertEntry name value m.entries, sorted_insertEntry name value m.sorted⟩

/-- The map without the name. -/
def erase (m : NameMap α) (name : String) : NameMap α :=
  ⟨m.entries.filter fun entry => entry.1 != name, m.sorted.filter _⟩

/-- The map with every value changed into another one, with an eye to its name. -/
def map {β : Type} (f : String → α → β) (m : NameMap α) : NameMap β :=
  ⟨m.entries.map fun entry => (entry.1, f entry.1 entry.2), List.pairwise_map.mpr m.sorted⟩

/-- The map of a list of entries; of several entries of one name the last is kept. -/
def ofList (entries : List (String × α)) : NameMap α :=
  entries.foldl (fun m entry => m.insert entry.1 entry.2) empty

/-- The values, in the order of their names. -/
def values (m : NameMap α) : List α :=
  m.entries.map (·.2)

/-- The names, in order. -/
def names (m : NameMap α) : List String :=
  m.entries.map (·.1)

/-- Whether the map has no entries. -/
def isEmpty (m : NameMap α) : Bool :=
  m.entries.isEmpty

/-! ## What the operations do to `find?` -/

@[simp]
theorem find?_empty (name : String) : (empty : NameMap α).find? name = none := rfl

/-- The entry that comes first decides, or else the rest of the list. -/
theorem lookup_cons_eq (name : String) (entry : String × α) (rest : List (String × α)) :
    (entry :: rest).lookup name = if name = entry.1 then some entry.2 else rest.lookup name := by
  obtain ⟨key, held⟩ := entry
  by_cases same : name = key
  · simp [same]
  · simp [List.lookup_cons, same, beq_false_of_ne same]

theorem lookup_insertEntry_self (name : String) (value : α) (list : List (String × α)) :
    (insertEntry name value list).lookup name = some value := by
  induction list with
  | nil => simp [insertEntry]
  | cons first rest ih =>
      unfold insertEntry
      split
      · simp
      · split
        · simp
        · rename_i different
          rw [lookup_cons_eq, if_neg different, ih]

theorem lookup_insertEntry_of_ne {name other : String} (different : other ≠ name) (value : α)
    (list : List (String × α)) :
    (insertEntry name value list).lookup other = list.lookup other := by
  induction list with
  | nil => simp [insertEntry, lookup_cons_eq, different]
  | cons first rest ih =>
      unfold insertEntry
      split
      · rw [lookup_cons_eq, if_neg different]
      · split
        · rename_i same
          rw [lookup_cons_eq, lookup_cons_eq, if_neg different, if_neg (same ▸ different)]
        · rw [lookup_cons_eq, lookup_cons_eq, ih]

/-- The inserted value is found under its name. -/
@[simp]
theorem find?_insert_self (m : NameMap α) (name : String) (value : α) :
    (m.insert name value).find? name = some value :=
  lookup_insertEntry_self name value m.entries

/-- Insertion changes no other name. -/
theorem find?_insert_of_ne (m : NameMap α) {name other : String} (different : other ≠ name)
    (value : α) : (m.insert name value).find? other = m.find? other :=
  lookup_insertEntry_of_ne different value m.entries

theorem lookup_filter_self (name : String) (list : List (String × α)) :
    (list.filter fun entry => entry.1 != name).lookup name = none := by
  induction list with
  | nil => rfl
  | cons first rest ih =>
      by_cases same : first.1 = name
      · rw [List.filter_cons_of_neg (by simp [same]), ih]
      · rw [List.filter_cons_of_pos (by simp [same]), lookup_cons_eq, if_neg (Ne.symm same), ih]

theorem lookup_filter_of_ne {name other : String} (different : other ≠ name)
    (list : List (String × α)) :
    (list.filter fun entry => entry.1 != name).lookup other = list.lookup other := by
  induction list with
  | nil => rfl
  | cons first rest ih =>
      by_cases same : first.1 = name
      · rw [List.filter_cons_of_neg (by simp [same]), lookup_cons_eq, if_neg (same ▸ different), ih]
      · rw [List.filter_cons_of_pos (by simp [same]), lookup_cons_eq, lookup_cons_eq, ih]

/-- An erased name has no value. -/
@[simp]
theorem find?_erase_self (m : NameMap α) (name : String) : (m.erase name).find? name = none :=
  lookup_filter_self name m.entries

/-- Erasing changes no other name. -/
theorem find?_erase_of_ne (m : NameMap α) {name other : String} (different : other ≠ name) :
    (m.erase name).find? other = m.find? other :=
  lookup_filter_of_ne different m.entries

theorem lookup_map {β : Type} (f : String → α → β) (name : String) (list : List (String × α)) :
    (list.map fun entry => (entry.1, f entry.1 entry.2)).lookup name =
      (list.lookup name).map (f name) := by
  induction list with
  | nil => rfl
  | cons first rest ih =>
      rw [List.map_cons, lookup_cons_eq, lookup_cons_eq, ih]
      by_cases same : name = first.1
      · rw [if_pos same, if_pos same, same]
        rfl
      · rw [if_neg same, if_neg same]

/-- Each name has the changed value. -/
@[simp]
theorem find?_map {β : Type} (f : String → α → β) (m : NameMap α) (name : String) :
    (m.map f).find? name = (m.find? name).map (f name) :=
  lookup_map f name m.entries

/-! ## Equality -/

/-- In an ordered list an entry is found under its name. -/
theorem lookup_eq_some_iff {list : List (String × α)}
    (sorted : list.Pairwise fun a b => a.1 < b.1) {name : String} {value : α} :
    list.lookup name = some value ↔ (name, value) ∈ list := by
  induction list with
  | nil => simp
  | cons first rest ih =>
      obtain ⟨before, tail⟩ := List.pairwise_cons.mp sorted
      rw [lookup_cons_eq]
      by_cases same : name = first.1
      · have absent : (name, value) ∉ rest := fun member =>
          String.lt_irrefl name (by simpa [← same] using before _ member)
        rw [if_pos same, Option.some.injEq, List.mem_cons]
        constructor
        · intro found
          exact .inl (by rw [← found, same])
        · rintro (found | member)
          · rw [← found]
          · exact absurd member absent
      · rw [if_neg same, ih tail, List.mem_cons]
        constructor
        · exact .inr
        · rintro (found | member)
          · exact absurd (by rw [← found]) same
          · exact member

/-- The entries of a map are the pairs of a name and the value under it. -/
theorem mem_entries_iff {m : NameMap α} {name : String} {value : α} :
    (name, value) ∈ m.entries ↔ m.find? name = some value :=
  (lookup_eq_some_iff m.sorted).symm

/-- Ordered lists with the same members are equal. -/
theorem eq_of_sorted_of_mem_iff {first second : List (String × α)}
    (sortedFirst : first.Pairwise fun a b => a.1 < b.1)
    (sortedSecond : second.Pairwise fun a b => a.1 < b.1)
    (same : ∀ entry, entry ∈ first ↔ entry ∈ second) : first = second := by
  induction first generalizing second with
  | nil =>
      cases second with
      | nil => rfl
      | cons entry _ => exact absurd ((same entry).mpr List.mem_cons_self) (by simp)
  | cons a rest ih =>
      cases second with
      | nil => exact absurd ((same a).mp List.mem_cons_self) (by simp)
      | cons b others =>
          obtain ⟨beforeA, tailA⟩ := List.pairwise_cons.mp sortedFirst
          obtain ⟨beforeB, tailB⟩ := List.pairwise_cons.mp sortedSecond
          have heads : a = b := by
            rcases List.mem_cons.mp ((same a).mp List.mem_cons_self) with equal | laterA
            · exact equal
            rcases List.mem_cons.mp ((same b).mpr List.mem_cons_self) with equal | laterB
            · exact equal.symm
            exact absurd (beforeA b laterB) (String.lt_asymm (beforeB a laterA))
          subst heads
          congr 1
          refine ih tailA tailB fun entry => ⟨fun member => ?_, fun member => ?_⟩
          · rcases List.mem_cons.mp ((same entry).mp (List.mem_cons_of_mem _ member)) with
              equal | later
            · exact absurd (equal ▸ beforeA entry member) (String.lt_irrefl _)
            · exact later
          · rcases List.mem_cons.mp ((same entry).mpr (List.mem_cons_of_mem _ member)) with
              equal | later
            · exact absurd (equal ▸ beforeB entry member) (String.lt_irrefl _)
            · exact later

/-- Maps with the same values under the same names are equal. -/
theorem ext_find? {first second : NameMap α}
    (same : ∀ name, first.find? name = second.find? name) : first = second := by
  have entries : first.entries = second.entries :=
    eq_of_sorted_of_mem_iff first.sorted second.sorted fun entry => by
      rw [show entry = (entry.1, entry.2) from rfl, mem_entries_iff, mem_entries_iff, same]
  cases first
  cases second
  cases entries
  rfl

/-- Inserting the value that is there already changes nothing. -/
theorem insert_eq_self {m : NameMap α} {name : String} {value : α}
    (found : m.find? name = some value) : m.insert name value = m := by
  refine ext_find? fun other => ?_
  by_cases same : other = name
  · rw [same, find?_insert_self, found]
  · rw [find?_insert_of_ne _ same]

/-- Erasing a name that has no value changes nothing. -/
theorem erase_eq_self {m : NameMap α} {name : String} (absent : m.find? name = none) :
    m.erase name = m := by
  refine ext_find? fun other => ?_
  by_cases same : other = name
  · rw [same, find?_erase_self, absent]
  · rw [find?_erase_of_ne _ same]

/-- A value that is inserted is changed with the others. -/
theorem map_insert {β : Type} (f : String → α → β) (m : NameMap α) (name : String) (value : α) :
    (m.insert name value).map f = (m.map f).insert name (f name value) := by
  refine ext_find? fun other => ?_
  rw [find?_map]
  by_cases same : other = name
  · subst same
    rw [find?_insert_self, find?_insert_self]
    rfl
  · rw [find?_insert_of_ne _ same, find?_insert_of_ne _ same, find?_map]

theorem map_erase {β : Type} (f : String → α → β) (m : NameMap α) (name : String) :
    (m.erase name).map f = (m.map f).erase name := by
  refine ext_find? fun other => ?_
  rw [find?_map]
  by_cases same : other = name
  · subst same
    rw [find?_erase_self, find?_erase_self]
    rfl
  · rw [find?_erase_of_ne _ same, find?_erase_of_ne _ same, find?_map]

/-! ## Names -/

/-- Other values do not change the names. -/
@[simp]
theorem names_map {β : Type} (f : String → α → β) (m : NameMap α) : (m.map f).names = m.names := by
  simp [names, map]

theorem mem_names {m : NameMap α} {name : String} :
    name ∈ m.names ↔ (m.find? name).isSome = true := by
  rw [Option.isSome_iff_exists]
  constructor
  · intro member
    obtain ⟨entry, among, rfl⟩ := List.mem_map.mp member
    exact ⟨entry.2, mem_entries_iff.mp among⟩
  · rintro ⟨value, found⟩
    exact List.mem_map.mpr ⟨(name, value), mem_entries_iff.mpr found, rfl⟩

/-- Maps with the same names list them in the same order. -/
theorem names_eq_of_mem_iff {β : Type} {first : NameMap α} {second : NameMap β}
    (same : ∀ name, name ∈ first.names ↔ name ∈ second.names) : first.names = second.names := by
  have blank : first.map (fun _ _ => ()) = second.map fun _ _ => () := by
    refine ext_find? fun name => ?_
    have agree := same name
    rw [mem_names, mem_names] at agree
    rw [find?_map, find?_map]
    cases inFirst : first.find? name <;> cases inSecond : second.find? name <;>
      simp_all
  have names := congrArg NameMap.names blank
  rwa [names_map, names_map] at names

end NameMap

end ExpandContract
