import ExpandContract.Schema.Json

/-!
# The order of members

A database that keeps JSON by its content may hand out the members of an object in another order
than they were written. `Json.Reorders` relates a value to those that differ from it in no other
way, at any depth. Where no name occurs twice, a record and a map are read from the other value as
from the first one, since reading looks members up by their names.
-/

set_option autoImplicit false

namespace ExpandContract

namespace Json

mutual

/-- Whether the second value is the first one with the members of objects in another order. -/
def Reorders : Json → Json → Prop
  | .null, other => other = .null
  | .bool b, other => other = .bool b
  | .number n, other => other = .number n
  | .string text, other => other = .string text
  | .array items, other => ∃ others, ReordersItems items others ∧ other = .array others
  | .object members, other =>
      ∃ between others, ReordersMembers members between ∧ between.Perm others ∧
        other = .object others
  | .unreadable, other => other = .unreadable

/-- `Reorders` item by item. -/
def ReordersItems : List Json → List Json → Prop
  | [], others => others = []
  | item :: rest, others =>
      ∃ other more, Reorders item other ∧ ReordersItems rest more ∧ others = other :: more

/-- `Reorders` member by member; the names stay. -/
def ReordersMembers : List (String × Json) → List (String × Json) → Prop
  | [], others => others = []
  | (name, value) :: rest, others =>
      ∃ other more, Reorders value other ∧ ReordersMembers rest more ∧
        others = (name, other) :: more

end

mutual

/-- The order may stay as it is. -/
theorem reorders_refl : ∀ v : Json, v.Reorders v
  | .null => by rw [Reorders]
  | .bool _ => by rw [Reorders]
  | .number _ => by rw [Reorders]
  | .string _ => by rw [Reorders]
  | .array items => by
      rw [Reorders]
      exact ⟨items, reordersItems_refl items, rfl⟩
  | .object members => by
      rw [Reorders]
      exact ⟨members, members, reordersMembers_refl members, .refl _, rfl⟩
  | .unreadable => by rw [Reorders]

theorem reordersItems_refl : ∀ items : List Json, ReordersItems items items
  | [] => by rw [ReordersItems]
  | item :: rest => by
      rw [ReordersItems]
      exact ⟨item, rest, reorders_refl item, reordersItems_refl rest, rfl⟩

theorem reordersMembers_refl : ∀ members : List (String × Json), ReordersMembers members members
  | [] => by rw [ReordersMembers]
  | (_, value) :: rest => by
      rw [ReordersMembers]
      exact ⟨value, rest, reorders_refl value, reordersMembers_refl rest, rfl⟩

end

/-! ## Values without members -/

@[simp]
theorem reorders_string {text : String} {other : Json} :
    (Json.string text).Reorders other ↔ other = .string text := by
  rw [Reorders]

@[simp]
theorem reorders_bool {b : Bool} {other : Json} :
    (Json.bool b).Reorders other ↔ other = .bool b := by
  rw [Reorders]

@[simp]
theorem reorders_int {n : Int} {other : Json} : (int n).Reorders other ↔ other = int n := by
  rw [int, Reorders]

@[simp]
theorem reorders_optString {text : Option String} {other : Json} :
    (optString text).Reorders other ↔ other = optString text := by
  cases text <;> rw [optString, Reorders]

/-- An object of one member has no other order. -/
theorem reorders_single {name : String} {value other : Json} :
    (Json.object [(name, value)]).Reorders other ↔
      ∃ inside, value.Reorders inside ∧ other = .object [(name, inside)] := by
  rw [Reorders]
  simp only [ReordersMembers]
  constructor
  · rintro ⟨_, others, ⟨inside, _, same, rfl, rfl⟩, order, rfl⟩
    exact ⟨inside, same, by rw [order.singleton_eq]⟩
  · rintro ⟨inside, same, rfl⟩
    exact ⟨_, _, ⟨inside, [], same, rfl, rfl⟩, .refl _, rfl⟩

/-- The value with its members from the last one to the first, if it is an object. -/
def reversed : Json → Json
  | .object members => .object members.reverse
  | v => v

theorem reorders_reversed (v : Json) : v.Reorders v.reversed := by
  cases v with
  | object members =>
      rw [Reorders]
      exact ⟨members, _, reordersMembers_refl members, (List.reverse_perm members).symm, rfl⟩
  | _ => exact reorders_refl _

/-! ## Lists -/

/-- The items of a list are read in their order. -/
theorem list?_of_reorders {α : Type} {read : Json → Option α} {write : α → Json}
    (back : ∀ value other, (write value).Reorders other → read other = some value)
    (values : List α) {other : Json} (same : (Json.array (values.map write)).Reorders other) :
    list? read other = some values := by
  rw [Reorders] at same
  obtain ⟨others, same, rfl⟩ := same
  rw [list?]
  induction values generalizing others with
  | nil =>
      cases same
      rfl
  | cons value rest ih =>
      obtain ⟨first, more, sameFirst, sameMore, rfl⟩ := same
      rw [List.mapM_cons, back value first sameFirst, ih more sameMore]
      rfl

@[simp]
theorem reorders_strings {texts : List String} {other : Json} :
    (strings texts).Reorders other ↔ other = strings texts := by
  have items (others : List Json) :
      ReordersItems (texts.map .string) others ↔ others = texts.map .string := by
    induction texts generalizing others with
    | nil => rw [List.map_nil, ReordersItems]
    | cons text rest ih => simp [ReordersItems, ih]
  rw [strings, Reorders]
  simp [items]

/-! ## Records -/

/-- In an object whose names differ, a name has the value that stands with it. -/
theorem lookup_of_mem {members : List (String × Json)} (distinct : (members.map (·.1)).Nodup)
    {member : String × Json} (among : member ∈ members) :
    members.lookup member.1 = some member.2 := by
  induction members with
  | nil => cases among
  | cons first rest ih =>
      obtain ⟨notAgain, others⟩ := List.nodup_cons.mp distinct
      rw [NameMap.lookup_cons_eq]
      rcases List.mem_cons.mp among with rfl | among
      · rw [if_pos rfl]
      · have different : member.1 ≠ first.1 := by
          intro same
          exact notAgain (List.mem_map.mpr ⟨member, among, same⟩)
        rw [if_neg different, ih others among]

theorem lookup_of_notMem {members : List (String × Json)} {name : String}
    (absent : name ∉ members.map (·.1)) : members.lookup name = none := by
  induction members with
  | nil => rfl
  | cons first rest ih =>
      rw [List.map_cons, List.mem_cons, not_or] at absent
      rw [NameMap.lookup_cons_eq, if_neg absent.1, ih absent.2]

theorem names_of_reordersMembers {members others : List (String × Json)}
    (same : ReordersMembers members others) : others.map (·.1) = members.map (·.1) := by
  induction members generalizing others with
  | nil =>
      cases same
      rfl
  | cons member rest ih =>
      obtain ⟨other, more, -, sameMore, rfl⟩ := same
      rw [List.map_cons, List.map_cons, ih sameMore]

theorem exists_mem_of_reordersMembers {members others : List (String × Json)}
    (same : ReordersMembers members others) {member : String × Json} (among : member ∈ members) :
    ∃ other, (member.1, other) ∈ others ∧ member.2.Reorders other := by
  induction members generalizing others with
  | nil => cases among
  | cons first rest ih =>
      obtain ⟨other, more, sameFirst, sameMore, rfl⟩ := same
      rcases List.mem_cons.mp among with rfl | among
      · exact ⟨other, List.mem_cons_self, sameFirst⟩
      · obtain ⟨found, among, sameFound⟩ := ih sameMore among
        exact ⟨found, List.mem_cons_of_mem _ among, sameFound⟩

/-- A record is read from an object whose names differ, in whatever order. What is read depends on
nothing but the values that stand with the names, so the names need not be compared again. -/
theorem record?_bind_of_reorders {α : Type} {fields : List String}
    {members : List (String × Json)} {other : Json} {use : (String → Option Json) → Option α}
    {result : Option α} (same : (Json.object members).Reorders other)
    (distinct : (members.map (·.1)).Nodup)
    (reads : ∀ said,
      (∀ member ∈ members, ∃ value, said member.1 = some value ∧ member.2.Reorders value) →
      (∀ name, name ∉ members.map (·.1) → said name = none) → use said = result) :
    (record? fields other >>= use) = result := by
  rw [Reorders] at same
  obtain ⟨between, others, same, order, rfl⟩ := same
  have names : (others.map (·.1)).Perm (members.map (·.1)) := by
    rw [← names_of_reordersMembers same]
    exact (order.map _).symm
  have distinctOthers : (others.map (·.1)).Nodup := names.nodup_iff.mpr distinct
  have once : (fields.all fun field =>
      others.countP (fun member => member.1 == field) ≤ 1) = true := by
    rw [List.all_eq_true]
    intro field _
    have counted : others.countP (fun member => member.1 == field) =
        (others.map (·.1)).count field := by
      rw [List.count, List.countP_map]
      rfl
    rw [counted]
    exact decide_eq_true (List.nodup_iff_count.mp distinctOthers field)
  rw [record?, if_pos once]
  apply reads
  · intro member among
    obtain ⟨value, amongBetween, sameValue⟩ := exists_mem_of_reordersMembers same among
    have amongOthers := order.mem_iff.mp amongBetween
    exact ⟨value, lookup_of_mem distinctOthers amongOthers, sameValue⟩
  · intro name absent
    exact lookup_of_notMem fun present => absent (names.mem_iff.mp present)

/-- A field that has been written is read from whatever stands with its name. -/
theorem required_of_reorders {α : Type} {read : Json → Option α} {value : α} {written : Json}
    {field : Option Json} (back : ∀ other, written.Reorders other → read other = some value)
    (told : ∃ other, field = some other ∧ written.Reorders other) :
    required read field = some value := by
  obtain ⟨other, rfl, same⟩ := told
  exact back other same

theorem withDefault_of_reorders {α : Type} {default : α} {read : Json → Option α} {value : α}
    {written : Json} {field : Option Json}
    (back : ∀ other, written.Reorders other → read other = some value)
    (told : ∃ other, field = some other ∧ written.Reorders other) :
    withDefault default read field = some value := by
  obtain ⟨other, rfl, same⟩ := told
  exact back other same

end Json

/-! ## Maps -/

namespace NameMap

variable {α : Type}

/-- Insertions change no name but those of the entries. -/
theorem find?_foldl_insert_of_notMem {name : String} {entries : List (String × α)}
    (other : ∀ entry ∈ entries, entry.1 ≠ name) (m : NameMap α) :
    (entries.foldl (fun m entry => m.insert entry.1 entry.2) m).find? name = m.find? name := by
  induction entries generalizing m with
  | nil => rfl
  | cons entry rest ih =>
      rw [List.foldl_cons, ih (fun later member => other later (List.mem_cons_of_mem _ member)),
        find?_insert_of_ne m (other entry List.mem_cons_self).symm]

/-- Inserting entries of different names has the effect of putting them before the map. -/
theorem find?_foldl_insert {entries : List (String × α)} (distinct : (entries.map (·.1)).Nodup)
    (m : NameMap α) (name : String) :
    (entries.foldl (fun m entry => m.insert entry.1 entry.2) m).find? name =
      (entries.lookup name).or (m.find? name) := by
  induction entries generalizing m with
  | nil => rfl
  | cons entry rest ih =>
      obtain ⟨notAgain, tail⟩ := List.nodup_cons.mp distinct
      rw [List.foldl_cons, lookup_cons_eq]
      by_cases same : name = entry.1
      · rw [if_pos same, Option.some_or, find?_foldl_insert_of_notMem, same, find?_insert_self]
        intro later member equal
        exact notAgain (List.mem_map.mpr ⟨later, member, equal.trans same⟩)
      · rw [if_neg same, ih tail, find?_insert_of_ne m same]

theorem nodup_names (m : NameMap α) : (m.entries.map (·.1)).Nodup :=
  List.pairwise_map.mpr (m.sorted.imp fun {a b} before same => by
    rw [same] at before
    exact String.lt_irrefl _ before)

/-- A map is the map of its entries, in whatever order. -/
theorem ofList_of_perm {m : NameMap α} {entries : List (String × α)}
    (order : m.entries.Perm entries) : ofList entries = m := by
  have names : (entries.map (·.1)).Nodup := (order.map _).nodup_iff.mp m.nodup_names
  refine ext_find? fun name => ?_
  rw [ofList, find?_foldl_insert names, find?_empty, Option.or_none, find?,
    Json.lookup_eq_of_perm order m.nodup_names]

end NameMap

namespace Json

theorem mapM_cons_eq_some {α β : Type} {read : β → Option α} {item : β} {rest : List β}
    {values : List α} :
    (item :: rest).mapM read = some values ↔
      ∃ value, read item = some value ∧ ∃ more, rest.mapM read = some more ∧
        value :: more = values := by
  simp only [List.mapM_cons, Option.bind_eq_bind, Option.bind_eq_some_iff, Option.pure_def,
    Option.some.injEq]

/-- What is read of a list in one order is read of it in another, in that order. -/
theorem exists_mapM_of_perm {α β : Type} {read : β → Option α} {first second : List β}
    (order : first.Perm second) {values : List α} (found : first.mapM read = some values) :
    ∃ others, second.mapM read = some others ∧ values.Perm others := by
  induction order generalizing values with
  | nil => exact ⟨values, found, .refl _⟩
  | cons item _ ih =>
      obtain ⟨value, readItem, rest, readRest, rfl⟩ := mapM_cons_eq_some.mp found
      obtain ⟨others, readOthers, order⟩ := ih readRest
      exact ⟨value :: others, mapM_cons_eq_some.mpr ⟨value, readItem, others, readOthers, rfl⟩,
        order.cons value⟩
  | swap a b rest =>
      obtain ⟨first, readB, tail, readTail, rfl⟩ := mapM_cons_eq_some.mp found
      obtain ⟨second, readA, others, readRest, rfl⟩ := mapM_cons_eq_some.mp readTail
      have readSwapped := mapM_cons_eq_some.mpr ⟨first, readB, others, readRest, rfl⟩
      exact ⟨second :: first :: others,
        mapM_cons_eq_some.mpr ⟨second, readA, first :: others, readSwapped, rfl⟩, .swap _ _ _⟩
  | trans _ _ ihFirst ihSecond =>
      obtain ⟨between, readBetween, orderFirst⟩ := ihFirst found
      obtain ⟨others, readOthers, orderSecond⟩ := ihSecond readBetween
      exact ⟨others, readOthers, orderFirst.trans orderSecond⟩

theorem mapM_of_reordersMembers {α : Type} {read : Json → Option α} {write : α → Json}
    (back : ∀ value other, (write value).Reorders other → read other = some value)
    (entries : List (String × α)) {others : List (String × Json)}
    (same : ReordersMembers (entries.map fun entry => (entry.1, write entry.2)) others) :
    others.mapM (fun member => (read member.2).map fun value => (member.1, value)) =
      some entries := by
  induction entries generalizing others with
  | nil =>
      cases same
      rfl
  | cons entry rest ih =>
      obtain ⟨value, more, sameValue, sameMore, rfl⟩ := same
      rw [List.mapM_cons, back entry.2 value sameValue, ih sameMore]
      rfl

/-- A map is read from its members in whatever order. -/
theorem map?_of_reorders {α : Type} {read : Json → Option α} {write : α → Json}
    (back : ∀ value other, (write value).Reorders other → read other = some value)
    (m : NameMap α) {other : Json} (same : (ofMap write m).Reorders other) :
    map? read other = some m := by
  rw [ofMap, Reorders] at same
  obtain ⟨between, others, same, order, rfl⟩ := same
  have readBetween := mapM_of_reordersMembers back m.entries same
  obtain ⟨entries, readOthers, orderEntries⟩ := exists_mapM_of_perm order readBetween
  rw [map?, readOthers, Option.map_some, NameMap.ofList_of_perm orderEntries]

end Json

end ExpandContract
