import ExpandContract.Json.Basic
import ExpandContract.NameMap

/-!
# Records in JSON

A record is written as an object with one member for each of its fields. It is read from such an
object, in which members that are no fields are ignored and a field must not occur twice, or from an
array of the fields in their order, from which fields at the end may be missing. Either way reading
starts by looking up what the value says about each field; a field that is missing is an error
unless the field has a value of its own for that case.

A map from names is an object with any members, of which the last one of each name counts.
-/

set_option autoImplicit false

namespace ExpandContract.Json

/-- What a value says about the fields of a record, given the names of the fields in order. -/
def record? (fields : List String) : Json → Option (String → Option Json)
  | .object members =>
      if fields.all fun field => members.countP (fun member => member.1 == field) ≤ 1 then
        some fun field => members.lookup field
      else none
  | .array items =>
      if items.length ≤ fields.length then some fun field => (fields.zip items).lookup field
      else none
  | _ => none

/-- A field that has to be given. -/
def required {α : Type} (read : Json → Option α) (field : Option Json) : Option α :=
  field.bind read

/-- A field with a value for the case that it is not given. -/
def withDefault {α : Type} (default : α) (read : Json → Option α) : Option Json → Option α
  | none => some default
  | some value => read value

/-- A field that may be missing or null. -/
def optional {α : Type} (read : Json → Option α) : Option Json → Option (Option α) :=
  withDefault none (nullable? read)

/-- A map from names to values that are read in the same way. -/
def map? {α : Type} (read : Json → Option α) : Json → Option (NameMap α)
  | .object members =>
      (members.mapM fun member => (read member.2).map fun value => (member.1, value)).map
        NameMap.ofList
  | _ => none

/-- The object of a map, its members in the order of the names. -/
def ofMap {α : Type} (write : α → Json) (m : NameMap α) : Json :=
  .object (m.entries.map fun entry => (entry.1, write entry.2))

/-- Whether the members of an object say the same about a field does not depend on their order,
where no name occurs twice. -/
theorem lookup_eq_of_perm {α : Type} {first second : List (String × α)} (same : first.Perm second)
    (distinct : (first.map (·.1)).Nodup) (name : String) :
    first.lookup name = second.lookup name := by
  induction same with
  | nil => rfl
  | cons entry _ ih =>
      rw [NameMap.lookup_cons_eq, NameMap.lookup_cons_eq, ih (List.nodup_cons.mp distinct).2]
  | swap a b rest =>
      simp only [NameMap.lookup_cons_eq]
      have different : b.1 ≠ a.1 := by
        have := (List.nodup_cons.mp distinct).1
        intro equal
        exact this (by simp [equal])
      by_cases isA : name = a.1
      · by_cases isB : name = b.1
        · exact absurd (isB.symm.trans isA) different
        · rw [if_neg isB, if_pos isA, if_pos isA]
      · rw [if_neg isA, if_neg isA]
  | trans firstPerm _ ihFirst ihSecond =>
      rw [ihFirst distinct, ihSecond ((firstPerm.map _).nodup_iff.mp distinct)]

end ExpandContract.Json
