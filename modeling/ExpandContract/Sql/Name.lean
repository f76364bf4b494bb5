/-!
# Names

The server keeps at most 63 bytes of an identifier, so a name that is longer would be stored under
another name. This module says which names the server keeps as they are, and holds the naming
conventions for the objects that a migration in progress owns: the shadow of a column that is being
added, the place where a dropped table waits, triggers, pending constraints and version schemas.

Every name is a fixed text followed by names that the operation itself gives. A later phase of the
operation can so find what its first phase made, whatever happened to the schema in between.
-/

set_option autoImplicit false

namespace ExpandContract.Sql

/-! ## Names the server keeps -/

/-- The number of bytes of an identifier that the server keeps. -/
def maxIdentifierBytes : Nat := 63

/-- Why the server would not keep a name as it is. -/
inductive NameFault where
  | empty
  | tooLong
  | holdsNul
deriving DecidableEq, Repr

/-- The reason that a message gives for a fault. -/
def NameFault.reason : NameFault → String
  | .empty => "identifier is empty"
  | .tooLong => "identifier is longer than 63 bytes"
  | .holdsNul => "identifier contains a NUL byte"

/-- The first fault of a name, if it has one. -/
def nameFault? (name : String) : Option NameFault :=
  if name.isEmpty then some .empty
  else if maxIdentifierBytes < name.utf8ByteSize then some .tooLong
  else if name.toList.contains (Char.ofNat 0) then some .holdsNul
  else none

/-- A name without a fault is not empty and is short enough to be kept whole. -/
theorem utf8ByteSize_le_of_nameFault? {name : String} (faultless : nameFault? name = none) :
    name.utf8ByteSize ≤ maxIdentifierBytes := by
  unfold nameFault? at faultless
  split at faultless
  · simp at faultless
  · split at faultless
    · simp at faultless
    · omega

/-! ## Cutting a name to what the server keeps -/

/-- The longest beginning of a text that has at most the given number of bytes. A character whose
bytes do not all fit is left out together with all that follows it. -/
def takeBytes : Nat → List Char → List Char
  | _, [] => []
  | limit, c :: rest =>
      if c.utf8Size ≤ limit then c :: takeBytes (limit - c.utf8Size) rest else []

/-- What is kept of a text is a beginning of it. -/
theorem takeBytes_prefix (limit : Nat) (text : List Char) : takeBytes limit text <+: text := by
  induction text generalizing limit with
  | nil => exact List.nil_prefix
  | cons c rest ih =>
      unfold takeBytes
      split
      · exact (List.prefix_cons_inj c).mpr (ih _)
      · exact List.nil_prefix

/-- What is kept of a text fits. -/
theorem utf8ByteSize_takeBytes_le (limit : Nat) (text : List Char) :
    (String.ofList (takeBytes limit text)).utf8ByteSize ≤ limit := by
  induction text generalizing limit with
  | nil => simp [takeBytes]
  | cons c rest ih =>
      unfold takeBytes
      split
      · rename_i fits
        have := ih (limit - c.utf8Size)
        have parts : String.ofList (c :: takeBytes (limit - c.utf8Size) rest) =
            String.singleton c ++ String.ofList (takeBytes (limit - c.utf8Size) rest) := by
          rw [String.singleton_eq_ofList, ← String.ofList_append]
          rfl
        rw [parts, String.utf8ByteSize_append, String.utf8ByteSize_singleton]
        omega
      · simp

/-- A text that fits is kept whole. -/
theorem takeBytes_eq_self {limit : Nat} {text : List Char}
    (fits : (String.ofList text).utf8ByteSize ≤ limit) : takeBytes limit text = text := by
  induction text generalizing limit with
  | nil => rfl
  | cons c rest ih =>
      have parts : String.ofList (c :: rest) = String.singleton c ++ String.ofList rest := by
        rw [String.singleton_eq_ofList, ← String.ofList_append]
        rfl
      rw [parts, String.utf8ByteSize_append, String.utf8ByteSize_singleton] at fits
      rw [takeBytes, if_pos (by omega), ih (by omega)]

/-- A name as the server stores it. -/
def storedName (name : String) : String :=
  String.ofList (takeBytes maxIdentifierBytes name.toList)

/-- A name without a fault is stored as it is. -/
theorem storedName_eq_self {name : String} (faultless : nameFault? name = none) :
    storedName name = name := by
  have fits : (String.ofList name.toList).utf8ByteSize ≤ maxIdentifierBytes := by
    rw [String.ofList_toList]
    exact utf8ByteSize_le_of_nameFault? faultless
  rw [storedName, takeBytes_eq_self fits, String.ofList_toList]

/-! ## Cutting a name before it is sent -/

/-- The last place in a text, at most so many bytes in, that is not inside of a character. The
search goes back byte by byte, to the beginning of the text at the latest. -/
def lastBoundary (text : String) : Nat → text.Pos
  | 0 => text.startPos
  | bytes + 1 =>
      if between : String.Pos.Raw.IsValid text ⟨bytes + 1⟩ then ⟨⟨bytes + 1⟩, between⟩
      else lastBoundary text bytes

/-- A name without what the server would not keep of it. -/
def cutName (name : String) : String :=
  if maxIdentifierBytes < name.utf8ByteSize then
    (name.sliceTo (lastBoundary name maxIdentifierBytes)).copy
  else name

/-! ## Objects of a migration in progress -/

/-- The name under which a column exists until the migration that adds it is complete. -/
def shadowColumnName (column : String) : String :=
  "_pgshift_new_" ++ column

/-- The name under which a dropped table waits until the migration that drops it is complete. -/
def parkedName (name : String) : String :=
  "_pgshift_del_" ++ name

/-- The name of the trigger, and of its function, that an operation installs on a table. The key
comes from the operation alone. -/
def syncTriggerName (table key : String) : String :=
  "_pgshift_trigger_" ++ table ++ "_" ++ key

/-- The name of the check that stands in for `NOT NULL` on a column that is being added. -/
def pendingNotNullName (column : String) : String :=
  "_pgshift_not_null_" ++ column

/-- The name of the user's check on a column that is being added. -/
def pendingCheckName (column : String) : String :=
  "_pgshift_check_" ++ column

/-- The name that the user's check has once the column is in place. -/
def finalCheckName (table column : String) : String :=
  table ++ "_" ++ column ++ "_check"

/-- The name of the schema that holds the views of one version. -/
def versionSchemaName (schema version : String) : String :=
  schema ++ "_" ++ version

end ExpandContract.Sql
