import ExpandContract.Text.Basic

/-!
# Transforming the SQL of users

Expressions and statements that a user writes into a migration may be changed before they are
sent, or refused with a reason. How is a parameter of a session. The plain transformer leaves every
text as it is; another one refuses texts that hold a forbidden part and replaces a part by another.
-/

set_option autoImplicit false

namespace ExpandContract.Sql

/-- What to send in place of a text of the user, or why it is refused. -/
structure Transformer where
  transform : String → Except String String

namespace Transformer

/-- Leaves every text as it is. -/
def plain : Transformer where
  transform sql := .ok sql

/-- Refuses the texts that hold a forbidden part, and replaces one part by another in the rest. -/
def ofRules (forbidden : Option String) (replacement : Option (String × String)) : Transformer where
  transform sql :=
    match forbidden with
    | some part =>
        if Text.occursIn part.toList sql.toList then .error (part ++ " is not allowed")
        else .ok (replaced sql)
    | none => .ok (replaced sql)
where
  replaced (sql : String) : String :=
    match replacement with
    | some (source, target) =>
        String.ofList (Text.replaceAll source.toList target.toList sql.toList)
    | none => sql

end Transformer

end ExpandContract.Sql
