import ExpandContract.Sql.Name
import ExpandContract.Sql.Quoted

/-!
# Changes to a database

The statements that change tables, columns, indexes, triggers and version schemas, as data. A change
says which objects it is about by their names; `text` writes it as SQL. What a sequence of changes
does to a database can so be followed without reading SQL, except for the SQL that a user supplies,
about which nothing is known.

Expressions and types are texts of the user, and stand in a change as they are to be sent.
-/

set_option autoImplicit false

namespace ExpandContract.Sql

/-! ## Parts of changes -/

/-- A column as a table definition describes it. -/
structure ColumnSpec where
  name : String
  dataType : String
  notNull : Bool
  default : Option String
  unique : Bool
  check : Option String
deriving DecidableEq, Repr

/-- The description of a column. -/
def ColumnSpec.text (c : ColumnSpec) : String :=
  quotedName c.name ++ " " ++ c.dataType ++ (if c.notNull then " NOT NULL" else "") ++
    (match c.default with
      | some expression => " DEFAULT " ++ expression
      | none => "") ++
    (if c.unique then " UNIQUE" else "") ++
    (match c.check with
      | some expression => " CHECK (" ++ expression ++ ")"
      | none => "")

/-- A check that holds for new rows at once, and for the others when it has been validated. -/
structure PendingCheck where
  name : String
  expression : String
deriving DecidableEq, Repr

/-- The clause that adds a pending check. -/
def PendingCheck.text (c : PendingCheck) : String :=
  "ADD CONSTRAINT " ++ quotedName c.name ++ " CHECK (" ++ c.expression ++ ") NOT VALID"

/-- A trigger that computes a column whenever a row is written. -/
structure SyncTrigger where
  schema : String
  table : String
  /-- What the trigger and its function are named after. -/
  key : String
  /-- The column that is computed. -/
  target : String
  expression : String
  versionSchema : String
  /-- Whether it fires for the writes made through the version schema, or for all the others. -/
  fromNewVersion : Bool
deriving DecidableEq, Repr

/-- The statements that install a trigger, in place of one of the same name. -/
def SyncTrigger.createText (t : SyncTrigger) : String :=
  let name := syncTriggerName t.table t.key
  let function := qualifiedName t.schema name
  let trigger := quotedName name
  let table := qualifiedName t.schema t.table
  "CREATE OR REPLACE FUNCTION " ++ function ++
    "() RETURNS TRIGGER LANGUAGE plpgsql AS $pgshift$\n" ++
  "DECLARE\n" ++
  "  search_path text;\n" ++
  "BEGIN\n" ++
  "  SELECT current_setting INTO search_path FROM current_setting('search_path');\n" ++
  "  IF search_path " ++ (if t.fromNewVersion then "=" else "<>") ++ " " ++
    quotedText t.versionSchema ++ " THEN\n" ++
  "    NEW." ++ quotedName t.target ++ " := (SELECT " ++ t.expression ++
    " FROM (SELECT NEW.*) AS n);\n" ++
  "  END IF;\n" ++
  "  RETURN NEW;\n" ++
  "END;\n" ++
  "$pgshift$;\n" ++
  "DROP TRIGGER IF EXISTS " ++ trigger ++ " ON " ++ table ++ ";\n" ++
  "CREATE TRIGGER " ++ trigger ++ " BEFORE UPDATE OR INSERT ON " ++ table ++ "\n" ++
  "  FOR EACH ROW EXECUTE PROCEDURE " ++ function ++ "();"

/-- The statements that remove a trigger and its function. -/
def dropSyncTriggerText (schema table key : String) : String :=
  let name := syncTriggerName table key
  "DROP TRIGGER IF EXISTS " ++ quotedName name ++ " ON " ++ qualifiedName schema table ++
    "; DROP FUNCTION IF EXISTS " ++ qualifiedName schema name ++ "();"

/-- A view of a version schema: a table under its exposed name, with its columns. -/
structure View where
  /-- The exposed name. -/
  name : String
  /-- The physical table. -/
  table : String
  /-- The physical name and the exposed name of each column. -/
  columns : List (String × String)
deriving DecidableEq, Repr

/-- The schema in which the views of one version live. -/
structure VersionSchema where
  name : String
  /-- The schema of the physical tables. -/
  source : String
  views : List View
  /-- Whether the views are read with the rights of the reader. -/
  securityInvoker : Bool
deriving DecidableEq, Repr

/-- The statement that drops a version schema with all that is in it. -/
def dropVersionSchemaText (name : String) : String :=
  "DROP SCHEMA IF EXISTS " ++ quotedName name ++ " CASCADE"

/-- The statement that creates one view of a version schema. -/
def VersionSchema.viewText (v : VersionSchema) (view : View) : String :=
  "CREATE VIEW " ++ qualifiedName v.name view.name ++
    (if v.securityInvoker then " WITH (security_invoker = true)" else "") ++ " AS SELECT " ++
    joined ", " (view.columns.map fun column =>
      quotedName column.1 ++ " AS " ++ quotedName column.2) ++
    " FROM " ++ qualifiedName v.source view.table

/-- The statements that make a version schema anew. -/
def VersionSchema.text (v : VersionSchema) : String :=
  joined "; " (dropVersionSchemaText v.name :: ("CREATE SCHEMA " ++ quotedName v.name) ::
    v.views.map v.viewText)

/-! ## Changes -/

/-- A statement that changes the database. -/
inductive Change where
  /-- Creates a table; `comments` are the comments of its columns. -/
  | createTable (schema table : String) (columns : List ColumnSpec) (key : List String)
      (comment : Option String) (comments : List (String × String))
  /-- Drops a table, if there is one of that name. -/
  | dropTable (schema table : String)
  /-- Renames a table; with `ifExists` it may be missing. -/
  | renameTable (schema table target : String) (ifExists : Bool)
  /-- Adds a column, with checks that are not validated yet. -/
  | addColumn (schema table : String) (column : ColumnSpec) (checks : List PendingCheck)
  /-- Drops columns, those that exist; with `ifExists` the table may be missing. -/
  | dropColumns (schema table : String) (columns : List String) (ifExists : Bool)
  | renameColumn (schema table source target : String)
  /-- Validates a pending check. -/
  | validateConstraint (schema table constraint : String)
  /-- Forbids null in a column, and drops the check that stood in for that. -/
  | setNotNull (schema table column constraint : String)
  | renameConstraint (schema table source target : String)
  | createSyncTrigger (trigger : SyncTrigger)
  | dropSyncTrigger (schema table key : String)
  /-- Creates an index without blocking writes, unless there is one of that name. -/
  | createIndex (schema table index : String) (columns : List String) (unique : Bool)
  /-- Drops an index without blocking writes, if there is one of that name. -/
  | dropIndex (schema index : String)
  /-- Makes a version schema anew. -/
  | makeVersionSchema (version : VersionSchema)
  /-- Drops a version schema, if there is one of that name. -/
  | dropVersionSchema (name : String)
  /-- Runs SQL of the user. -/
  | raw (sql : String)
deriving DecidableEq, Repr

/-- The beginning of a statement that alters a table. -/
def alterTable (schema table : String) : String :=
  "ALTER TABLE " ++ qualifiedName schema table ++ " "

/-- The beginning of a statement that alters a table, if there is one of that name. -/
def alterTableIfExists (schema table : String) : String :=
  "ALTER TABLE IF EXISTS " ++ qualifiedName schema table ++ " "

/-- The SQL of a change. -/
def Change.text : Change → String
  | .createTable schema table columns key comment comments =>
      "CREATE TABLE " ++ qualifiedName schema table ++ " (" ++
        joined ", " (columns.map ColumnSpec.text ++
          if key.isEmpty then [] else ["PRIMARY KEY (" ++ quotedNames key ++ ")"]) ++ ")" ++
        (match comment with
          | some comment =>
              "; COMMENT ON TABLE " ++ qualifiedName schema table ++ " IS " ++ quotedText comment
          | none => "") ++
        joined "" (comments.map fun entry =>
          "; COMMENT ON COLUMN " ++ qualifiedName schema table ++ "." ++ quotedName entry.1 ++
            " IS " ++ quotedText entry.2)
  | .dropTable schema table => "DROP TABLE IF EXISTS " ++ qualifiedName schema table
  | .renameTable schema table target ifExists =>
      (if ifExists then alterTableIfExists schema table else alterTable schema table) ++
        "RENAME TO " ++ quotedName target
  | .addColumn schema table column checks =>
      alterTable schema table ++
        joined ", " (("ADD COLUMN " ++ column.text) :: checks.map PendingCheck.text)
  | .dropColumns schema table columns ifExists =>
      (if ifExists then alterTableIfExists schema table else alterTable schema table) ++
        joined ", " (columns.map fun column => "DROP COLUMN IF EXISTS " ++ quotedName column)
  | .renameColumn schema table source target =>
      alterTable schema table ++ "RENAME COLUMN " ++ quotedName source ++ " TO " ++
        quotedName target
  | .validateConstraint schema table constraint =>
      alterTable schema table ++ "VALIDATE CONSTRAINT " ++ quotedName constraint
  | .setNotNull schema table column constraint =>
      alterTable schema table ++ "ALTER COLUMN " ++ quotedName column ++
        " SET NOT NULL, DROP CONSTRAINT IF EXISTS " ++ quotedName constraint
  | .renameConstraint schema table source target =>
      alterTable schema table ++ "RENAME CONSTRAINT " ++ quotedName source ++ " TO " ++
        quotedName target
  | .createSyncTrigger trigger => trigger.createText
  | .dropSyncTrigger schema table key => dropSyncTriggerText schema table key
  | .createIndex schema table index columns unique =>
      "CREATE " ++ (if unique then "UNIQUE " else "") ++ "INDEX CONCURRENTLY IF NOT EXISTS " ++
        quotedName index ++ " ON " ++ qualifiedName schema table ++
        " (" ++ quotedNames columns ++ ")"
  | .dropIndex schema index => "DROP INDEX CONCURRENTLY IF EXISTS " ++ qualifiedName schema index
  | .makeVersionSchema version => version.text
  | .dropVersionSchema name => dropVersionSchemaText name
  | .raw sql => sql

end ExpandContract.Sql
