import ExpandContract.Sql.Name
import ExpandContract.Sql.Quoted
import ExpandContract.Text.Basic

/-!
# The script that makes the ledger

The ledger lives in a schema of its own. The script creates that schema, the table of the
migrations, the functions by which the ledger is asked, and two event triggers that record the
changes which other programs make. Running it again changes nothing.

The script is a template with places for the name of the state schema and for the names of the event
triggers, each both as an identifier and as a literal. The places are filled one after the other, in
the text as the fillings before have left it.
-/

set_option autoImplicit false

namespace ExpandContract.Ledger

/-! ## Event triggers -/

/-- The name of an event trigger, which may be longer than what the server keeps. -/
def fullTriggerName (event stateSchema : String) : String :=
  "pgshift_handle_" ++ event ++ "_" ++ stateSchema

/-- The name of an event trigger, cut to what the server keeps of it: the script looks for the name
under which the trigger was stored. -/
def captureTriggerName (event stateSchema : String) : String :=
  Sql.cutName (fullTriggerName event stateSchema)

/-! ## The template -/

/-- The lines of the template. A place is the name of what fills it, in two pairs of braces. -/
def scriptTemplate : List String :=
  ["-- pgshift state schema.",
    "--",
    "-- \x7b\x7bstate_schema\x7d\x7d is replaced with the quoted state schema name and",
    "-- \x7b\x7bstate_schema_literal\x7d\x7d with the same name as a string literal.",
    "",
    "CREATE SCHEMA IF NOT EXISTS \x7b\x7bstate_schema\x7d\x7d;",
    "",
    "CREATE TABLE IF NOT EXISTS \x7b\x7bstate_schema\x7d\x7d.migrations (",
    "    schema NAME NOT NULL,",
    "    name TEXT NOT NULL,",
    "    migration JSONB NOT NULL,",
    "    created_at TIMESTAMP WITH TIME ZONE NOT NULL DEFAULT current_timestamp,",
    "    updated_at TIMESTAMP WITH TIME ZONE NOT NULL DEFAULT current_timestamp,",
    "    parent TEXT,",
    "    done BOOLEAN NOT NULL DEFAULT false,",
    "    resulting_schema JSONB NOT NULL DEFAULT '\x7b\x7d'::jsonb,",
    "    migration_type VARCHAR(32) NOT NULL DEFAULT 'pgroll'",
    "        CONSTRAINT migration_type_check CHECK (migration_type IN ('pgroll', 'inferred', 'baseline')),",
    "",
    "    PRIMARY KEY (schema, name),",
    "    FOREIGN KEY (schema, parent) REFERENCES \x7b\x7bstate_schema\x7d\x7d.migrations (schema, name)",
    ");",
    "",
    "-- At most one in-progress migration per schema",
    "CREATE UNIQUE INDEX IF NOT EXISTS only_one_active",
    "    ON \x7b\x7bstate_schema\x7d\x7d.migrations (schema) WHERE done = false;",
    "",
    "-- A single root per schema",
    "CREATE UNIQUE INDEX IF NOT EXISTS only_first_migration_without_parent",
    "    ON \x7b\x7bstate_schema\x7d\x7d.migrations (schema) WHERE parent IS NULL;",
    "",
    "-- No two migrations share a parent, so history is a list",
    "CREATE UNIQUE INDEX IF NOT EXISTS history_is_linear",
    "    ON \x7b\x7bstate_schema\x7d\x7d.migrations (schema, parent);",
    "",
    "CREATE OR REPLACE FUNCTION \x7b\x7bstate_schema\x7d\x7d.is_active_migration_period(schemaname NAME)",
    "    RETURNS boolean",
    "    LANGUAGE SQL STABLE",
    "    AS $$",
    "    SELECT EXISTS (",
    "        SELECT 1 FROM \x7b\x7bstate_schema\x7d\x7d.migrations",
    "        WHERE schema = schemaname AND done = false",
    "    )",
    "$$;",
    "",
    "-- The migration with no children",
    "CREATE OR REPLACE FUNCTION \x7b\x7bstate_schema\x7d\x7d.latest_migration(schemaname NAME)",
    "    RETURNS text",
    "    LANGUAGE SQL STABLE",
    "    AS $$",
    "    SELECT p.name FROM \x7b\x7bstate_schema\x7d\x7d.migrations p",
    "    WHERE p.schema = schemaname",
    "      AND NOT EXISTS (",
    "          SELECT 1 FROM \x7b\x7bstate_schema\x7d\x7d.migrations c",
    "          WHERE c.schema = schemaname AND c.parent = p.name",
    "      )",
    "$$;",
    "",
    "-- The newest migration issued through pgshift, counting back from the latest",
    "CREATE OR REPLACE FUNCTION \x7b\x7bstate_schema\x7d\x7d.latest_version(schemaname NAME)",
    "    RETURNS text",
    "    LANGUAGE SQL STABLE",
    "    AS $$",
    "    WITH RECURSIVE ancestors AS (",
    "        SELECT name, parent, migration_type, 0 AS depth",
    "        FROM \x7b\x7bstate_schema\x7d\x7d.migrations",
    "        WHERE schema = schemaname AND name = \x7b\x7bstate_schema\x7d\x7d.latest_migration(schemaname)",
    "",
    "        UNION ALL",
    "",
    "        SELECT m.name, m.parent, m.migration_type, a.depth + 1",
    "        FROM \x7b\x7bstate_schema\x7d\x7d.migrations m",
    "        JOIN ancestors a ON m.name = a.parent",
    "        WHERE m.schema = schemaname",
    "    )",
    "    SELECT name FROM ancestors",
    "    WHERE migration_type = 'pgroll'",
    "    ORDER BY depth ASC",
    "    LIMIT 1",
    "$$;",
    "",
    "-- The version before latest_version. Inferred migrations have no version",
    "-- schema and are skipped unless include_inferred is set.",
    "CREATE OR REPLACE FUNCTION \x7b\x7bstate_schema\x7d\x7d.previous_version(schemaname NAME, include_inferred BOOLEAN)",
    "    RETURNS text",
    "    LANGUAGE SQL STABLE",
    "    AS $$",
    "    WITH RECURSIVE ancestors AS (",
    "        SELECT name, parent, migration_type, 0 AS depth",
    "        FROM \x7b\x7bstate_schema\x7d\x7d.migrations",
    "        WHERE schema = schemaname AND name = \x7b\x7bstate_schema\x7d\x7d.latest_version(schemaname)",
    "",
    "        UNION ALL",
    "",
    "        SELECT m.name, m.parent, m.migration_type, a.depth + 1",
    "        FROM \x7b\x7bstate_schema\x7d\x7d.migrations m",
    "        JOIN ancestors a ON m.name = a.parent",
    "        WHERE m.schema = schemaname",
    "    )",
    "    SELECT name FROM ancestors",
    "    WHERE depth > 0",
    "      AND (migration_type = 'pgroll' OR (include_inferred AND migration_type = 'inferred'))",
    "    ORDER BY depth ASC",
    "    LIMIT 1",
    "$$;",
    "",
    "-- The parent of the latest migration, of any type",
    "CREATE OR REPLACE FUNCTION \x7b\x7bstate_schema\x7d\x7d.previous_migration(schemaname NAME)",
    "    RETURNS text",
    "    LANGUAGE SQL STABLE",
    "    AS $$",
    "    SELECT parent FROM \x7b\x7bstate_schema\x7d\x7d.migrations",
    "    WHERE schema = schemaname AND name = \x7b\x7bstate_schema\x7d\x7d.latest_migration(schemaname)",
    "$$;",
    "",
    "CREATE OR REPLACE FUNCTION \x7b\x7bstate_schema\x7d\x7d.read_schema(schemaname TEXT)",
    "    RETURNS jsonb",
    "    LANGUAGE SQL STABLE",
    "    AS $$",
    "    SELECT jsonb_build_object(",
    "        'name', schemaname,",
    "        'tables', (",
    "            SELECT COALESCE(jsonb_object_agg(t.relname, jsonb_build_object(",
    "                'name', t.relname,",
    "                'oid', t.oid::text,",
    "                'comment', obj_description(t.oid, 'pg_class'),",
    "                'columns', (",
    "                    SELECT COALESCE(jsonb_object_agg(a.attname, jsonb_build_object(",
    "                        'name', a.attname,",
    "                        'type', format_type(a.atttypid, a.atttypmod),",
    "                        'default', pg_get_expr(d.adbin, d.adrelid),",
    "                        'nullable', NOT a.attnotnull,",
    "                        'position', a.attnum,",
    "                        'comment', col_description(t.oid, a.attnum)",
    "                    )), '\x7b\x7d'::jsonb)",
    "                    FROM pg_catalog.pg_attribute a",
    "                    LEFT JOIN pg_catalog.pg_attrdef d",
    "                        ON d.adrelid = a.attrelid AND d.adnum = a.attnum",
    "                    WHERE a.attrelid = t.oid AND a.attnum > 0 AND NOT a.attisdropped",
    "                ),",
    "                'primaryKey', (",
    "                    SELECT COALESCE(jsonb_agg(a.attname ORDER BY k.ord), '[]'::jsonb)",
    "                    FROM pg_catalog.pg_index i",
    "                    CROSS JOIN LATERAL unnest(i.indkey::int2[]) WITH ORDINALITY AS k(attnum, ord)",
    "                    JOIN pg_catalog.pg_attribute a",
    "                        ON a.attrelid = i.indrelid AND a.attnum = k.attnum",
    "                    WHERE i.indrelid = t.oid AND i.indisprimary",
    "                ),",
    "                'indexes', (",
    "                    SELECT COALESCE(jsonb_object_agg(ic.relname, jsonb_build_object(",
    "                        'name', ic.relname,",
    "                        'unique', i.indisunique,",
    "                        'columns', (",
    "                            SELECT COALESCE(jsonb_agg(a.attname ORDER BY k.ord), '[]'::jsonb)",
    "                            FROM unnest(i.indkey::int2[]) WITH ORDINALITY AS k(attnum, ord)",
    "                            JOIN pg_catalog.pg_attribute a",
    "                                ON a.attrelid = i.indrelid AND a.attnum = k.attnum",
    "                        )",
    "                    )), '\x7b\x7d'::jsonb)",
    "                    FROM pg_catalog.pg_index i",
    "                    JOIN pg_catalog.pg_class ic ON ic.oid = i.indexrelid",
    "                    WHERE i.indrelid = t.oid",
    "                ),",
    "                'checkConstraints', (",
    "                    SELECT COALESCE(jsonb_object_agg(c.conname, jsonb_build_object(",
    "                        'name', c.conname,",
    "                        'columns', (",
    "                            SELECT COALESCE(jsonb_agg(a.attname), '[]'::jsonb)",
    "                            FROM pg_catalog.pg_attribute a",
    "                            WHERE a.attrelid = c.conrelid AND a.attnum = ANY (c.conkey)",
    "                        ),",
    "                        'definition', pg_get_constraintdef(c.oid)",
    "                    )), '\x7b\x7d'::jsonb)",
    "                    FROM pg_catalog.pg_constraint c",
    "                    WHERE c.conrelid = t.oid AND c.contype = 'c'",
    "                ),",
    "                'uniqueConstraints', (",
    "                    SELECT COALESCE(jsonb_object_agg(c.conname, jsonb_build_object(",
    "                        'name', c.conname,",
    "                        'columns', (",
    "                            SELECT COALESCE(jsonb_agg(a.attname), '[]'::jsonb)",
    "                            FROM pg_catalog.pg_attribute a",
    "                            WHERE a.attrelid = c.conrelid AND a.attnum = ANY (c.conkey)",
    "                        )",
    "                    )), '\x7b\x7d'::jsonb)",
    "                    FROM pg_catalog.pg_constraint c",
    "                    WHERE c.conrelid = t.oid AND c.contype = 'u'",
    "                ),",
    "                'foreignKeys', (",
    "                    SELECT COALESCE(jsonb_object_agg(c.conname, jsonb_build_object(",
    "                        'name', c.conname,",
    "                        'columns', (",
    "                            SELECT COALESCE(jsonb_agg(a.attname), '[]'::jsonb)",
    "                            FROM pg_catalog.pg_attribute a",
    "                            WHERE a.attrelid = c.conrelid AND a.attnum = ANY (c.conkey)",
    "                        ),",
    "                        'referencedTable', rc.relname,",
    "                        'referencedColumns', (",
    "                            SELECT COALESCE(jsonb_agg(a.attname), '[]'::jsonb)",
    "                            FROM pg_catalog.pg_attribute a",
    "                            WHERE a.attrelid = c.confrelid AND a.attnum = ANY (c.confkey)",
    "                        ),",
    "                        'onDelete', CASE c.confdeltype",
    "                            WHEN 'a' THEN 'NO ACTION'",
    "                            WHEN 'r' THEN 'RESTRICT'",
    "                            WHEN 'c' THEN 'CASCADE'",
    "                            WHEN 'n' THEN 'SET NULL'",
    "                            WHEN 'd' THEN 'SET DEFAULT'",
    "                        END",
    "                    )), '\x7b\x7d'::jsonb)",
    "                    FROM pg_catalog.pg_constraint c",
    "                    JOIN pg_catalog.pg_class rc ON rc.oid = c.confrelid",
    "                    WHERE c.conrelid = t.oid AND c.contype = 'f'",
    "                )",
    "            )), '\x7b\x7d'::jsonb)",
    "            FROM pg_catalog.pg_class t",
    "            JOIN pg_catalog.pg_namespace n ON n.oid = t.relnamespace",
    "            WHERE n.nspname = schemaname",
    "              AND t.relkind IN ('r', 'p')",
    "              AND t.relname NOT LIKE '\\_pgshift\\_del\\_%'",
    "        )",
    "    )",
    "$$;",
    "",
    "-- Records DDL run outside pgshift as inferred migrations.",
    "CREATE OR REPLACE FUNCTION \x7b\x7bstate_schema\x7d\x7d.raw_migration()",
    "    RETURNS event_trigger",
    "    LANGUAGE plpgsql",
    "    SECURITY DEFINER",
    "    SET search_path = \x7b\x7bstate_schema\x7d\x7d, pg_catalog, pg_temp",
    "    AS $$",
    "DECLARE",
    "    schemaname TEXT;",
    "    migration_id TEXT;",
    "BEGIN",
    "    -- Sessions opened by pgshift record their own history",
    "    IF current_setting('pgshift.internal', true) = 'TRUE' THEN",
    "        RETURN;",
    "    END IF;",
    "",
    "    IF tg_event = 'sql_drop' AND tg_tag = 'DROP SCHEMA' THEN",
    "        SELECT object_identity INTO schemaname",
    "        FROM pg_event_trigger_dropped_objects()",
    "        WHERE object_type = 'schema'",
    "        LIMIT 1;",
    "    ELSIF tg_event = 'sql_drop' THEN",
    "        SELECT schema_name INTO schemaname",
    "        FROM pg_event_trigger_dropped_objects()",
    "        WHERE schema_name IS NOT NULL",
    "        LIMIT 1;",
    "    ELSIF tg_tag = 'CREATE SCHEMA' THEN",
    "        SELECT object_identity INTO schemaname",
    "        FROM pg_event_trigger_ddl_commands()",
    "        LIMIT 1;",
    "    ELSE",
    "        SELECT schema_name INTO schemaname",
    "        FROM pg_event_trigger_ddl_commands()",
    "        WHERE schema_name IS NOT NULL",
    "        LIMIT 1;",
    "    END IF;",
    "",
    "    IF schemaname IS NULL OR schemaname = \x7b\x7bstate_schema_literal\x7d\x7d THEN",
    "        RETURN;",
    "    END IF;",
    "",
    "    IF \x7b\x7bstate_schema\x7d\x7d.is_active_migration_period(schemaname) THEN",
    "        RETURN;",
    "    END IF;",
    "",
    "    -- One statement batch can fire several events; keep a single entry",
    "    DELETE FROM \x7b\x7bstate_schema\x7d\x7d.migrations",
    "    WHERE schema = schemaname",
    "      AND migration_type = 'inferred'",
    "      AND created_at = current_timestamp",
    "      AND migration->'operations'->0->'sql'->>'up' = current_query()",
    "      AND name = \x7b\x7bstate_schema\x7d\x7d.latest_migration(schemaname);",
    "",
    "    migration_id := 'sql_' || substring(md5(random()::text), 1, 12);",
    "",
    "    INSERT INTO \x7b\x7bstate_schema\x7d\x7d.migrations",
    "        (schema, name, migration, resulting_schema, done, parent, migration_type, created_at, updated_at)",
    "    VALUES (",
    "        schemaname,",
    "        migration_id,",
    "        jsonb_build_object(",
    "            'name', migration_id,",
    "            'operations', jsonb_build_array(",
    "                jsonb_build_object('sql', jsonb_build_object('up', current_query()))",
    "            )",
    "        ),",
    "        \x7b\x7bstate_schema\x7d\x7d.read_schema(schemaname),",
    "        true,",
    "        \x7b\x7bstate_schema\x7d\x7d.latest_migration(schemaname),",
    "        'inferred',",
    "        current_timestamp,",
    "        current_timestamp",
    "    );",
    "END;",
    "$$;",
    "",
    "-- Event triggers are database-wide; their names carry the state schema so",
    "-- each state schema captures into its own ledger.",
    "DO $$",
    "BEGIN",
    "    IF NOT EXISTS (SELECT 1 FROM pg_catalog.pg_event_trigger WHERE evtname = \x7b\x7bddl_trigger_literal\x7d\x7d) THEN",
    "        CREATE EVENT TRIGGER \x7b\x7bddl_trigger\x7d\x7d ON ddl_command_end",
    "            EXECUTE FUNCTION \x7b\x7bstate_schema\x7d\x7d.raw_migration();",
    "    END IF;",
    "",
    "    IF NOT EXISTS (SELECT 1 FROM pg_catalog.pg_event_trigger WHERE evtname = \x7b\x7bdrop_trigger_literal\x7d\x7d) THEN",
    "        CREATE EVENT TRIGGER \x7b\x7bdrop_trigger\x7d\x7d ON sql_drop",
    "            EXECUTE FUNCTION \x7b\x7bstate_schema\x7d\x7d.raw_migration();",
    "    END IF;",
    "END",
    "$$;",
    ""]

/-- What fills the places, in the order in which they are filled. -/
def scriptFillings (stateSchema : String) : List (String × String) :=
  let ddl := captureTriggerName "ddl" stateSchema
  let drop := captureTriggerName "drop" stateSchema
  [("ddl_trigger_literal", Sql.quotedText ddl), ("ddl_trigger", Sql.quotedName ddl),
    ("drop_trigger_literal", Sql.quotedText drop), ("drop_trigger", Sql.quotedName drop),
    ("state_schema_literal", Sql.quotedText stateSchema),
    ("state_schema", Sql.quotedName stateSchema)]

/-- Fills all places of one name. -/
def fillPlaces (text : List Char) (filling : String × String) : List Char :=
  Text.replaceAll ("\x7b\x7b" ++ filling.1 ++ "\x7d\x7d").toList filling.2.toList text

/-- The script for a state schema. -/
def creationScript (stateSchema : String) : String :=
  String.ofList
    ((scriptFillings stateSchema).foldl fillPlaces (Sql.joined "\n" scriptTemplate).toList)

end ExpandContract.Ledger
