import ExpandContract.Session.Run
import ExpandContract.Text.Basic

/-!
# A server that follows rules

A server for trying things out. It understands no SQL: it looks for the first rule whose pattern
occurs in the text of a request, and does what the rule says. A rule may be limited to a number of
uses. Where no rule applies, and where a rule says nothing about rows, the server answers as if the
database were empty, with a few rows that the queries of this library need.
-/

set_option autoImplicit false

namespace ExpandContract.Session

open Ledger (Query)

/-- What the server does when a pattern occurs in a request. -/
structure Rule where
  /-- The text that has to occur. -/
  pattern : String
  /-- How often the rule may still be used; without a number, always. -/
  times : Option Nat
  /-- The failure of the request, if it is to fail. -/
  failure : Option ServerError
  /-- The rows of the answer; without them, the usual rows of the request. -/
  rows : Option (List Row)
  affected : Nat
  cancels : Bool

/-- Whether the rule applies to a request. -/
def Rule.applies (rule : Rule) (sql : List Char) : Bool :=
  rule.times != some 0 && Text.occursIn rule.pattern.toList sql

/-- The rule after one more use. -/
def Rule.used (rule : Rule) : Rule :=
  { rule with times := rule.times.map (· - 1) }

/-- The rows of a query to the ledger when no rule gives any. -/
def usualLedgerRows : Query → List Row
  | .insertMigration _ _ _ => [[none]]
  | .markDone _ name => [[some (.string name)]]
  | .erase _ name => [[some (.string name)]]
  | .isActive _ => [[some (.bool false)]]
  | .readSchema schema =>
      [[some (.object [("name", .string schema), ("tables", .object [])])]]
  | .latestVersion _ => [[none]]
  | .previousVersion _ _ => [[none]]
  | .latestMigration _ => [[none]]
  | .previousMigration _ => [[none]]
  | _ => []

/-- The rows of a request when no rule gives any. -/
def usualRows : Request → List Row
  | .ledger _ query => usualLedgerRows query
  | .serverVersion => [[some (.int 150004)]]
  | .hasSchema _ => [[some (.bool false)]]
  | .estimateRows _ _ => [[some (.int (-1))]]
  | .countRows _ _ => [[some (.int 0)]]
  | .updateBatch _ _ _ => [[some (.int 0), none]]
  | _ => []

/-- What the server does by a rule. -/
def Rule.reply (rule : Rule) (request : Request) : Reply :=
  { cancels := rule.cancels
    outcome := match rule.failure with
      | some error => .error error
      | none => .ok { rows := rule.rows.getD (usualRows request), affected := rule.affected } }

/-- Uses the first rule that applies: that rule, and the rules afterwards. -/
def useRule (sql : List Char) : List Rule → Option (Rule × List Rule)
  | [] => none
  | rule :: rest =>
      if rule.applies sql then some (rule, rule.used :: rest)
      else (useRule sql rest).map fun found => (found.1, rule :: found.2)

/-- The rules of a server: those of the present step come before those of the session. -/
structure RuleBook where
  step : List Rule
  session : List Rule

/-- The server that follows a rule book. -/
def RuleBook.server : Server RuleBook := fun book request =>
  let sql := request.text.toList
  match useRule sql book.step with
  | some (rule, step) => (rule.reply request, { book with step })
  | none =>
      match useRule sql book.session with
      | some (rule, session) => (rule.reply request, { book with session })
      | none =>
          ({ cancels := false, outcome := .ok { rows := usualRows request, affected := 0 } }, book)

end ExpandContract.Session
