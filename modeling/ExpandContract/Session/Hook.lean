import ExpandContract.Session.Procedure

/-!
# Hooks

A user can have work done at four points of a migration: before and after the changes of the start,
and before and after the changes of the completion. A hook is a named list of actions. It aborts its
phase when one of its actions fails, and the error then tells the phase and the reason.
-/

set_option autoImplicit false

namespace ExpandContract.Session

/-- A point at which hooks run. -/
inductive HookPhase where
  | beforeStart
  | afterStart
  | beforeComplete
  | afterComplete
deriving DecidableEq, Repr

/-- The phases in the order of a migration. -/
def HookPhase.all : List HookPhase :=
  [.beforeStart, .afterStart, .beforeComplete, .afterComplete]

/-- The name of a phase in errors. -/
def HookPhase.name : HookPhase → String
  | .beforeStart => "before_start_ddl"
  | .afterStart => "after_start_ddl"
  | .beforeComplete => "before_complete_ddl"
  | .afterComplete => "after_complete_ddl"

/-- The phase of a name. -/
def HookPhase.ofName? : String → Option HookPhase
  | "before_start_ddl" => some .beforeStart
  | "after_start_ddl" => some .afterStart
  | "before_complete_ddl" => some .beforeComplete
  | "after_complete_ddl" => some .afterComplete
  | _ => none

/-- A phase as it is shown to people. -/
def HookPhase.shown : HookPhase → String
  | .beforeStart => "BeforeStartDdl"
  | .afterStart => "AfterStartDdl"
  | .beforeComplete => "BeforeCompleteDdl"
  | .afterComplete => "AfterCompleteDdl"

/-- Something that a hook does. -/
inductive HookAction where
  /-- Runs SQL; if the server does not carry it out, the hook fails. -/
  | execute (sql : String)
  /-- Cancels the session. -/
  | cancel
  /-- Fails with a reason. -/
  | refuse (reason : String)
deriving DecidableEq, Repr

/-- A hook. -/
structure Hook where
  phase : HookPhase
  name : String
  actions : List HookAction
deriving DecidableEq, Repr

/-- Performs an action: the reason why it failed, if it did. -/
def HookAction.perform : HookAction → Procedure (Option String)
  | .execute sql => do
      match ← (Procedure.change (.raw sql)).attempt with
      | .ok _ => pure none
      | .error error => pure (some error.message)
  | .cancel => do
      Procedure.cancelSession
      pure none
  | .refuse reason => pure (some reason)

/-- Performs actions up to the first that fails. -/
def performActions (phase : HookPhase) : List HookAction → Procedure Unit
  | [] => pure ()
  | action :: rest => do
      match ← action.perform with
      | none => performActions phase rest
      | some reason => Procedure.fail (.hook phase.name reason)

/-- Runs a hook. -/
def Hook.run (hook : Hook) : Procedure Unit := do
  Procedure.emit (.hook hook.name hook.phase.name)
  performActions hook.phase hook.actions

/-- Runs hooks one after the other, up to the first that fails. -/
def runHooks : List Hook → Procedure Unit
  | [] => pure ()
  | hook :: rest => do
      hook.run
      runHooks rest

/-- The hooks of a phase, in the order in which they were registered. -/
def hooksOf (phase : HookPhase) (hooks : List Hook) : List Hook :=
  hooks.filter fun hook => hook.phase == phase

end ExpandContract.Session
