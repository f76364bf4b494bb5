import ExpandContract.Proofs.Migration.Requests

/-!
# What the completion of an operation changes

The completion of an operation follows from the operation alone, as its rollback does. First the
changes that make sure of it are made (`Operation.preparation`), for all operations of the
migration, and then those that contract the schema (`Operation.contraction`). Each phase works
through its list, up to the first change that fails.
-/

set_option autoImplicit false

namespace ExpandContract

open Session Procedure Sql

variable {ctx : PhaseContext}

/-! ## Plans under a condition -/

theorem Session.Procedure.Follows.guarded {condition : Prop} [Decidable condition]
    {p rest : Procedure Unit} {plan later : List Change} (first : p.Follows plan)
    (follows : rest.Follows later) :
    (if condition then p.bind fun _ => rest else rest).Follows
      ((if condition then plan else []) ++ later) := by
  split
  · exact first.bind follows
  · exact follows

theorem Session.Procedure.Follows.guarded_last {condition : Prop} [Decidable condition]
    {p : Procedure Unit} {plan : List Change} (last : p.Follows plan) :
    (if condition then p else .done ()).Follows (if condition then plan else []) := by
  split
  · exact last
  · exact .done

/-! ## Preparations -/

/-- The validations of the pending checks of a column. -/
def AddColumn.preparation (op : AddColumn) (ctx : PhaseContext) : List Change :=
  op.pendingNames.map fun name => .validateConstraint ctx.schema op.table name

/-- The changes that make sure of the completion of an operation. -/
def Operation.preparation (ctx : PhaseContext) : Operation → List Change
  | .addColumn op => op.preparation ctx
  | _ => []

theorem AddColumn.follows_prepare (op : AddColumn) :
    (op.prepare ctx).Follows (op.preparation ctx) := by
  unfold prepare preparation
  induction op.pendingNames with
  | nil => exact .done
  | cons name rest ih => exact .bind (.change _) ih

theorem Operation.follows_prepare (op : Operation) :
    (op.prepare ctx).Follows (op.preparation ctx) := by
  cases op with
  | addColumn op => exact op.follows_prepare
  | _ => exact .done

/-! ## Completions -/

/-- The changes that put a new column in its place. -/
def AddColumn.contraction (op : AddColumn) (ctx : PhaseContext) : List Change :=
  (if op.up.isSome then [.dropSyncTrigger ctx.schema op.table op.shadow] else []) ++
    .renameColumn ctx.schema op.table op.shadow op.column.name ::
      ((if !op.column.nullable then
          [.setNotNull ctx.schema op.table op.column.name (pendingNotNullName op.column.name)]
        else []) ++
        if op.column.check.isSome then
          [.renameConstraint ctx.schema op.table (pendingCheckName op.column.name)
            (finalCheckName op.table op.column.name)]
        else [])

theorem mem_guarded {condition : Prop} [Decidable condition] {statement given : Change}
    (member : statement ∈ if condition then [given] else []) : statement = given := by
  split at member
  · exact List.mem_singleton.mp member
  · cases member

/-- The changes that put a new column in its place are of four kinds. -/
theorem AddColumn.eq_of_mem_contraction {op : AddColumn} {statement : Change}
    (member : statement ∈ op.contraction ctx) :
    statement = .dropSyncTrigger ctx.schema op.table op.shadow ∨
      statement = .renameColumn ctx.schema op.table op.shadow op.column.name ∨
      statement = .setNotNull ctx.schema op.table op.column.name
        (pendingNotNullName op.column.name) ∨
      statement = .renameConstraint ctx.schema op.table (pendingCheckName op.column.name)
        (finalCheckName op.table op.column.name) := by
  rcases List.mem_append.mp member with trigger | renames
  · exact .inl (mem_guarded trigger)
  · rcases List.mem_cons.mp renames with rename | constrains
    · exact .inr (.inl rename)
    · rcases List.mem_append.mp constrains with notNull | check
      · exact .inr (.inr (.inl (mem_guarded notNull)))
      · exact .inr (.inr (.inr (mem_guarded check)))

/-- The changes that drop a column. -/
def DropColumn.contraction (op : DropColumn) (ctx : PhaseContext) : List Change :=
  (if op.down.isSome then [.dropSyncTrigger ctx.schema op.table op.column] else []) ++
    [.dropColumns ctx.schema op.table [op.column] false]

/-- The text of the user that waited for the completion, where it is not refused. -/
def RawSql.contraction (op : RawSql) (ctx : PhaseContext) : List Change :=
  if op.onComplete then
    match ctx.transformer.transform op.up with
    | .ok sql => [.raw sql]
    | .error _ => []
  else []

theorem RawSql.eq_of_mem_contraction {op : RawSql} {statement : Change}
    (member : statement ∈ op.contraction ctx) : ∃ sql, statement = .raw sql := by
  unfold contraction at member
  split at member
  · split at member
    · exact ⟨_, List.mem_singleton.mp member⟩
    · cases member
  · cases member

/-- The changes that contract the schema for an operation. -/
def Operation.contraction (ctx : PhaseContext) : Operation → List Change
  | .createTable _ => []
  | .dropTable op => [.dropTable ctx.schema (parkedName op.name)]
  | .addColumn op => op.contraction ctx
  | .dropColumn op => op.contraction ctx
  | .renameColumn op => [.renameColumn ctx.schema op.table op.source op.target]
  | .createIndex _ => []
  | .dropIndex op => [.dropIndex ctx.schema op.name]
  | .rawSql op => op.contraction ctx

theorem AddColumn.follows_complete (op : AddColumn) :
    (op.complete ctx).Follows (op.contraction ctx) :=
  .guarded (.change _) (.bind (.change _) (.guarded (.change _) (.guarded_last (.change _))))

theorem RawSql.follows_complete (op : RawSql) :
    (op.complete ctx).Follows (op.contraction ctx) := by
  have ran : (runText ctx op.up).Follows
      (match ctx.transformer.transform op.up with
        | .ok sql => [.raw sql]
        | .error _ => []) := by
    unfold runText PhaseContext.transform
    cases ctx.transformer.transform op.up with
    | ok sql => exact .change _
    | error reason => exact .fail _
  exact ran.guarded_last

/-- The completion of an operation works through these changes. -/
theorem Operation.follows_complete (op : Operation) :
    (op.complete ctx).Follows (op.contraction ctx) := by
  cases op with
  | createTable op => exact .done
  | dropTable op => exact .change _
  | addColumn op => exact op.follows_complete
  | dropColumn op => exact .guarded (.change _) (.change _)
  | renameColumn op => exact .change _
  | createIndex op => exact .done
  | dropIndex op => exact .change _
  | rawSql op => exact op.follows_complete

end ExpandContract
