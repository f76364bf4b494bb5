import Mathlib.Data.Finset.Sort
import Mathlib.Data.String.Basic
import ExpandContract.Proofs.Backfill.Orderly
import ExpandContract.Proofs.Backfill.Statement
import ExpandContract.Proofs.Ledger.Answers
import ExpandContract.Proofs.Session.Withstanding
import ExpandContract.Proofs.Time.Schedule

/-!
# What a backfill covers

`tableServer` is a server with one table. It goes by the text and the parameters of a request, and
it refuses what is not about its table. It updates the first rows after a cursor, as many as it is
asked for, and it keeps what the committed transactions have updated apart from what the transaction
in progress has.

A backfill of such a table comes to an end, and every row has then been updated once, in the order
of the keys (`run_covers`). The invariant is that the keys are those that are done followed by those
that remain, and that the cursor is the last of the former. Contention makes no difference, because
a backfill is orderly.
-/

set_option autoImplicit false

namespace ExpandContract

open Session Procedure
open Time (Backoff Clock Timer)

variable {σ α β K : Type}

/-! ## Procedures that bring a value -/

/-- From each world of one kind the procedure comes to the value, in a world of another kind. -/
def Session.Procedure.Brings (runner : Runner σ) (before : World σ → Prop) (p : Procedure α)
    (value : α) (after : World σ → Prop) : Prop :=
  ∀ world, before world → ∃ next, p.run runner world = (some (.ok value), next) ∧ after next

namespace Session.Procedure.Brings

variable {runner : Runner σ} {before between after : World σ → Prop}

theorem done (value : α) : (Procedure.done value).Brings runner before value before :=
  fun world holds => ⟨world, rfl, holds⟩

theorem bind {p : Procedure α} {f : α → Procedure β} {value : α} {result : β}
    (first : p.Brings runner before value between)
    (rest : (f value).Brings runner between result after) :
    (p.bind f).Brings runner before result after := by
  intro world holds
  obtain ⟨next, ran, holds⟩ := first world holds
  obtain ⟨last, ranLater, holds⟩ := rest next holds
  refine ⟨last, ?_, holds⟩
  rw [run_bind, ran]
  exact ranLater

/-- A transaction that succeeds in one attempt. -/
theorem inTransaction {body : Transaction α} {value : α} (patient : runner.patience ≠ 0)
    (live : ∀ world, before world → world.clock.cancelAt = none)
    (once : ∀ world, before world →
      ∃ next, transactOnce runner.server body world = (.ok value, next) ∧ after next) :
    (Procedure.inTransaction body).Brings runner before value after := by
  intro world holds
  obtain ⟨next, transacted, ends⟩ := once world holds
  obtain ⟨patience, enough⟩ := Nat.exists_eq_succ_of_ne_zero patient
  refine ⟨next, ?_, ends⟩
  rw [Procedure.inTransaction, transact, run, Time.retry, not_isCancelled (live world holds),
    if_neg Bool.false_ne_true, enough, repeatCall_of_granted transacted (by rintro _ ⟨⟩)]
  rfl

/-- A query that is answered in one attempt. -/
theorem fetch? {request : Request} {answer : Answer} (patient : runner.patience ≠ 0)
    (live : ∀ world, before world → world.clock.cancelAt = none)
    (once : ∀ world, before world →
      ∃ next, deliver runner.server request world = (.ok answer, next) ∧ after next) :
    (Procedure.fetch? request).Brings runner before answer.rows.head? after := by
  intro world holds
  obtain ⟨next, delivered, ends⟩ := once world holds
  obtain ⟨patience, enough⟩ := Nat.exists_eq_succ_of_ne_zero patient
  have sent : sendOnce runner.server request world = (.ok answer, next) := by
    rw [sendOnce, delivered]
    rfl
  refine ⟨next, ?_, ends⟩
  rw [Procedure.fetch?, run, Time.retry, not_isCancelled (live world holds),
    if_neg Bool.false_ne_true, enough, repeatCall_of_granted sent (by rintro _ ⟨⟩)]
  rfl

end Session.Procedure.Brings

/-- A request that is answered without cancelling the session. -/
theorem Session.deliver_answered {server : Server σ} {request : Request} {answer : Answer}
    {state : σ} (world : World σ)
    (replied : server world.state.server request =
      ({ cancels := false, outcome := .ok answer }, state)) :
    ∃ next, deliver server request world = (.ok answer, next) ∧ next.clock = world.clock ∧
      next.state.server = state := by
  refine ⟨_, Prod.ext ?_ rfl, deliver_snd_clock (by rw [replied]), ?_⟩
  · rw [deliver_fst, replied]
    rfl
  · rw [deliver_snd_server, replied]

namespace Backfill

/-! ## A table -/

/-- How the keys of a table are written as texts, one for each column of the key, and read again. -/
structure KeyText (K : Type) (columns : Nat) where
  write : K → List String
  read : List String → Option K
  read_write : ∀ key, read (write key) = some key
  length_write : ∀ key, (write key).length = columns

/-- Which batches of keys were updated, by the transaction in progress and by those before. -/
structure Writes (K : Type) where
  pending : List (List K)
  committed : List (List K)

variable {columns : Nat} [LinearOrder K]

/-- The keys after a cursor, which has to be a key. -/
def keysAfter (text : KeyText K columns) (keys : List K) : Option (List String) → Option (List K)
  | none => some keys
  | some cursor => (text.read cursor).map fun last => keys.filter fun key => last < key

/-- The cursor after some keys. -/
def cursorAfter (text : KeyText K columns) (keys : List K) : Option (List String) :=
  keys.getLast?.map text.write

/-- What the server answers to a batch: how many rows it updated, and the last key. -/
def batchRow (text : KeyText K columns) (keys : List K) : Row :=
  [some (.int keys.length), (cursorAfter text keys).map Json.strings]

/-- A server with a table that has these keys, in their order, and a belief about how many. -/
def tableServer (known : Known) (text : KeyText K columns) (keys : List K)
    (estimate : Option Int) : Server (Writes K) :=
  fun writes request =>
    let answered (answer : Answer) : Reply := { cancels := false, outcome := .ok answer }
    let refused (code message : String) : Reply :=
      { cancels := false, outcome := .error { code, message } }
    match Meaning.of? known request.text request.args? with
    | some .begin => (answered .none, { writes with pending := [] })
    | some .commit =>
        (answered .none, { pending := [], committed := writes.committed ++ writes.pending })
    | some .rollback => (answered .none, { writes with pending := [] })
    | some .estimate =>
        (answered { rows := estimate.toList.map fun n => [some (.int n)], affected := 0 }, writes)
    | some .count => (answered (.ofRow [some (.int keys.length)]), writes)
    | some (.update limit cursor) =>
        match keysAfter text keys cursor with
        | some later =>
            (answered (.ofRow (batchRow text (later.take limit))),
              { writes with pending := writes.pending ++ [later.take limit] })
        | none => (refused "22P02" "invalid input syntax", writes)
    | none => (refused "42601" "syntax error", writes)

theorem steady_tableServer (known : Known) (text : KeyText K columns) (keys : List K)
    (estimate : Option Int) : (tableServer known text keys estimate).Steady := by
  intro writes request
  unfold tableServer
  split
  any_goals rfl
  split <;> rfl

/-- The cursor after the keys that are done leaves just those that remain. -/
theorem keysAfter_cursorAfter (text : KeyText K columns) {done rest : List K}
    (ordered : (done ++ rest).Pairwise (· < ·)) :
    keysAfter text (done ++ rest) (cursorAfter text done) = some rest := by
  rcases List.eq_nil_or_concat done with rfl | ⟨first, last, rfl⟩
  · rfl
  rw [List.concat_eq_append] at ordered ⊢
  obtain ⟨ordered, _, below⟩ := List.pairwise_append.mp ordered
  obtain ⟨_, _, firstBelow⟩ := List.pairwise_append.mp ordered
  have none : (first ++ [last]).filter (fun key => decide (last < key)) = [] := by
    refine List.filter_eq_nil_iff.mpr fun key member => ?_
    rcases List.mem_append.mp member with early | same
    · simpa using (firstBelow key early last (by simp)).le
    · simp [List.mem_singleton.mp same]
  have all : rest.filter (fun key => decide (last < key)) = rest :=
    List.filter_eq_self.mpr fun key member => decide_eq_true (below last (by simp) key member)
  rw [cursorAfter, List.getLast?_concat, Option.map_some, keysAfter, text.read_write,
    Option.map_some, List.filter_append, none, all, List.nil_append]

/-- No transaction is in progress, and these batches are committed. -/
structure Standing (committed : List (List K)) (world : World (Writes K)) : Prop where
  live : world.clock.cancelAt = none
  committed : world.state.server.committed = committed

theorem readKey?_strings (texts : List String) : readKey? (Json.strings texts) = some texts :=
  Json.strings?_strings texts

omit [LinearOrder K] in
theorem batchOfRow_batchRow (text : KeyText K columns) (keys : List K) :
    batchOfRow (batchRow text keys) = .ok (keys.length, cursorAfter text keys) := by
  have last : (batchRow text keys).value? 1 (.named "last_key") readKey? =
      .ok (cursorAfter text keys) := by
    unfold batchRow Row.value? Row.cell
    cases cursorAfter text keys with
    | none => rfl
    | some key => simp [readKey?_strings]
  unfold batchOfRow
  rw [last]
  rfl

variable {text : KeyText K columns} {done rest : List K} {estimate : Option Int} {batch : Batch}
  {limit : Nat} {committed : List (List K)}

omit [LinearOrder K] in
/-- The cursor has a value for each column of the key. -/
theorem length_cursorAfter (text : KeyText K columns) (keys : List K) :
    ∀ values ∈ cursorAfter text keys, values.length = columns := by
  intro values member
  obtain ⟨key, _, rfl⟩ := Option.map_eq_some_iff.mp member
  exact text.length_write key

/-- The transaction of a batch commits the first of the keys that remain. -/
theorem transactOnce_batch (keyed : batch.key ≠ []) (fits : batch.key.length = columns)
    (ordered : (done ++ rest).Pairwise (· < ·)) {world : World (Writes K)}
    (standing : Standing committed world) :
    ∃ next, transactOnce (tableServer batch.known text (done ++ rest) estimate)
        (batchTransaction batch limit (cursorAfter text done)) world =
        (.ok ((rest.take limit).length, cursorAfter text (rest.take limit)), next) ∧
      Standing (committed ++ [rest.take limit]) next := by
  have updated (writes : Writes K) : tableServer batch.known text (done ++ rest) estimate writes
      (.updateBatch batch limit (cursorAfter text done)) =
      ({ cancels := false, outcome := .ok (.ofRow (batchRow text (rest.take limit))) },
        { writes with pending := writes.pending ++ [rest.take limit] }) := by
    have read := Meaning.of?_updateBatch batch limit keyed fun values member =>
      (length_cursorAfter text done values member).trans fits.symm
    unfold tableServer
    rw [read]
    dsimp only
    rw [keysAfter_cursorAfter text ordered]
  have begun (writes : Writes K) : tableServer batch.known text (done ++ rest) estimate writes
      .begin = ({ cancels := false, outcome := .ok .none }, { writes with pending := [] }) := rfl
  have ended (writes : Writes K) : tableServer batch.known text (done ++ rest) estimate writes
      .commit = ({ cancels := false, outcome := .ok .none },
        { pending := [], committed := writes.committed ++ writes.pending }) := rfl
  obtain ⟨opened, begins, beginClock, beginState⟩ := deliver_answered world (begun _)
  obtain ⟨written, writes, writeClock, writeState⟩ := deliver_answered opened (updated _)
  obtain ⟨closed, commits, commitClock, commitState⟩ := deliver_answered written (ended _)
  have body : (batchTransaction batch limit (cursorAfter text done)).run
      (tableServer batch.known text (done ++ rest) estimate) opened =
      (.ok ((rest.take limit).length, cursorAfter text (rest.take limit)), written) := by
    have read := batchOfRow_batchRow text (rest.take limit)
    change Transaction.run _ (Transaction.bind _ _) opened = _
    rw [Transaction.run_bind, Transaction.call, Transaction.run, writes]
    simp only [Transaction.run, Answer.ofRow, read, Transaction.ofExcept]
  refine ⟨closed, ?_, ?_, ?_⟩
  · unfold transactOnce
    simp only [begins, body, commits]
  · rw [commitClock, writeClock, beginClock, standing.live]
  · rw [commitState, writeState, beginState]
    exact congrArg (· ++ _) standing.committed

/-! ## Rounds -/

/-- Running against the table. -/
abbrev tableRunner (known : Known) (text : KeyText K columns) (keys : List K)
    (estimate : Option Int) {policy : Backoff} (draws : policy.Draws (Wire (Writes K)))
    (timer : Timer) (patience : Nat) : Runner (Writes K) :=
  { server := tableServer known text keys estimate, policy, draws, timer, patience }

/-- Running against the table while others hold locks. -/
abbrev contendedRunner (known : Known) (text : KeyText K columns) (keys : List K)
    (estimate : Option Int) (message : String) {policy : Backoff}
    (draws : policy.Draws (Wire (Contended (Writes K)))) (timer : Timer) (patience : Nat) :
    Runner (Contended (Writes K)) :=
  { server := (tableServer known text keys estimate).contended message
    policy
    draws
    timer
    patience }

/-- Where a backfill stands after a batch. -/
def afterBatch (config : BackfillConfig) (progress : Progress) (count : Nat)
    (last : Option (List String)) : Position ⊕ Progress :=
  let progress := if 0 < count then progress.add count else progress
  if count < config.batchSize then .inr progress else .inl { progress, cursor := last }

variable {policy : Backoff} {draws : policy.Draws (Wire (Writes K))} {timer : Timer}
  {patience : Nat} {config : BackfillConfig} {progress : Progress} {runner : Runner (Writes K)}

omit [LinearOrder K] in
theorem brings_reportProgress (p : Progress) (first count : Nat) :
    (reportProgress p first count).Brings runner (Standing committed) () (Standing committed) := by
  induction count generalizing first with
  | zero => exact .done ()
  | succ count ih =>
      refine .bind (fun world standing => ⟨_, rfl, ?_⟩) (ih (first + 1))
      exact ⟨standing.live, standing.committed⟩

omit [LinearOrder K] in
theorem brings_wait (delay : Time.Pause) :
    (Procedure.wait delay).Brings runner (Standing committed) () (Standing committed) := by
  intro world standing
  obtain ⟨later, lives, waited⟩ := run_wait runner delay standing.live
  exact ⟨_, waited, lives, standing.committed⟩

/-- One round commits the first of the keys that remain. -/
theorem brings_step (progress : Progress) (keyed : batch.key ≠ [])
    (fits : batch.key.length = columns) (ordered : (done ++ rest).Pairwise (· < ·))
    (patient : patience ≠ 0) :
    (step config batch { progress, cursor := cursorAfter text done }).Brings
      (tableRunner batch.known text (done ++ rest) estimate draws timer patience)
        (Standing committed)
      (afterBatch config progress (rest.take config.batchSize).length
        (cursorAfter text (rest.take config.batchSize)))
      (Standing (committed ++ [rest.take config.batchSize])) := by
  refine .bind (.inTransaction patient (fun _ standing => standing.live)
    fun _ standing => transactOnce_batch keyed fits ordered standing) ?_
  generalize (rest.take config.batchSize).length = count
  unfold afterBatch
  by_cases wrote : 0 < count
  case' pos =>
    simp only [if_pos wrote]
    refine .bind (brings_reportProgress _ _ _) ?_
  case' neg => simp only [if_neg wrote]
  all_goals
    split
    · exact .done _
    · split
      · exact .bind (brings_wait _) (.done _)
      · exact .done _

/-- The batches cover the keys in their order, with as many of them as it takes to see the end. -/
structure Covers (limit : Nat) (keys : List K) (batches : List (List K)) : Prop where
  flatten : batches.flatten = keys
  length : batches.length = keys.length / limit + 1
  bounded : ∀ batch ∈ batches, batch.length ≤ limit

omit [LinearOrder K] in
/-- Where fewer keys than the limit remain, they are the last batch. -/
theorem Covers.last {limit : Nat} {keys : List K} (short : keys.length < limit) :
    Covers limit keys [keys] where
  flatten := by simp
  length := by
    rw [Nat.div_eq_of_lt short]
    rfl
  bounded batch member := by
    rw [List.mem_singleton.mp member]
    exact short.le

omit [LinearOrder K] in
/-- A full batch is followed by batches of the keys behind it. -/
theorem Covers.full {limit : Nat} {keys : List K} {batches : List (List K)} (sized : 0 < limit)
    (enough : limit ≤ keys.length) (covers : Covers limit (keys.drop limit) batches) :
    Covers limit keys (keys.take limit :: batches) where
  flatten := by rw [List.flatten_cons, covers.flatten, List.take_append_drop]
  length := by
    rw [List.length_cons, covers.length, List.length_drop, ← Nat.div_eq_sub_div sized enough]
  bounded batch member := by
    rcases List.mem_cons.mp member with rfl | later
    · exact List.length_take_le _ _
    · exact covers.bounded batch later

/-- The progress when this many rows have been updated in full batches and a last one. -/
def Progress.finished (p : Progress) (limit rows : Nat) : Progress :=
  { p with
    rowsDone := p.rowsDone + rows
    rowsTotal := max p.rowsTotal (p.rowsDone + rows)
    batches := p.batches + (rows + limit - 1) / limit }

theorem Progress.rowsDone_le_rowsTotal_add (p : Progress) (rows : Nat) :
    (p.add rows).rowsDone ≤ (p.add rows).rowsTotal :=
  Nat.le_max_right ..

theorem Progress.finished_last {p : Progress} {limit rows : Nat} (short : rows < limit)
    (below : p.rowsDone ≤ p.rowsTotal) :
    (if 0 < rows then p.add rows else p) = p.finished limit rows := by
  split
  · rename_i some
    have one : (rows + limit - 1) / limit = 1 := Nat.div_eq_of_lt_le (by omega) (by omega)
    rw [Progress.add, finished, one]
  · have none : rows = 0 := by omega
    have zero : (limit - 1) / limit = 0 := Nat.div_eq_of_lt (by omega)
    rw [none, finished, Nat.add_zero, Nat.zero_add, zero, Nat.max_eq_left below]
    rfl

theorem Progress.finished_add {p : Progress} {limit rows : Nat} (sized : 0 < limit) :
    (p.add limit).finished limit rows = p.finished limit (limit + rows) := by
  have full : (limit + rows + limit - 1) / limit = (rows + limit - 1) / limit + 1 := by
    rw [Nat.add_assoc, Nat.add_sub_assoc (by omega), Nat.add_div_left _ sized]
  unfold finished add
  dsimp only
  rw [full]
  congr 1 <;> omega

/-- As many rounds as there are batches commit all keys that remain. -/
theorem repeatStep_covers (text : KeyText K columns) (estimate : Option Int)
    (draws : policy.Draws (Wire (Writes K))) (timer : Timer) {batch : Batch}
    (keyed : batch.key ≠ []) (fits : batch.key.length = columns)
    (sized : 0 < config.batchSize) (patient : patience ≠ 0) {keys : List K}
    (ordered : keys.Pairwise (· < ·)) {rounds : Nat}
    (enough : rest.length / config.batchSize < rounds) (split : done ++ rest = keys)
    (below : progress.rowsDone ≤ progress.rowsTotal) {world : World (Writes K)}
    (standing : Standing committed world) :
    ∃ next batches, repeatStep (fun position world => (step config batch position).run
        (tableRunner batch.known text keys estimate draws timer patience) world) rounds
        { progress, cursor := cursorAfter text done } world =
        (some (.ok (progress.finished config.batchSize rest.length)), next) ∧
      Standing (committed ++ batches) next ∧ Covers config.batchSize rest batches := by
  induction rounds generalizing done rest progress committed world with
  | zero => cases enough
  | succ rounds ih =>
      obtain ⟨next, ran, commits⟩ :=
        brings_step progress keyed fits (split ▸ ordered) patient world standing
      rw [split] at ran
      rw [repeatStep, ran]
      by_cases short : rest.length < config.batchSize
      · have whole : rest.take config.batchSize = rest := List.take_of_length_le (by omega)
        rw [whole] at commits ⊢
        refine ⟨next, [rest], ?_, commits, .last short⟩
        rw [afterBatch, if_pos short, Progress.finished_last short below]
      · have full : (rest.take config.batchSize).length = config.batchSize := by
          rw [List.length_take]
          omega
        have remaining : rest.length = config.batchSize + (rest.drop config.batchSize).length := by
          rw [List.length_drop]
          omega
        have more : rest.length / config.batchSize =
            (rest.drop config.batchSize).length / config.batchSize + 1 := by
          rw [remaining, Nat.add_div_left _ sized]
        have cursor : cursorAfter text (rest.take config.batchSize) =
            cursorAfter text (done ++ rest.take config.batchSize) := by
          have some : rest.take config.batchSize ≠ [] := List.ne_nil_of_length_pos (by omega)
          rw [cursorAfter, cursorAfter, List.getLast?_append_of_ne_nil _ some]
        obtain ⟨last, batches, repeats, ends, covers⟩ :=
          ih (Nat.lt_of_succ_lt_succ (more ▸ enough))
            (by rw [List.append_assoc, List.take_append_drop, split])
            (progress.rowsDone_le_rowsTotal_add config.batchSize) commits
        rw [afterBatch, full, if_pos sized, if_neg (Nat.lt_irrefl _), cursor]
        refine ⟨last, rest.take config.batchSize :: batches, ?_, ?_,
          covers.full sized (Nat.le_of_not_lt short)⟩
        · dsimp only
          rw [repeats, Progress.finished_add sized, remaining]
        · rw [List.append_assoc] at ends
          exact ends

/-! ## Whole backfills -/

/-- The number of rows a table is believed to have: the estimate, or the count if there is none. -/
def believed (estimate : Option Int) (rows : Nat) : Nat :=
  if 0 < estimate.getD (-1) then (estimate.getD (-1)).toNat else rows

theorem max_believed (estimate : Option Int) (rows : Nat) :
    max (believed estimate rows) rows = max (estimate.getD (-1)).toNat rows := by
  unfold believed
  split
  · rfl
  · omega

theorem brings_believedRows (known : Known) {keys : List K} (patient : patience ≠ 0) :
    (believedRows known.schema known.table).Brings
      (tableRunner known text keys estimate draws timer patience) (Standing committed)
      (believed estimate keys.length) (Standing committed) := by
  have live (world : World (Writes K)) (standing : Standing committed world) :
      world.clock.cancelAt = none := standing.live
  have answered (request : Request) (answer : Answer)
      (replied : ∀ writes, tableServer known text keys estimate writes request =
        ({ cancels := false, outcome := .ok answer }, writes)) :
      (Procedure.fetch? request).Brings (tableRunner known text keys estimate draws timer patience)
        (Standing committed) answer.rows.head? (Standing committed) := by
    refine .fetch? patient live fun world standing => ?_
    obtain ⟨next, delivered, clock, state⟩ := deliver_answered world (replied _)
    exact ⟨next, delivered, clock ▸ standing.live, state ▸ standing.committed⟩
  have counted : (Procedure.fetch? (.countRows known.schema known.table)).Brings
      (tableRunner known text keys estimate draws timer patience) (Standing committed)
      (some [some (Json.int keys.length)]) (Standing committed) := by
    refine answered _ (.ofRow [some (.int keys.length)]) fun _ => ?_
    rw [tableServer, Meaning.of?_countRows]
  have estimated : (Procedure.fetch? (.estimateRows known.schema known.table)).Brings
      (tableRunner known text keys estimate draws timer patience) (Standing committed)
      (estimate.map fun n => [some (Json.int n)]) (Standing committed) := by
    have estimated := answered (.estimateRows known.schema known.table)
      { rows := estimate.toList.map fun n => [some (.int n)], affected := 0 } fun _ => by
        rw [tableServer, Meaning.of?_estimateRows]
    cases estimate <;> exact estimated
  refine .bind estimated ?_
  unfold believed
  rcases estimate with _ | n
  case' none => refine .bind (.done (-1 : Int)) ?_
  case' some => refine .bind (.done n) ?_
  all_goals
    simp only [Option.getD_none, Option.getD_some]
    split
    · exact .done _
    · exact .bind counted (.bind (.done (keys.length : Int)) (.done keys.length))

/-- Without contention, a backfill covers the rows. -/
theorem brings_run {table : Table} (text : KeyText K table.primaryKey.length)
    (estimate : Option Int) (draws : policy.Draws (Wire (Writes K))) (timer : Timer)
    {keys : List K} (ordered : keys.Pairwise (· < ·)) (sized : 0 < config.batchSize)
    {schema : String} (keyed : table.primaryKey ≠ [])
    (known : ∀ key ∈ table.primaryKey, ∃ column ∈ table.columns.values, column.name = key) :
    (run config schema table).Brings
      (tableRunner (.ofTable schema table) text keys estimate draws timer
        (keys.length / config.batchSize + 1)) (Standing [])
      { table := table.name
        rowsDone := keys.length
        rowsTotal := max (estimate.getD (-1)).toNat keys.length
        batches := (keys.length + config.batchSize - 1) / config.batchSize }
      fun world => ∃ batches, Standing batches world ∧ Covers config.batchSize keys batches := by
  obtain ⟨batch, tabled, served⟩ := exists_batch schema keyed known
  have fits : batch.key.length = table.primaryKey.length := by
    rw [show batch.key = (Known.ofTable schema table).key from congrArg Known.key served,
      Known.ofTable, List.length_map]
  have columns : batch.key ≠ [] := List.ne_nil_of_length_pos <|
    fits ▸ List.length_pos_iff.mpr keyed
  have patient : keys.length / config.batchSize + 1 ≠ 0 := Nat.succ_ne_zero _
  have looped (progress : Progress) (below : progress.rowsDone ≤ progress.rowsTotal) :
      (Procedure.loop (step config batch) { progress, cursor := none }).Brings
        (tableRunner batch.known text keys estimate draws timer
          (keys.length / config.batchSize + 1))
        (Standing []) (progress.finished config.batchSize keys.length)
        fun world => ∃ batches, Standing batches world ∧ Covers config.batchSize keys batches := by
    intro world standing
    obtain ⟨next, batches, repeats, ends, covers⟩ := repeatStep_covers text estimate draws timer
      columns fits sized patient ordered (Nat.lt_succ_self _) (show [] ++ keys = keys from rfl)
      below standing
    refine ⟨next, ?_, batches, ends, covers⟩
    have repeats : repeatStep (fun position world => (step config batch position).run
        (tableRunner batch.known text keys estimate draws timer
          (keys.length / config.batchSize + 1)) world)
        (keys.length / config.batchSize + 1) { progress, cursor := none } world =
        (some (.ok (progress.finished config.batchSize keys.length)), next) := repeats
    rw [Procedure.loop, Procedure.run, repeats]
    rfl
  unfold run
  rw [tabled, ← max_believed]
  refine .bind (.done batch) (.bind (brings_believedRows (.ofTable schema table) patient) ?_)
  have looped := looped { table := table.name, rowsDone := 0
                          rowsTotal := believed estimate keys.length, batches := 0 } (Nat.zero_le _)
  simp only [Progress.finished, Nat.zero_add, served] at looped
  exact looped

/-- A backfill of a table ends and updates every row once, in the order of the keys and whatever
locks are refused meanwhile. It takes one batch more than there are full ones, and tells how many
rows there were. -/
theorem run_covers {table : Table} (text : KeyText K table.primaryKey.length) (rows : Finset K)
    (estimate : Option Int) {config : BackfillConfig} (sized : 0 < config.batchSize)
    (schema : String) (keyed : table.primaryKey ≠ [])
    (known : ∀ key ∈ table.primaryKey, ∃ column ∈ table.columns.values, column.name = key)
    (draws : policy.Draws (Wire (Contended (Writes K)))) (timer : Timer) {clock : Clock}
    (live : clock.cancelAt = none) (message : String) (schedule : List Bool) :
    ∃ after enough, (∀ patience, enough ≤ patience →
      (run config schema table).run
        (contendedRunner (.ofTable schema table) text rows.sort estimate message draws timer
          patience)
        (.at clock (.start { pending := [], committed := [] } schedule)) =
        (some (.ok {
          table := table.name
          rowsDone := rows.card
          rowsTotal := max (estimate.getD (-1)).toNat rows.card
          batches := (rows.card + config.batchSize - 1) / config.batchSize }), after)) ∧
    Covers config.batchSize rows.sort after.state.server.calm.committed := by
  have ordered : (rows.sort).Pairwise (· < ·) := rows.sortedLT_sort.pairwise
  have calm : policy.Draws (Wire (Writes K)) := draws.comap fun world =>
    World.at world.clock (.start world.state.server [])
  obtain ⟨plainAfter, ran, batches, standing, covers⟩ := brings_run text estimate calm timer
    ordered sized keyed known (.at clock { pending := [], committed := [] }) ⟨live, rfl⟩
  obtain ⟨_, after, advance, enough, runs⟩ := (orderly_run config schema table).withstands _ _
    message draws (steady_tableServer (.ofTable schema table) text rows.sort estimate) ran
    (.beginning live _ schedule)
  refine ⟨after, enough, ?_, ?_⟩
  · rw [Finset.length_sort] at runs
    exact runs
  · rw [advance.level.calm, standing.committed]
    exact covers

/-- A key of one text column. -/
def KeyText.ofText : KeyText String 1 where
  write key := [key]
  read
    | [key] => some key
    | _ => none
  read_write _ := rfl
  length_write _ := rfl

/-- A table of users, each known by a name, with the number of their orders. -/
def namedUsers : Table :=
  { Table.ofName "users" with
    columns := .ofList
      [("name", Column.ofType "name" "text"), ("orders", Column.ofType "orders" "integer")]
    primaryKey := ["name"] }

/-- Three users in batches of two, where both the count and the second batch are refused a lock. -/
theorem run_covers_users :
    ∃ after enough, (∀ patience, enough ≤ patience →
      (run (BackfillConfig.standard.withBatchSize 2) "public" namedUsers).run
        (contendedRunner (.ofTable "public" namedUsers) .ofText
          ({"ada", "bob", "cyd"} : Finset String).sort none
          "canceling statement due to lock timeout" Time.undiminished .exact patience)
        (.at .start (.start { pending := [], committed := [] }
          [false, true, false, false, false, false, false, true])) =
        (some (.ok { table := "users", rowsDone := 3, rowsTotal := 3, batches := 2 }), after)) ∧
    Covers 2 ({"ada", "bob", "cyd"} : Finset String).sort
      after.state.server.calm.committed := by
  have sized : 0 < (BackfillConfig.standard.withBatchSize 2).batchSize := by decide
  have keyed : namedUsers.primaryKey ≠ [] := by decide
  have known : ∀ key ∈ namedUsers.primaryKey,
      ∃ column ∈ namedUsers.columns.values, column.name = key := by decide
  have live : Clock.start.cancelAt = none := rfl
  exact run_covers .ofText {"ada", "bob", "cyd"} none sized "public" keyed known
    Time.undiminished .exact live
    "canceling statement due to lock timeout"
    [false, true, false, false, false, false, false, true]

end Backfill

end ExpandContract
