import Mathlib.Algebra.Order.Ring.Nat
import ExpandContract.Proofs.Backfill.Coverage
import ExpandContract.Proofs.Session.Recording

/-!
# What a backfill reports

The counts of a log are what the committed batches have written, as the server says: any number,
also a negative one. The progress callbacks are told of the positive counts, one after the other
(`reports`), and all of them are told the same. This holds of every run with every server, also of
one that fails or is still under way (`reports_follow_batches`).

The invariant is `Tells`: the log so far has some counts, each callback has been told of the
positive ones from a progress on, and the backfill stands where they lead.
-/

set_option autoImplicit false

namespace ExpandContract.Backfill

open Session

/-! ## Counts and pairs of a log -/

/-- How many rows were written, as the first row of an answer says. -/
def rowsOf? (answer : Answer) : Option Int :=
  answer.rows.head?.bind fun row => (row.cell 0).bind Json.int?

/-- What the committed batches have written, where the batch of the transaction in progress has
written `pending`. -/
def countsFrom : Option Int → List Note → List Int
  | _, [] => []
  | pending, note :: rest =>
      match note with
      | .asked (.updateBatch _ _ _) (.ok answer) => countsFrom (rowsOf? answer) rest
      | .asked .commit (.ok _) => pending.toList ++ countsFrom none rest
      | .asked .begin _ => countsFrom none rest
      | .asked .commit (.error _) => countsFrom none rest
      | .asked .rollback _ => countsFrom none rest
      | _ => countsFrom pending rest

/-- What the committed batches have written, one after the other. -/
def batchCounts (notes : List Note) : List Int :=
  countsFrom none notes

/-- The counts of the batches that are not empty. -/
def positive (counts : List Int) : List Nat :=
  (counts.filter (0 < ·)).map Int.toNat

/-- What a note tells a callback. -/
def pairOf? (callback : Nat) : Note → Option (Nat × Nat)
  | .seen (.progress done total told) => if told = callback then some (done, total) else none
  | _ => none

/-- What a callback is told: how many rows are done, and of how many. -/
def pairsOf (callback : Nat) (notes : List Note) : List (Nat × Nat) :=
  notes.filterMap (pairOf? callback)

theorem pairsOf_append (callback : Nat) (first rest : List Note) :
    pairsOf callback (first ++ rest) = pairsOf callback first ++ pairsOf callback rest :=
  List.filterMap_append ..

theorem positive_append (first rest : List Int) :
    positive (first ++ rest) = positive first ++ positive rest := by
  rw [positive, List.filter_append, List.map_append, positive, positive]

/-- A batch that has written less than nothing counts as empty. -/
theorem positive_singleton (count : Int) :
    positive [count] = if 0 < count.toNat then [count.toNat] else [] := by
  rw [positive, List.filter_singleton]
  by_cases wrote : 0 < count
  · rw [decide_eq_true wrote, if_pos (by omega)]
    rfl
  · rw [decide_eq_false wrote, if_neg (by omega)]
    rfl

theorem pos_of_mem_positive {counts : List Int} {count : Nat} (member : count ∈ positive counts) :
    0 < count := by
  obtain ⟨written, kept, rfl⟩ := List.mem_map.mp member
  have wrote : 0 < written := of_decide_eq_true (List.mem_filter.mp kept).2
  omega

/-- The notes have these counts whatever follows them. -/
def Counts (notes : List Note) (counts : List Int) : Prop :=
  ∀ rest, batchCounts (notes ++ rest) = counts ++ batchCounts rest

theorem Counts.batchCounts_eq {notes : List Note} {counts : List Int} (has : Counts notes counts) :
    batchCounts notes = counts := by
  have whole := has []
  rwa [List.append_nil, batchCounts, batchCounts, countsFrom, List.append_nil] at whole

namespace Counts

variable {first rest notes : List Note} {counts more : List Int}

theorem nil : Counts [] [] :=
  fun _ => rfl

theorem append (earlier : Counts first counts) (later : Counts rest more) :
    Counts (first ++ rest) (counts ++ more) := by
  intro others
  rw [List.append_assoc, earlier, later, List.append_assoc]

/-- Notes that are no part of a batch. -/
theorem of_forall
    (idle : ∀ note ∈ notes, ∀ others, batchCounts (note :: others) = batchCounts others) :
    Counts notes [] := by
  induction notes with
  | nil => exact .nil
  | cons note notes ih =>
      obtain ⟨first, following⟩ := List.forall_mem_cons.mp idle
      intro others
      rw [List.cons_append, first, ih following]

end Counts

/-! ## Reports -/

/-- What is told after batches of these counts, from a progress on. -/
def reports (p : Progress) : List Nat → List (Nat × Nat)
  | [] => []
  | count :: rest =>
      ((p.add count).rowsDone, (p.add count).rowsTotal) :: reports (p.add count) rest

/-- The progress after batches of these counts. -/
def advance (p : Progress) (counts : List Nat) : Progress :=
  counts.foldl Progress.add p

theorem reports_append (p : Progress) (first rest : List Nat) :
    reports p (first ++ rest) = reports p first ++ reports (advance p first) rest := by
  induction first generalizing p with
  | nil => rfl
  | cons count first ih =>
      rw [List.cons_append, reports, ih (p.add count), reports, List.cons_append]
      rfl

theorem advance_append (p : Progress) (first rest : List Nat) :
    advance p (first ++ rest) = advance (advance p first) rest :=
  List.foldl_append

theorem rowsDone_advance (p : Progress) (counts : List Nat) :
    (advance p counts).rowsDone = p.rowsDone + counts.sum := by
  induction counts generalizing p with
  | nil => rfl
  | cons count counts ih =>
      rw [List.sum_cons, ← Nat.add_assoc]
      exact ih (p.add count)

theorem batches_advance (p : Progress) (counts : List Nat) :
    (advance p counts).batches = p.batches + counts.length := by
  induction counts generalizing p with
  | nil => rfl
  | cons count counts ih =>
      rw [List.length_cons, Nat.add_comm counts.length, ← Nat.add_assoc]
      exact ih (p.add count)

theorem length_reports (p : Progress) (counts : List Nat) :
    (reports p counts).length = counts.length := by
  induction counts generalizing p with
  | nil => rfl
  | cons count counts ih => rw [reports, List.length_cons, List.length_cons, ih]

/-- The rows that are reported as done are the sums of the counts so far. -/
theorem map_fst_reports (p : Progress) (counts : List Nat) :
    (reports p counts).map Prod.fst = (counts.scanl (· + ·) p.rowsDone).tail := by
  induction counts generalizing p with
  | nil => rfl
  | cons count counts ih =>
      rw [reports, List.map_cons, ih, List.scanl_cons, List.tail_cons]
      cases counts with
      | nil => rfl
      | cons next rest =>
          rw [List.scanl_cons, List.tail_cons]
          exact (List.scanl_cons ..).symm

/-- The last report is of the progress that is reached. -/
theorem getLast?_reports (p : Progress) (counts : List Nat) :
    (reports p counts).getLast?.getD (p.rowsDone, p.rowsTotal) =
      ((advance p counts).rowsDone, (advance p counts).rowsTotal) := by
  induction counts generalizing p with
  | nil => rfl
  | cons count counts ih =>
      rw [reports, List.getLast?_cons, Option.getD_some]
      exact ih (p.add count)

/-- What is reported lies beyond where the backfill stood. -/
theorem beyond_of_mem_reports {p : Progress} {counts : List Nat}
    (nonempty : ∀ count ∈ counts, 0 < count) {pair : Nat × Nat} (told : pair ∈ reports p counts) :
    p.rowsDone < pair.1 ∧ p.rowsTotal ≤ pair.2 ∧ pair.1 ≤ pair.2 := by
  induction counts generalizing p with
  | nil => cases told
  | cons count counts ih =>
      obtain ⟨first, others⟩ := List.forall_mem_cons.mp nonempty
      have further : p.rowsDone < (p.add count).rowsDone := Nat.lt_add_of_pos_right first
      have grown : p.rowsTotal ≤ (p.add count).rowsTotal := Nat.le_max_left ..
      rcases List.mem_cons.mp told with rfl | later
      · exact ⟨further, grown, p.rowsDone_le_rowsTotal_add count⟩
      · obtain ⟨done, total, within⟩ := ih others later
        exact ⟨further.trans done, grown.trans total, within⟩

/-- Both numbers grow from report to report, the first one strictly. -/
theorem pairwise_reports {counts : List Nat} (p : Progress)
    (nonempty : ∀ count ∈ counts, 0 < count) :
    (reports p counts).Pairwise fun earlier later =>
      earlier.1 < later.1 ∧ earlier.2 ≤ later.2 := by
  induction counts generalizing p with
  | nil => exact .nil
  | cons count counts ih =>
      obtain ⟨_, others⟩ := List.forall_mem_cons.mp nonempty
      refine .cons (fun pair told => ?_) (ih (p.add count) others)
      obtain ⟨done, total, _⟩ := beyond_of_mem_reports others told
      exact ⟨done, total⟩

/-! ## The transaction of a batch -/

variable {config : BackfillConfig} {batch : Batch} {limit : Nat} {cursor : Option (List String)}

/-- A batch whose outcome can be read has a count. -/
theorem count_of_batchOfRow {row : Row} {value : Nat × Option (List String)}
    (read : batchOfRow row = .ok value) :
    ∃ count, (row.cell 0).bind Json.int? = some count ∧ value.1 = count.toNat := by
  unfold batchOfRow Row.value at read
  cases held : (row.cell 0).bind Json.int? with
  | none =>
      rw [held] at read
      cases read
  | some count =>
      rw [held] at read
      cases last : row.value? 1 (.named "last_key") readKey? with
      | error cause =>
          simp only [last] at read
          cases read
      | ok key =>
          simp only [last] at read
          cases read
          exact ⟨count, rfl, rfl⟩

/-- The body makes one request, and the value it gives is what that is answered. -/
theorem dialogue_batchTransaction {inside : List Note}
    {outcome : Except Error (Nat × Option (List String))}
    (dialogue : (batchTransaction batch limit cursor).Dialogue inside outcome) :
    ∃ reply, inside = [.asked (.updateBatch batch limit cursor) reply] ∧
      ∀ value, outcome = .ok value → ∃ answer count, reply = .ok answer ∧
        rowsOf? answer = some count ∧ value.1 = count.toNat := by
  cases dialogue with
  | send reply rest =>
    rcases reply with cause | ⟨_ | ⟨row, others⟩, affected⟩
    · cases rest
      exact ⟨_, rfl, nofun⟩
    · cases rest
      exact ⟨_, rfl, nofun⟩
    · have ended : (Transaction.ofExcept (batchOfRow row)).Dialogue _ outcome := rest
      cases read : batchOfRow row with
      | ok value =>
        rw [read] at ended
        cases ended
        obtain ⟨count, held, same⟩ := count_of_batchOfRow read
        refine ⟨_, rfl, ?_⟩
        rintro _ ⟨⟩
        exact ⟨_, count, rfl, held, same⟩
      | error cause =>
        rw [read] at ended
        cases ended
        exact ⟨_, rfl, nofun⟩

/-- What a transaction of a batch has written, and what came of it. -/
inductive Batched :
    List Int → Option (Except Error (Nat × Option (List String))) → Prop where
  | wrote (count : Int) (last : Option (List String)) :
      Batched [count] (some (.ok (count.toNat, last)))
  | failed (error : Error) : Batched [] (some (.error error))
  | underway : Batched [] none

/-- The notes of one run of the transaction have a count if it was committed. -/
theorem counts_attempt {attempt : Attempt (Nat × Option (List String))}
    (of : attempt.Of (batchTransaction batch limit cursor)) :
    ∃ counts, Counts attempt.notes counts ∧ Batched counts (some attempt.outcome) := by
  cases attempt with
  | notBegun cause => exact ⟨[], fun _ => rfl, .failed _⟩
  | concluded begun inside value reply =>
      obtain ⟨written, rfl, counted⟩ := dialogue_batchTransaction of
      cases reply with
      | error cause => cases written <;> exact ⟨[], fun _ => rfl, .failed _⟩
      | ok answer =>
          obtain ⟨answer, count, rfl, held, same⟩ := counted value rfl
          refine ⟨[count], fun rest => ?_, ?_⟩
          · simp only [Attempt.notes, batchCounts, List.cons_append, List.nil_append, countsFrom,
              held, Option.toList_some]
          · obtain ⟨_, last⟩ := value
            cases same
            exact .wrote count last
  | abandoned begun inside error reply =>
      obtain ⟨written, rfl, _⟩ := dialogue_batchTransaction of
      cases written <;> exact ⟨[], fun _ => rfl, .failed error⟩

/-- The transaction has as much of a count as its last run. -/
theorem counts_attempts {attempts : List (Attempt (Nat × Option (List String)))}
    {outcome : Option (Except Error (Nat × Option (List String)))}
    (of : ∀ attempt ∈ attempts, attempt.Of (batchTransaction batch limit cursor))
    (attempted : Attempted Attempt.outcome attempts outcome) :
    ∃ counts, Counts (attempts.flatMap Attempt.notes) counts ∧ Batched counts outcome := by
  have only (attempt : Attempt (Nat × Option (List String))) :
      [attempt].flatMap Attempt.notes = attempt.notes := List.flatMap_singleton ..
  induction attempted with
  | underway => exact ⟨[], .nil, .underway⟩
  | cancelled => exact ⟨[], .nil, .failed _⟩
  | value brings =>
      rw [only, ← brings]
      exact counts_attempt (of _ List.mem_cons_self)
  | failure brings _ =>
      rw [only, ← brings]
      exact counts_attempt (of _ List.mem_cons_self)
  | again brings _ _ ih =>
      obtain ⟨first, others⟩ := List.forall_mem_cons.mp of
      obtain ⟨counts, has, batched⟩ := counts_attempt first
      obtain ⟨more, later, ended⟩ := ih others
      rw [brings] at batched
      cases batched
      exact ⟨more, has.append later, ended⟩

/-- Nothing is told in a transaction of a batch. -/
theorem pairsOf_attempts {attempts : List (Attempt (Nat × Option (List String)))}
    (of : ∀ attempt ∈ attempts, attempt.Of (batchTransaction batch limit cursor)) (callback : Nat) :
    pairsOf callback (attempts.flatMap Attempt.notes) = [] := by
  induction attempts with
  | nil => rfl
  | cons attempt attempts ih =>
      obtain ⟨first, others⟩ := List.forall_mem_cons.mp of
      rw [List.flatMap_cons, pairsOf_append, ih others, List.append_nil]
      cases attempt with
      | notBegun cause => rfl
      | concluded begun inside value reply =>
          obtain ⟨_, rfl, _⟩ := dialogue_batchTransaction first
          rfl
      | abandoned begun inside error reply =>
          obtain ⟨_, rfl, _⟩ := dialogue_batchTransaction first
          rfl

theorem records_batchTransaction :
    (Procedure.inTransaction (batchTransaction batch limit cursor)).Records fun notes outcome =>
      (∃ counts, Counts notes counts ∧ Batched counts outcome) ∧
        ∀ callback, pairsOf callback notes = [] :=
  .inTransaction fun _ _ of attempted => ⟨counts_attempts of attempted, pairsOf_attempts of⟩

/-! ## Rounds -/

/-- Each callback is told of the progress once. -/
theorem records_reportProgress (p : Progress) (first count : Nat) :
    (reportProgress p first count).Records fun notes outcome => outcome = some (.ok ()) ∧
      Counts notes [] ∧ ∀ callback, pairsOf callback notes =
        if first ≤ callback ∧ callback < first + count then [(p.rowsDone, p.rowsTotal)]
        else [] := by
  induction count generalizing first with
  | zero =>
      refine .done ⟨rfl, .nil, fun callback => ?_⟩
      rw [if_neg (by omega)]
      rfl
  | succ count ih =>
      have told : (Procedure.emit (.progress p.rowsDone p.rowsTotal first)).Records
          fun notes outcome => outcome = some (.ok ()) ∧
            notes = [.seen (.progress p.rowsDone p.rowsTotal first)] := .emit ⟨rfl, rfl⟩
      refine .bind told (fun notes _ one => (ih (first + 1)).mono fun later outcome others => ?_)
        (fun notes error one => absurd one.1 (by simp)) (fun notes one => absurd one.1 (by simp))
      obtain ⟨_, rfl⟩ := one
      obtain ⟨done, idle, pairs⟩ := others
      refine ⟨done, fun rest => idle rest, fun callback => ?_⟩
      rw [pairsOf_append, pairs callback, pairsOf, List.filterMap_cons, pairOf?]
      by_cases mine : first = callback
      · rw [if_pos mine, if_neg (by omega), if_pos (by omega)]
        rfl
      · have others : first + 1 ≤ callback ∧ callback < first + 1 + count ↔
            first ≤ callback ∧ callback < first + (count + 1) := by omega
        rw [if_neg mine]
        simp only [others]
        rfl

/-- The log has these counts, each callback has been told of the positive ones from a progress on,
and where they lead is where the backfill stands, if it has come to stand somewhere. -/
structure Tells (callbacks : Nat) (p : Progress) (notes : List Note) (counts : List Int)
    (reaches : Option Progress) : Prop where
  has : Counts notes counts
  told : ∀ callback < callbacks, pairsOf callback notes = reports p (positive counts)
  leads : ∀ q, reaches = some q → q = advance p (positive counts)

namespace Tells

variable {callbacks : Nat} {p q : Progress} {first rest notes : List Note} {counts more : List Int}
  {reaches : Option Progress}

theorem nil : Tells callbacks p [] [] none where
  has := .nil
  told _ _ := rfl
  leads := nofun

theorem append (earlier : Tells callbacks p first counts (some q))
    (later : Tells callbacks q rest more reaches) :
    Tells callbacks p (first ++ rest) (counts ++ more) reaches where
  has := earlier.has.append later.has
  told callback registered := by
    rw [pairsOf_append, earlier.told callback registered, later.told callback registered,
      earlier.leads q rfl, positive_append, reports_append]
  leads last same := by
    rw [later.leads last same, earlier.leads q rfl, positive_append, advance_append]

end Tells

/-- Where a round leaves the backfill. -/
def reached (outcome : Option (Except Error (Position ⊕ Progress))) : Option Progress :=
  (outcome.bind Except.toOption).map (Sum.elim Position.progress id)

/-- What follows the reports of a round leaves no note. -/
theorem records_onward {progress : Progress} {count : Nat} {last : Option (List String)}
    {described : List Note → Option (Except Error (Position ⊕ Progress)) → Prop}
    (stays : ∀ outcome, (∀ q, reached outcome = some q → q = progress) → described [] outcome) :
    (do
      if count < config.batchSize then return Sum.inr progress
      if lasting : config.batchDelay.isZero = false then
        Procedure.wait ⟨config.batchDelay, lasting⟩
      return Sum.inl { progress, cursor := last } :
        Procedure (Position ⊕ Progress)).Records described := by
  split
  · exact .done (stays _ (by rintro _ ⟨⟩; rfl))
  · have next : described [] (some (.ok (.inl { progress, cursor := last }))) :=
      stays _ (by rintro _ ⟨⟩; rfl)
    split
    · rename_i lasting
      have waited :
          (Procedure.wait ⟨config.batchDelay, lasting⟩).Records fun notes _ => notes = [] :=
        .wait rfl rfl
      refine .bind waited ?_ ?_ ?_
      · rintro _ _ rfl
        exact .done next
      · rintro _ error rfl
        exact stays _ nofun
      · rintro _ rfl
        exact stays _ nofun
    · exact .done next

/-- A round tells of its batch. Its transaction tells nothing, and what follows the reports leaves
no note, so what is told are the reports alone. -/
theorem records_step (position : Position) :
    (step config batch position).Records fun notes outcome =>
      ∃ counts, Tells config.callbacks position.progress notes counts (reached outcome) := by
  refine .bind records_batchTransaction ?_ ?_ ?_
  · rintro notes value ⟨⟨counts, has, batched⟩, silent⟩
    cases batched with
    | wrote count last =>
      by_cases wrote : 0 < count.toNat
      · simp only [if_pos wrote]
        have nonempty : positive [count] = [count.toNat] := by
          rw [positive_singleton, if_pos wrote]
        refine .bind (records_reportProgress _ _ _) ?_ ?_ ?_
        · rintro reported _ ⟨_, idle, told⟩
          refine records_onward fun outcome leads =>
            ⟨[count], ?_, fun callback registered => ?_, ?_⟩
          · have both := has.append idle
            rwa [List.append_nil] at both ⊢
          · rw [List.append_nil, pairsOf_append, silent, told, if_pos (by omega), nonempty]
            rfl
          · intro q reaches
            rw [leads q reaches, nonempty]
            rfl
        · rintro _ _ ⟨⟨⟩, _⟩
        · rintro _ ⟨⟨⟩, _⟩
      · simp only [if_neg wrote]
        have empty : positive [count] = [] := by rw [positive_singleton, if_neg wrote]
        refine records_onward fun outcome leads => ⟨[count], ?_, fun callback _ => ?_, ?_⟩
        · rwa [List.append_nil]
        · rw [List.append_nil, silent, empty]
          rfl
        · intro q reaches
          rw [leads q reaches, empty]
          rfl
  · rintro notes error ⟨⟨counts, has, batched⟩, silent⟩
    cases batched
    exact ⟨[], has, fun callback _ => silent callback, nofun⟩
  · rintro notes ⟨⟨counts, has, batched⟩, silent⟩
    cases batched
    exact ⟨[], has, fun callback _ => silent callback, nofun⟩

/-- The log of the rounds from a position on, and what has come of them. -/
def Told (config : BackfillConfig) (position : Position) (notes : List Note)
    (outcome : Option (Except Error Progress)) : Prop :=
  ∃ counts, Tells config.callbacks position.progress notes counts (outcome.bind Except.toOption)

/-- The rounds tell of their batches, one after the other. -/
theorem records_loop (position : Position) :
    (Procedure.loop (step config batch) position).Records (Told config position) := by
  refine .loop records_step (fun _ => ⟨[], .nil⟩) (fun _ _ _ tells => tells)
    (fun _ _ _ tells => tells) (fun _ _ tells => tells) ?_
  rintro position notes next later outcome ⟨counts, tells⟩ ⟨more, others⟩
  exact ⟨counts ++ more, tells.append others⟩

/-! ## Whole backfills -/

/-- What is noted when the server is asked how many rows there are. -/
inductive Estimating : Note → Prop where
  | estimated {schema table : String} {reply : Except ServerError Answer} :
      Estimating (.asked (.estimateRows schema table) reply)
  | counted {schema table : String} {reply : Except ServerError Answer} :
      Estimating (.asked (.countRows schema table) reply)

theorem counts_of_estimating {notes : List Note} (asks : ∀ note ∈ notes, Estimating note) :
    Counts notes [] := by
  refine .of_forall fun note member others => ?_
  cases asks note member with
  | estimated => rfl
  | counted => rfl

theorem pairsOf_of_estimating {notes : List Note} (asks : ∀ note ∈ notes, Estimating note)
    (callback : Nat) : pairsOf callback notes = [] := by
  refine List.filterMap_eq_nil_iff.mpr fun note member => ?_
  cases asks note member with
  | estimated => rfl
  | counted => rfl

theorem recordsOnly_believedRows (schema table : String) :
    (believedRows schema table).RecordsOnly Estimating := by
  refine .bind (.fetch? fun _ => .estimated) fun answer => ?_
  rcases answer with _ | row
  case' none => refine Procedure.RecordsOnly.bind (.done _) ?_
  case' some => refine Procedure.RecordsOnly.bind (.ofExcept _) ?_
  all_goals
    intro estimate
    by_cases known : 0 < estimate
    · simp only [if_pos known]
      exact .done _
    · simp only [if_neg known]
      refine .bind (.fetch? fun _ => .counted) fun answer => ?_
      cases answer with
      | none => exact .done _
      | some row => exact .bind (.ofExcept _) fun _ => .done _

/-- Where a backfill begins, of a table that is believed to have so many rows. -/
def beginning (table : Table) (total : Nat) : Progress :=
  { table := table.name, rowsDone := 0, rowsTotal := total, batches := 0 }

/-- A backfill tells of its batches from its beginning on. -/
theorem records_run (config : BackfillConfig) (schema : String) (table : Table) :
    (run config schema table).Records fun notes outcome => ∃ total counts,
      Tells config.callbacks (beginning table total) notes counts
        (outcome.bind Except.toOption) := by
  have made : (Procedure.ofExcept (Batch.ofTable schema table)).Records fun notes _ => notes = [] :=
    .ofExcept rfl
  have quiet {notes : List Note} (asks : ∀ note ∈ notes, Estimating note) :
      Tells config.callbacks (beginning table 0) notes [] none :=
    ⟨counts_of_estimating asks, fun callback _ => pairsOf_of_estimating asks callback, nofun⟩
  refine .bind made ?_ ?_ ?_
  · rintro _ batch rfl
    refine .bind (recordsOnly_believedRows schema table.name) (fun asked total asks => ?_) ?_ ?_
    · refine (records_loop _).mono ?_
      rintro later outcome ⟨counts, tells⟩
      refine ⟨total, counts, fun rest => ?_, fun callback registered => ?_, tells.leads⟩
      · exact ((counts_of_estimating asks).append tells.has) rest
      · rw [List.nil_append, pairsOf_append, pairsOf_of_estimating asks]
        exact tells.told callback registered
    · exact fun notes _ asks => ⟨0, [], quiet asks⟩
    · exact fun notes asks => ⟨0, [], quiet asks⟩
  · rintro _ error rfl
    exact ⟨0, [], .nil⟩
  · rintro _ rfl
    exact ⟨0, [], .nil⟩

/-- Pairs that are told after batches of these counts: how many rows are done, and of how many. -/
structure Progressing (counts : List Nat) (pairs : List (Nat × Nat)) : Prop where
  each : pairs.length = counts.length
  sums : pairs.map Prod.fst = counts.partialSums.tail
  increasing : pairs.Pairwise fun earlier later => earlier.1 < later.1
  growing : pairs.Pairwise fun earlier later => earlier.2 ≤ later.2
  within : ∀ pair ∈ pairs, pair.1 ≤ pair.2

theorem progressing_reports (table : Table) (total : Nat) {counts : List Nat}
    (nonempty : ∀ count ∈ counts, 0 < count) :
    Progressing counts (reports (beginning table total) counts) where
  each := length_reports _ counts
  sums := map_fst_reports _ counts
  increasing := (pairwise_reports _ nonempty).imp fun both => both.1
  growing := (pairwise_reports _ nonempty).imp fun both => both.2
  within _ told := (beyond_of_mem_reports nonempty told).2.2

/-- Every callback is told the same: after each batch that is not empty how many rows are done by
now, and of how many, which is never less and never becomes less. The progress that a backfill
returns is the last that was told. This holds whatever the server replies, and whether or not the
backfill comes to an end. -/
theorem reports_follow_batches {σ : Type} (config : BackfillConfig) (schema : String)
    (table : Table) (runner : Runner σ) (world : World σ) :
    ∃ notes pairs, Noted runner.server world notes ((run config schema table).run runner world).2 ∧
      (∀ callback < config.callbacks, pairsOf callback notes = pairs) ∧
      Progressing (positive (batchCounts notes)) pairs ∧
      ∀ progress, ((run config schema table).run runner world).1 = some (.ok progress) →
        (∀ last, pairs.getLast? = some last → last = (progress.rowsDone, progress.rowsTotal)) ∧
        progress.rowsDone = (positive (batchCounts notes)).sum ∧
        progress.batches = pairs.length := by
  obtain ⟨notes, noted, total, counts, tells⟩ := records_run config schema table σ runner world
  refine ⟨notes, reports (beginning table total) (positive counts), noted, tells.told, ?_, ?_⟩
  · rw [tells.has.batchCounts_eq]
    exact progressing_reports table total fun _ => pos_of_mem_positive
  · intro progress ended
    have reached : progress = advance (beginning table total) (positive counts) := by
      refine tells.leads progress ?_
      rw [ended]
      rfl
    have last := getLast?_reports (beginning table total) (positive counts)
    rw [← reached] at last
    refine ⟨fun pair ends => ?_, ?_, ?_⟩
    · rw [ends] at last
      exact last
    · rw [tells.has.batchCounts_eq, reached, rowsDone_advance]
      exact Nat.zero_add _
    · rw [reached, batches_advance, length_reports]
      exact Nat.zero_add _

/-- A server that believes in four rows, and then says of each batch what it is told to say, until
it runs out of answers. -/
def dictated : Runner (List Int) :=
  .plain .standard (fun counts request =>
    let answered (answer : Answer) : Reply := { cancels := false, outcome := .ok answer }
    match request, counts with
    | .estimateRows _ _, _ => (answered (.ofRow [some (.int 4)]), counts)
    | .updateBatch _ _ _, [] =>
        ({ cancels := false, outcome := .error { code := "53100", message := "disk full" } }, [])
    | .updateBatch _ _ _, count :: rest => (answered (.ofRow [some (.int count), none]), rest)
    | _, _ => (answered .none, counts)) 5

/-- A batch that is larger than it may be, after one of just the right size: the backfill believes
both, and its callbacks are told so before the next batch fails. -/
theorem reports_follow_batches_dictated :
    ∃ notes pairs, Noted dictated.server (.at .start [2, 3]) notes
        ((run { batchSize := 2, batchDelay := .zero, callbacks := 2 } "public" namedUsers).run
          dictated (.at .start [2, 3])).2 ∧
      (∀ callback < 2, pairsOf callback notes = pairs) ∧ pairs.map Prod.fst = [2, 5] := by
  obtain ⟨notes, pairs, ⟨events, way, rfl⟩, told, progressing, _⟩ := reports_follow_batches
    { batchSize := 2, batchDelay := .zero, callbacks := 2 } "public" namedUsers dictated
    (.at .start [2, 3])
  refine ⟨_, pairs, ⟨events, way, rfl⟩, told, ?_⟩
  rw [progressing.sums, show events = _ from way.trace.symm]
  rfl

end ExpandContract.Backfill
