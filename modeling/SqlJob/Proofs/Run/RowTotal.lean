import SqlJob.Proofs.Run.Summary

/-!
# The total of a job

The rows of a job are added up as words of 64 bits, one sink after another. The sum is the total of
the counts while that is less than `2 ^ 64`, and there is none from there on, since the addition
ends the program (`JobSummary.rowsWritten_eq`).

Nothing keeps a total below that bound. A job of the mock engine counts one row for each insert
(`MockEngine.total_jobSummary`), and one of a database what the database answers to each. But a job
that is read from a text may have any counts, since every job is read back from the text that is
written for it. In `overflowText` two counts are too many.
-/

namespace SqlJob

namespace JobSummary

/-- The sum of a job is a number exactly if that is its total. -/
theorem rowsWritten_eq_some_iff {job : JobSummary} {n : UInt64} :
    job.rowsWritten = some n ↔ n.toNat = job.total := by
  rw [rowsWritten_eq]
  constructor
  · intro h
    split_ifs at h with htotal
    rw [← Option.some.inj h, UInt64.toNat_ofNat_of_lt' htotal]
  · intro h
    rw [if_pos (h ▸ n.toNat_lt), ← h, UInt64.ofNat_toNat]

/-- A job has no sum exactly if no word can hold its total. -/
theorem rowsWritten_eq_none_iff {job : JobSummary} :
    job.rowsWritten = none ↔ 2 ^ 64 ≤ job.total := by
  rw [rowsWritten_eq]
  simp

end JobSummary

/-- The total of a job of the mock engine is the number of its inserts. -/
theorem MockEngine.total_jobSummary (m : MockEngine) (inserts : List Insert) :
    (m.jobSummary inserts).total = inserts.length := by
  rw [JobSummary.total, jobSummary, List.map_map]
  simp [Function.comp_def]

/-- **The rows of a job are its total, as far as a word holds it.** The sum over the sinks is the
exact total, and there is one if and only if the total is less than `2 ^ 64`; the report as text
says it, or there is no report. Each job can be at hand, whatever its sinks count, since there is a
text that is read as a result with it; for one of the mock engine the total is the number of
inserts. -/
theorem rowsWritten_eq_total_iff (job : JobSummary) :
    (∀ n : UInt64, job.rowsWritten = some n ↔ n.toNat = job.total) ∧
    (job.rowsWritten = none ↔ 2 ^ 64 ≤ job.total) ∧
    (∀ result : ExecutionResult, result.job = some job →
      (summaryLines result).head? = if job.total < 2 ^ 64 then
        some ("Job '" ++ job.name ++ "' finished (" ++ job.mode.display ++ "): " ++
          toString job.total ++ " rows written") else none) ∧
    (∃ text, ExecutionResult.read text = some { job := some job }) ∧
    ∀ (m : MockEngine) (inserts : List Insert),
      (m.jobSummary inserts).rowsWritten.map (·.toNat) =
        if inserts.length < 2 ^ 64 then some inserts.length else none := by
  refine ⟨fun _ => JobSummary.rowsWritten_eq_some_iff, JobSummary.rowsWritten_eq_none_iff,
    ?report, ?read, ?mock⟩
  case report =>
    intro result hjob
    rw [summaryLines, hjob]
    simp only [job.rowsWritten_eq]
    split_ifs with htotal
    · simp [UInt64.toNat_ofNat_of_lt' htotal]
    · rfl
  case read =>
    exact ⟨_, ExecutionResult.read_compact (by simp [ExecutionResult.FloatFree])⟩
  case mock =>
    intro m inserts
    rw [JobSummary.rowsWritten_eq, m.total_jobSummary inserts]
    split_ifs with hlength
    · simp [UInt64.toNat_ofNat_of_lt' hlength]
    · rfl

/-- A result with a job whose first sink counts as many rows as a word can hold, and whose second
sink counts one more. -/
def overflowText : String :=
  "\x7b\"columns\":[],\"rows\":[],\"rows_affected\":0,\"execution_time\":0," ++
    "\"job\":\x7b\"name\":\"etl\",\"mode\":\"batch\",\"sinks\":[" ++
    "\x7b\"table\":\"a\",\"rows_affected\":18446744073709551615\x7d," ++
    "\x7b\"table\":\"b\",\"rows_affected\":1\x7d]\x7d\x7d"

/-- The job in that text has a total of `2 ^ 64`, and no sum. -/
theorem rowsWritten_ne_total_overflow :
    let job : JobSummary := ⟨"etl", .batch, [⟨"a", 18446744073709551615⟩, ⟨"b", 1⟩]⟩
    ExecutionResult.read overflowText = some { job := some job } ∧
      job.total = 2 ^ 64 ∧ job.rowsWritten = none ∧
      job.rowsWritten.map (·.toNat) ≠ some job.total := by
  intro job
  have hwritten : ({ job := some job } : ExecutionResult).toJson.compact = overflowText := by
    decide +kernel
  have hread : ExecutionResult.read overflowText = some { job := some job } := by
    rw [← hwritten]
    exact ExecutionResult.read_compact (by simp [ExecutionResult.FloatFree])
  have htotal : job.total = 2 ^ 64 := by decide
  have hsum : job.rowsWritten = none := by decide
  exact ⟨hread, htotal, hsum, by simp [hsum]⟩

end SqlJob
