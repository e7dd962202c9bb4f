import SqlJob.Operation.Reader
import Mathlib.Tactic.SplitIfs

/-!
# What a reader makes of a statement

A statement that is understood is a `SET` command, or it is the one statement of the dialect that
the grammar finds in it (`StatementReader.read_cases`). In both cases the operation has its trimmed
text (`StatementReader.sql_of_read`), and of an operation of no particular kind the first word of
that text is recorded (`StatementReader.keyword_of_read`). Only white space is refused as empty
(`StatementReader.trimmed_eq_empty_of_read`).
-/

namespace SqlJob.StatementReader

open Text

variable {r : StatementReader} {statement : String}

/-- A statement is understood as a `SET` command or as a statement of the dialect. -/
theorem read_cases {o : Operation} (h : r.read statement = .ok o) :
    (∃ c, SetCommand.read? (trimmed statement) = some c ∧ o = .setOption c) ∨
      ∃ s, Sql.readStatements r.dialect (trimmed statement) = .ok [s] ∧
        o = .ofStatement (trimmed statement) s := by
  have hoperation : r.readOperation statement = .ok o := by
    unfold read at h
    split at h
    · next heq => rw [heq, Except.ok.inj h]
    · simp at h
  unfold readOperation at hoperation
  dsimp only at hoperation
  split_ifs at hoperation with hempty
  split at hoperation
  · next c hc => exact .inl ⟨c, hc, (Except.ok.inj hoperation).symm⟩
  · unfold readStatement at hoperation
    split at hoperation
    · simp at hoperation
    · next s hs => exact .inr ⟨s, hs, (Except.ok.inj hoperation).symm⟩
    · simp at hoperation

/-- The text of a `SET` command is the one that it is read of. -/
theorem sql_of_read? {sql : String} {c : SetCommand} (h : SetCommand.read? sql = some c) :
    c.sql = sql := by
  unfold SetCommand.read? at h
  split at h
  · simp at h
  · split at h
    · rw [← Option.some.inj h]
    · rw [← Option.some.inj h]

/-- The text of an operation is the trimmed text of the statement. -/
theorem sql_of_read {o : Operation} (h : r.read statement = .ok o) :
    o.sql = trimmed statement := by
  rcases read_cases h with ⟨c, hc, rfl⟩ | ⟨s, -, rfl⟩
  · exact sql_of_read? hc
  · unfold Operation.ofStatement
    split <;> rfl

/-- The keyword of an operation of no particular kind is the first word of its text. -/
theorem keyword_of_read {sql keyword : String} (h : r.read statement = .ok (.other sql keyword)) :
    keyword = leadingKeyword sql := by
  rcases read_cases h with ⟨c, -, heq⟩ | ⟨s, -, heq⟩
  · simp at heq
  · unfold Operation.ofStatement at heq
    split at heq
    all_goals simp only [reduceCtorEq, Operation.other.injEq] at heq
    · rw [heq.1, heq.2]
    · rw [heq.1, heq.2]

/-- Texts differ if the one does not start as the other does. -/
theorem append_ne_of_not_isPrefix {start rest text : String} (h : ¬ start.toList <+: text.toList) :
    start ++ rest ≠ text := by
  rintro rfl
  exact h (by simp)

/-- The errors tell in their messages whether the statement was empty. -/
theorem eq_empty_of_toFailure_eq {e : ReadError} (h : e.toFailure = ReadError.empty.toFailure) :
    e = .empty := by
  have hmessage : e.message = "Empty statement" := (Failure.mk.inj h).2
  cases e with
  | empty => rfl
  | syntaxError e => exact absurd hmessage (append_ne_of_not_isPrefix (by decide))
  | statementCount n => exact absurd hmessage (append_ne_of_not_isPrefix (by decide))

/-- Only white space is refused as empty. -/
theorem trimmed_eq_empty_of_read (h : r.read statement = .error ReadError.empty.toFailure) :
    trimmed statement = "" := by
  have hoperation : r.readOperation statement = .error .empty := by
    unfold read at h
    split at h
    · simp at h
    · next e he => rw [he, eq_empty_of_toFailure_eq (Except.error.inj h)]
  unfold readOperation at hoperation
  dsimp only at hoperation
  split_ifs at hoperation with hempty
  · exact hempty
  split at hoperation
  · simp at hoperation
  · unfold readStatement at hoperation
    split at hoperation <;> simp at hoperation

end SqlJob.StatementReader
