import SqlJob.Run.Report
import SqlJob.Proofs.Json.Written
import Mathlib

/-!
# Reading results back

A result without floating-point fields is read back from the JSON that stands for it, from either
written form and from the report that ends a run (`ExecutionResult.read_written`). The structures of
a result are taken one by one, from its words up: `Encodes` says of a JSON value both things that
the texts need, that it has whole numbers alone and that it is decoded as the given data.

What is decoded from other texts is data of the same kind, so the same holds of every text that can
be read: it need not be the written form, but the text written from its result is.
-/

namespace SqlJob

open Json

/-! ## Words -/

/-- A JSON value with whole numbers alone stands for data that a decoder gives back. -/
structure Json.Encodes {α : Type} (decode : Json → Option α) (j : Json) (a : α) : Prop where
  /-- Both written forms of the value are read back. -/
  isWhole : IsWhole j
  /-- The value is decoded as the data. -/
  decode_eq : decode j = some a

namespace Json

/-- A text. -/
theorem encodes_string (s : String) : Encodes string? (.string s) s :=
  ⟨.string s, rfl⟩

/-- A natural number. -/
theorem encodes_ofUInt64 (n : UInt64) : Encodes uint64? (ofUInt64 n) n :=
  ⟨.natural n, rfl⟩

/-- A byte. -/
theorem encodes_ofUInt64_byte (b : UInt8) : Encodes uint8? (ofUInt64 b.toUInt64) b := by
  refine ⟨.natural _, ?_⟩
  have hlt : b.toNat < 256 := b.toNat_lt
  simp [uint8?, ofUInt64, hlt]

/-- A signed integer: the sign decides in which of the two kinds it is written. -/
theorem encodes_ofInt64 (n : Int64) : Encodes int64? (ofInt64 n) n := by
  unfold ofInt64
  split_ifs with hneg
  · exact ⟨.negative hneg, rfl⟩
  · have hle : n.toUInt64.toNat ≤ 9223372036854775807 := by
      rw [Int64.toNat_toUInt64_of_le (Int64.not_lt.mp hneg), Int64.toNatClampNeg]
      have hlt : n.toInt < 2 ^ 63 := n.toInt_lt
      omega
    exact ⟨.natural _, by simp [int64?, hle]⟩

/-- An array of encoded items. -/
theorem Encodes.array {α : Type} {decode : Json → Option α} {encode : α → Json} {items : List α}
    (h : ∀ a ∈ items, Encodes decode (encode a) a) :
    Encodes (items? decode) (.array (items.map encode)) items := by
  refine ⟨.array (List.forall_mem_map.mpr fun a ha => (h a ha).isWhole), ?_⟩
  rw [items?]
  induction items with
  | nil => rfl
  | cons a items ih =>
    obtain ⟨ha, hitems⟩ := List.forall_mem_cons.mp h
    simp [ha.decode_eq, ih hitems]

end Json

/-! ## Structures -/

/-- A value other than a floating-point number. -/
theorem Value.encodes_toJson {v : Value} (h : ∀ x, v ≠ .float x) :
    Encodes Value.ofJson? v.toJson v := by
  cases v with
  | null => exact ⟨.string _, rfl⟩
  | int n =>
    have hn := encodes_ofInt64 n
    exact ⟨.object (by simpa using hn.isWhole), by simp [toJson, ofJson?, hn.decode_eq]⟩
  | float x => exact absurd rfl (h x)
  | text s =>
    have hs := encodes_string s
    exact ⟨.object (by simpa using hs.isWhole), by simp [toJson, ofJson?, hs.decode_eq]⟩
  | bytes bs =>
    have hbs := Encodes.array fun b (_ : b ∈ bs) => encodes_ofUInt64_byte b
    exact ⟨.object (by simpa using hbs.isWhole), by simp [toJson, ofJson?, hbs.decode_eq]⟩

/-- A column. -/
theorem Column.encodes_toJson (c : Column) : Encodes Column.ofJson? c.toJson c := by
  refine ⟨.object ?_, ?_⟩
  · simp [(encodes_string _).isWhole]
  · simp [ofJson?, toJson, fields?, member?, (encodes_string _).decode_eq]

/-- A mode. -/
theorem Mode.encodes_toJson (m : Mode) : Encodes Mode.ofJson? m.toJson m := by
  refine ⟨.string _, ?_⟩
  cases m <;> rfl

/-- A sink. -/
theorem SinkWrite.encodes_toJson (s : SinkWrite) : Encodes SinkWrite.ofJson? s.toJson s := by
  refine ⟨.object ?_, ?_⟩
  · simp [(encodes_string _).isWhole, (encodes_ofUInt64 _).isWhole]
  · simp [ofJson?, toJson, fields?, member?, (encodes_string _).decode_eq,
      (encodes_ofUInt64 _).decode_eq]

/-- A job. -/
theorem JobSummary.encodes_toJson (job : JobSummary) :
    Encodes JobSummary.ofJson? job.toJson job := by
  have hmode := job.mode.encodes_toJson
  have hsinks := Encodes.array fun s (_ : s ∈ job.sinks) => s.encodes_toJson
  refine ⟨.object ?_, ?_⟩
  · simp [(encodes_string _).isWhole, hmode.isWhole, hsinks.isWhole]
  · simp [ofJson?, toJson, fields?, member?, (encodes_string _).decode_eq, hmode.decode_eq,
      hsinks.decode_eq]

namespace ExecutionResult

/-- No field of the result is a floating-point number. -/
def FloatFree (r : ExecutionResult) : Prop :=
  ∀ row ∈ r.rows, ∀ v ∈ row, ∀ x, v ≠ .float x

/-- The job of a result, when it has one. -/
theorem jobOfJson?_toJson (job : JobSummary) : jobOfJson? (some job.toJson) = some (some job) := by
  have hjob : jobOfJson? (some job.toJson) = (JobSummary.ofJson? job.toJson).map some := rfl
  rw [hjob, job.encodes_toJson.decode_eq]
  rfl

/-- A result without floating-point fields, with a job or without. -/
theorem encodes_toJson {r : ExecutionResult} (h : r.FloatFree) :
    Encodes ExecutionResult.ofJson? r.toJson r := by
  have hcolumns := Encodes.array fun c (_ : c ∈ r.columns) => c.encodes_toJson
  have hrows := Encodes.array fun row hrow =>
    Encodes.array fun v hv => Value.encodes_toJson (h row hrow v hv)
  have hwhole := fun n => (encodes_ofUInt64 n).isWhole
  have hword := fun n => (encodes_ofUInt64 n).decode_eq
  obtain ⟨columns, rows, affected, millis, job⟩ := r
  cases job with
  | none =>
    refine ⟨.object ?_, ?_⟩
    · simp [hcolumns.isWhole, hrows.isWhole, hwhole]
    · simp [ofJson?, toJson, fields?, member?, jobOfJson?, hcolumns.decode_eq, hrows.decode_eq,
        hword]
  | some job =>
    refine ⟨.object ?_, ?_⟩
    · simp [hcolumns.isWhole, hrows.isWhole, hwhole, job.encodes_toJson.isWhole]
    · simp [ofJson?, toJson, fields?, member?, jobOfJson?_toJson, hcolumns.decode_eq,
        hrows.decode_eq, hword]

/-! ## Texts -/

/-- The report of a completed run in JSON form is its result on several lines. -/
theorem report_json_completed (r : ExecutionResult) :
    report .json (.completed (some r)) = r.toJson.pretty ++ "\n" := by
  simp [report, reportLines, String.join]

/-- A result is read back from the form without white space. -/
theorem read_compact {r : ExecutionResult} (h : r.FloatFree) : read r.toJson.compact = some r := by
  have hencodes := encodes_toJson h
  rw [read, Json.read_compact hencodes.isWhole]
  exact hencodes.decode_eq

/-- A result is read back from the form on several lines, also if white space follows. -/
theorem read_pretty {r : ExecutionResult} (h : r.FloatFree) {w : List Char} (hw : IsSpace w) :
    read (r.toJson.pretty ++ .ofList w) = some r := by
  have hencodes := encodes_toJson h
  rw [read, Json.read_pretty hencodes.isWhole hw]
  exact hencodes.decode_eq

/-- A result is read back from the report of the run that it completes. -/
theorem read_report {r : ExecutionResult} (h : r.FloatFree) :
    read (report .json (.completed (some r))) = some r := by
  rw [report_json_completed]
  exact read_pretty h (w := ['\n']) (by simp [IsSpace])

/-- **Results are read back.** Every result without floating-point fields is read back from both of
its written forms and from the report of the run that it completes. So whatever a text looked like
that is read as such a result (structures as arrays, unknown fields, a null that is written as a
member, a missing job), both written forms of the result are read as the text was. -/
theorem read_written :
    (∀ r : ExecutionResult, r.FloatFree →
      read r.toJson.compact = some r ∧ read r.toJson.pretty = some r ∧
        read (report .json (.completed (some r))) = some r) ∧
    ∀ (s : String) (r : ExecutionResult), read s = some r → r.FloatFree →
      read r.toJson.compact = read s ∧ read r.toJson.pretty = read s ∧
        read (report .json (.completed (some r))) = read s := by
  have hforms : ∀ r : ExecutionResult, r.FloatFree →
      read r.toJson.compact = some r ∧ read r.toJson.pretty = some r ∧
        read (report .json (.completed (some r))) = some r := by
    intro r h
    refine ⟨read_compact h, ?_, read_report h⟩
    simpa using read_pretty h (w := []) (by simp [IsSpace])
  refine ⟨hforms, fun s r hread h => ?_⟩
  rw [hread]
  exact hforms r h

/-- A text in other forms than the written ones: an unknown field, fields in another order, columns
as arrays, null as a member, and no job in the place of one. -/
def looseText : String :=
  "\x7b\"rows\": [[\x7b\"Null\": null\x7d, \x7b\"Int\": -1\x7d]],
    \"columns\": [[\"a\", \"T\"], [\"b\", \"T\"]],
    \"rows_affected\": 0, \"note\": [true], \"execution_time\": 7, \"job\": null\x7d"

/-- The result that is read from that text is read back from its written forms. -/
theorem read_written_looseText :
    let r : ExecutionResult :=
      { columns := [⟨"a", "T"⟩, ⟨"b", "T"⟩], rows := [[.null, .int (-1)]], millis := 7 }
    read looseText = some r ∧ r.FloatFree ∧
      read r.toJson.compact = some r ∧ read (report .json (.completed (some r))) = some r := by
  intro r
  have hread : read looseText = some r := by cbv
  have hfree : r.FloatFree := by simp [r, FloatFree]
  obtain ⟨hcompact, -, hreport⟩ := read_written.2 looseText r hread hfree
  exact ⟨hread, hfree, hcompact.trans hread, hreport.trans hread⟩

end ExecutionResult

end SqlJob
