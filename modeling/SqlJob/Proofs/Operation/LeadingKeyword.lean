import SqlJob.Proofs.Engine.RowCount
import SqlJob.Proofs.Operation.Reading
import SqlJob.Proofs.Sql.Lexing
import SqlJob.Proofs.Text.Upper

/-!
# The keyword of a statement and its first word

A statement that asks for rows is told by its keyword, and what the keyword is depends on the
layout of the statement. The grammar takes a statement by its first word, behind white space,
comments and opening parentheses (`Sql.Lexer.FirstWord`). But the keyword is what stands before the
first white space of the text, without what is neither letter nor digit at its ends. The two agree
if up to the next white space neither letters nor digits stand around the word (`StandsAlone`,
`leadingKeyword_mem_iff`). In `SELECT(1)` a digit stands behind it, and the keyword is `SELECT(1`.
If there is white space somewhere before the word, then the word plays no part in the keyword
(`leadingKeyword_of_blank`).

`keyword_of_firstWord` puts this together for the statements that are understood, and says what
comes of the keyword: the rows that the database answers, or no rows.
-/

namespace SqlJob

open Text

/-! ## Around a word -/

/-- What is dropped from the start of a text does not go beyond what follows, if this is to stay. -/
theorem dropWhile_append_of_head? {p : Char → Bool} (a : List Char) {t : List Char}
    (h : ∀ c ∈ t.head?, p c = false) : (a ++ t).dropWhile p = a.dropWhile p ++ t := by
  rw [List.dropWhile_append]
  split_ifs with hempty
  · rw [List.isEmpty_iff.mp hempty]
    cases t with
    | nil => rfl
    | cons c t => exact List.dropWhile_cons_of_neg (by simp [h c rfl])
  · rfl

/-- Stripping a text with a word in it that is to stay strips what stands in front of the word and
behind it. -/
theorem stripBoth_append {p : Char → Bool} {w : List Char} (hne : w ≠ [])
    (hw : ∀ c ∈ w, p c = false) (a b : List Char) :
    stripBoth p (a ++ (w ++ b)) =
      a.dropWhile p ++ (w ++ (b.reverse.dropWhile p).reverse) := by
  have hfirst : ∀ c ∈ (w ++ b).head?, p c = false := by
    intro c hc
    rw [List.head?_append_of_ne_nil _ hne] at hc
    exact hw c (List.mem_of_mem_head? hc)
  have hlast : ∀ c ∈ (w.reverse ++ (a.dropWhile p).reverse).head?, p c = false := by
    intro c hc
    rw [List.head?_append_of_ne_nil _ (by simpa using hne)] at hc
    exact hw c (List.mem_reverse.mp (List.mem_of_mem_head? hc))
  unfold stripBoth
  rw [dropWhile_append_of_head? a hfirst, List.reverse_append, List.reverse_append,
    List.append_assoc, dropWhile_append_of_head? _ hlast]
  simp

/-- What is dropped from the end of a text is all of it if none is to stay. -/
theorem reverse_dropWhile_reverse_eq_nil_iff {p : Char → Bool} {b : List Char} :
    (b.reverse.dropWhile p).reverse = [] ↔ ∀ c ∈ b, p c = true := by
  simp [List.dropWhile_eq_nil_iff]

/-! ## Words that ask for rows -/

/-- The letters of a word that asks for rows are letters, in whatever case. -/
theorem letters_of_mem_queryKeywords {w : String} (h : upper w ∈ queryKeywords) :
    w.toList ≠ [] ∧ ∀ c ∈ w.toList, isAlphanumeric c = true ∧ isBlank c = false := by
  have hkeywords : queryKeywords.all
      (fun k => !k.toList.isEmpty && k.toList.all Char.isUpper) = true := by
    decide
  have hkeyword := List.all_eq_true.mp hkeywords _ h
  simp only [Bool.and_eq_true, Bool.not_eq_true', List.isEmpty_eq_false_iff,
    List.all_eq_true] at hkeyword
  obtain ⟨hne, hletters⟩ := hkeyword
  rw [upper, String.toList_ofList] at hne hletters
  refine ⟨fun hnil => hne (toUpper_eq_nil_iff.mpr hnil), fun c hc => ?_⟩
  exact isAlphanumeric_of_upperChar fun m hm => hletters m (List.mem_flatMap.mpr ⟨c, hc, hm⟩)

/-- No word that asks for rows is a part of another one. -/
theorem eq_of_infix_queryKeywords : ∀ k ∈ queryKeywords, ∀ k' ∈ queryKeywords,
    k.toList <:+: k'.toList → k = k' := by
  decide

/-- Up to the next white space neither letters nor digits stand around a word. -/
structure StandsAlone (lead behind : List Char) : Prop where
  lead : ∀ c ∈ lead, isAlphanumeric c = false
  behind : ∀ c ∈ behind.takeWhile fun c => !isBlank c, isAlphanumeric c = false

/-- What stands alone is all that is left when a text around a word is stripped. -/
theorem standsAlone_iff {lead behind : List Char} :
    StandsAlone lead behind ↔ lead.dropWhile (fun c => !isAlphanumeric c) = [] ∧
      ((behind.takeWhile fun c => !isBlank c).reverse.dropWhile
        fun c => !isAlphanumeric c).reverse = [] := by
  rw [reverse_dropWhile_reverse_eq_nil_iff, List.dropWhile_eq_nil_iff]
  simp only [Bool.not_eq_true']
  exact ⟨fun h => ⟨h.lead, h.behind⟩, fun h => ⟨h.1, h.2⟩⟩

/-- The keyword of a text in which no white space leads to a word is the word with what is left of
its surroundings. -/
theorem toList_leadingKeyword {sql : String} {lead w behind : List Char}
    (hsql : sql.toList = lead ++ (w ++ behind)) (hlead : ∀ c ∈ lead, isBlank c = false)
    (hne : w ≠ []) (hw : ∀ c ∈ w, isAlphanumeric c = true ∧ isBlank c = false) :
    (leadingKeyword sql).toList =
      toUpper (lead.dropWhile fun c => !isAlphanumeric c) ++ (toUpper w ++
        toUpper ((behind.takeWhile fun c => !isBlank c).reverse.dropWhile
          fun c => !isAlphanumeric c).reverse) := by
  have hsolid : ∀ c ∈ lead ++ w, isBlank c = false := fun c hc =>
    (List.mem_append.mp hc).elim (hlead c) fun hc => (hw c hc).2
  have hword : firstWord sql.toList = lead ++ (w ++ behind.takeWhile fun c => !isBlank c) := by
    have hhead : ∀ c ∈ (lead ++ w ++ behind).head?, isBlank c = false := by
      intro c hc
      rw [List.head?_append_of_ne_nil _ (by simp [hne])] at hc
      exact hsolid c (List.mem_of_mem_head? hc)
    rw [hsql, ← List.append_assoc, firstWord, trimStart_of_head? hhead,
      List.takeWhile_append_of_pos fun c hc => by simp [hsolid c hc], List.append_assoc]
  unfold leadingKeyword
  rw [String.toList_ofList, hword, stripBoth_append hne fun c hc => by simp [(hw c hc).1],
    toUpper_append, toUpper_append]

/-- The keyword of a text in which no white space leads to a word that asks for rows is such a word
exactly if the word stands alone, and then it is that word. -/
theorem leadingKeyword_mem_iff {sql w : String} {lead behind : List Char}
    (hsql : sql.toList = lead ++ (w.toList ++ behind)) (hlead : ∀ c ∈ lead, isBlank c = false)
    (hw : upper w ∈ queryKeywords) :
    (leadingKeyword sql ∈ queryKeywords ↔ StandsAlone lead behind) ∧
      (leadingKeyword sql = upper w ↔ StandsAlone lead behind) := by
  obtain ⟨hne, hletters⟩ := letters_of_mem_queryKeywords hw
  have hlist := toList_leadingKeyword hsql hlead hne hletters
  rw [standsAlone_iff]
  -- From here on it only counts whether anything is left around the word.
  generalize lead.dropWhile (fun c => !isAlphanumeric c) = a at *
  generalize ((behind.takeWhile fun c => !isBlank c).reverse.dropWhile
    fun c => !isAlphanumeric c).reverse = b at *
  have hupper : (upper w).toList = toUpper w.toList := String.toList_ofList
  have hsame : leadingKeyword sql = upper w ↔ a = [] ∧ b = [] := by
    rw [← String.toList_inj, hlist, hupper, ← toUpper_eq_nil_iff (s := a),
      ← toUpper_eq_nil_iff (s := b)]
    constructor
    · intro h
      have hlength := congrArg List.length h
      simp only [List.length_append] at hlength
      exact ⟨List.length_eq_zero_iff.mp (by omega), List.length_eq_zero_iff.mp (by omega)⟩
    · rintro ⟨ha, hb⟩
      rw [ha, hb, List.nil_append, List.append_nil]
  refine ⟨⟨fun hmem => hsame.mp ?_, fun h => hsame.mpr h ▸ hw⟩, hsame⟩
  -- A keyword that asks for rows and has the word in it is the word: none is a part of another.
  have hpart : (upper w).toList <:+: (leadingKeyword sql).toList := by
    rw [hlist, hupper]
    exact ⟨toUpper a, toUpper b, by simp⟩
  exact (eq_of_infix_queryKeywords _ hw _ hmem hpart).symm

/-- The keyword of a text with white space somewhere in its start is that of the start. -/
theorem leadingKeyword_of_blank {sql : String} {lead t : List Char}
    (hsql : sql.toList = lead ++ t) (htrim : IsTrimmed sql.toList)
    (hblank : ∃ c ∈ lead, isBlank c = true) :
    leadingKeyword sql = leadingKeyword (.ofList lead) := by
  obtain ⟨c, hc, hcblank⟩ := hblank
  have hlead : ∀ c ∈ lead.head?, isBlank c = false := by
    intro c' hc'
    refine htrim.head c' ?_
    rwa [hsql, List.head?_append_of_ne_nil _ (List.ne_nil_of_mem hc)]
  -- The first white space is met before the text behind the start is reached.
  have hfirst : firstWord sql.toList = firstWord lead := by
    unfold firstWord
    rw [trimStart_of_head? htrim.head, trimStart_of_head? hlead, hsql, List.takeWhile_append,
      if_neg]
    intro hlength
    have hwhole := (List.takeWhile_prefix _).eq_of_length hlength
    have hsolid := List.takeWhile_eq_self_iff.mp hwhole c hc
    simp [hcblank] at hsolid
  rw [leadingKeyword, hfirst, leadingKeyword, String.toList_ofList]

/-! ## The rows of a statement -/

namespace ConnectedEngine

variable {δ : Type} {B : Backend δ} {e : ConnectedEngine δ} {sql keyword : String}

/-- With a keyword that asks for rows, the result has the rows that the database answers. -/
theorem rows_of_mem_queryKeywords (hkeyword : keyword ∈ queryKeywords) (hopen : e.isClosed = false)
    {d : δ} {columns : List Column} {rows : List (List Value)}
    (hquery : B.query e.database sql = (d, .ok (columns, rows))) :
    ∃ result, executeImmediate B e (.other sql keyword) = ({ e with database := d }, .ok result) ∧
      result.rows = rows := by
  refine ⟨{ columns := if rows.isEmpty then [] else columns, rows }, ?_, rfl⟩
  simp only [executeImmediate]
  rw [if_pos hkeyword]
  simp [runQuery, immediate, run, hopen, hquery]

/-- With any other keyword there are no rows in the result. -/
theorem rows_eq_nil_of_not_mem_queryKeywords (hkeyword : keyword ∉ queryKeywords)
    {e' : ConnectedEngine δ} {result : ExecutionResult}
    (h : executeImmediate B e (.other sql keyword) = (e', .ok result)) : result.rows = [] := by
  simp only [executeImmediate] at h
  rw [if_neg hkeyword] at h
  obtain ⟨n, -, rfl⟩ := exists_of_immediate_run h
  rfl

end ConnectedEngine

open ConnectedEngine

/-- What becomes of a statement of no particular kind with a first word that asks for rows. If no
white space leads to the word, then the keyword asks for rows exactly if the word stands alone, and
then it is that word. Otherwise it is the keyword of what leads to the word. With a keyword that
asks for rows the result has the rows that the database answers, and with any other it has none. -/
theorem keyword_of_firstWord {r : StatementReader} {statement sql keyword w : String}
    (hread : r.read statement = .ok (.other sql keyword))
    (hfirst : Sql.firstWord? r.dialect sql = some w) (hw : upper w ∈ queryKeywords) :
    ∃ lead behind, Sql.Lexer.FirstWord r.dialect sql.toList lead w behind ∧
      ((∀ c ∈ lead, isBlank c = false) →
        (keyword ∈ queryKeywords ↔ StandsAlone lead behind) ∧
          (keyword = upper w ↔ StandsAlone lead behind)) ∧
      ((∃ c ∈ lead, isBlank c = true) → keyword = leadingKeyword (.ofList lead)) ∧
      ∀ {δ : Type} (B : Backend δ) (e : ConnectedEngine δ),
        (keyword ∈ queryKeywords → e.isClosed = false → ∀ d columns rows,
          B.query e.database sql = (d, .ok (columns, rows)) →
            ∃ result, executeImmediate B e (.other sql keyword) =
              ({ e with database := d }, .ok result) ∧ result.rows = rows) ∧
        (keyword ∉ queryKeywords → ∀ e' result,
          executeImmediate B e (.other sql keyword) = (e', .ok result) → result.rows = []) := by
  obtain ⟨lead, behind, hword⟩ := Sql.exists_firstWord hfirst
  have htrim : IsTrimmed sql.toList := by
    have hsql : sql = trimmed statement := StatementReader.sql_of_read hread
    rw [hsql, trimmed, String.toList_ofList]
    exact isTrimmed_trim _
  obtain rfl : keyword = leadingKeyword sql := StatementReader.keyword_of_read hread
  refine ⟨lead, behind, hword, fun hlead => leadingKeyword_mem_iff hword.split hlead hw,
    leadingKeyword_of_blank hword.split htrim, fun B e => ⟨?_, ?_⟩⟩
  · exact fun hkeyword hopen d columns rows => rows_of_mem_queryKeywords hkeyword hopen
  · exact fun hkeyword e' result => rows_eq_nil_of_not_mem_queryKeywords hkeyword

/-- A word with a comment without white space in front of it and white space behind it is the
keyword, in whatever case. -/
theorem keyword_of_firstWord_values :
    StatementReader.default.read "/**/values (1)" = .ok (.other "/**/values (1)" "VALUES") ∧
      Sql.firstWord? .sqlite "/**/values (1)" = some "values" ∧ upper "values" ∈ queryKeywords ∧
      ∃ lead behind, Sql.Lexer.FirstWord .sqlite "/**/values (1)".toList lead "values" behind ∧
        ((∀ c ∈ lead, isBlank c = false) → StandsAlone lead behind) := by
  have hread : StatementReader.default.read "/**/values (1)" =
      .ok (.other "/**/values (1)" "VALUES") := by
    decide +kernel
  have hfirst : Sql.firstWord? .sqlite "/**/values (1)" = some "values" := by decide +kernel
  have hw : upper "values" ∈ queryKeywords := by decide +kernel
  obtain ⟨lead, behind, hword, hmem, -, -⟩ := keyword_of_firstWord hread hfirst hw
  exact ⟨hread, hfirst, hw, lead, behind, hword, fun hlead => (hmem hlead).1.mp (by decide)⟩

/-- A parenthesis with no white space in front of it and a digit in it make another keyword of the
first word, and in memory the result is without its row. -/
theorem rows_of_parenthesis_inMemory :
    let E := engine Database.Link.backend
    let e := Database.inMemory .empty
    let tight := "SELECT(1)"
    let spaced := "SELECT (1)"
    Sql.firstWord? .sqlite tight = some "SELECT" ∧
      StatementReader.default.read tight = .ok (.other tight "SELECT(1") ∧
      (E.executeImmediate e (.other tight "SELECT(1")).2.toOption.map (·.rows.length) = some 0 ∧
      StatementReader.default.read spaced = .ok (.other spaced "SELECT") ∧
      (E.executeImmediate e (.other spaced "SELECT")).2.toOption.map (·.rows.length) = some 1 := by
  decide +kernel

end SqlJob
