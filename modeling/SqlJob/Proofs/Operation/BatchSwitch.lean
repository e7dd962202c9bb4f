import SqlJob.Proofs.Operation.Setting
import SqlJob.Script.ModeSwitch
import SqlJob.Session.Layers

/-!
# Two readings of the batch switch

Whether a script asks for batch mode is decided twice: on its statements before the run, and by the
option that a `SET` statement stores during the run. This file compares the two.

Both look at the parts of an assignment. Before the run each part must be its word in any case, and
a quote may stand at either end (`isBatchSwitch_iff`). During the run the parts are what is left
between matching quotes; the key must be the name of the option, and the value the word in any case
(`setsBatch_iff`). The difference is in the quotes: a word with quotes at its ends is a word between
matching quotes exactly if the quotes match and there is no white space next to them
(`isLoose_and_isPaired_iff`).

So the two agree where an assignment is plainly written (`isBatchSwitch_agrees`). They do not agree
on a key in upper case, for one, which is another option's name during the run
(`isBatchSwitch_upperCase`).
-/

namespace SqlJob

namespace SetSyntax

open Text ModeSwitch

/-! ## Quotes that match -/

/-- A quote stands at one end of the text exactly if the same stands at the other. -/
def IsPaired (s : List Char) : Prop :=
  ∀ q, IsQuote q → (s.head? = some q ↔ s.getLast? = some q)

/-- There is no white space next to the quotes, if the text stands between two of them. -/
def IsTight (s : List Char) : Prop :=
  ∀ q inner, IsQuote q → s = q :: (inner ++ [q]) → IsTrimmed inner

/-- No letter of the text is in upper case. -/
def IsLower (s : List Char) : Prop := ∀ c ∈ s, c.isUpper = false

instance : DecidablePred IsLower := fun s =>
  decidable_of_iff (s.all fun c => !c.isUpper) (by simp [IsLower])

/-- A text between matching quotes is paired. -/
theorem isPaired_quoted (q : Char) (inner : List Char) : IsPaired (q :: (inner ++ [q])) := by
  intro p _
  rw [getLast?_quoted, List.head?_cons]

/-- A text between matching quotes is tight if it is trimmed. -/
theorem isTight_quoted (q : Char) {inner : List Char} (h : IsTrimmed inner) :
    IsTight (q :: (inner ++ [q])) := by
  intro p inner' _ heq
  obtain ⟨-, hinner⟩ := List.cons_eq_cons.mp heq
  obtain ⟨rfl, -⟩ := List.append_inj' hinner rfl
  exact h

/-- In what is left of a text without its quotes no other letter is in upper case. -/
theorem IsLower.unquote {s : List Char} (h : IsLower s) (hs : IsTrimmed s) :
    IsLower (SetSyntax.unquote s) := by
  rcases unquote_cases hs with ⟨q, inner, -, rfl, hunquote⟩ | ⟨-, hunquote⟩
  · intro c hc
    rw [hunquote] at hc
    have hinner := (trim_infix_self inner).subset hc
    exact h c (by simp [hinner])
  · rw [hunquote]
    exact h

end SetSyntax

namespace ModeSwitch.IsBare

open Text SetSyntax

/-- A bare text stands between no quotes. -/
theorem ne_quoted {s : List Char} (h : IsBare s) (q : Char) (inner : List Char)
    (hq : IsQuote q) : s ≠ q :: (inner ++ [q]) := by
  rintro rfl
  exact h.isQuote q List.mem_cons_self hq

/-- No quote stands at the ends of a bare text. -/
theorem isPaired {s : List Char} (h : IsBare s) : IsPaired s := by
  intro q hq
  constructor
  · intro hhead
    exact absurd hq (h.isQuote q (List.mem_of_mem_head? hhead))
  · intro hlast
    exact absurd hq (h.isQuote q (List.mem_of_getLast? hlast))

/-- What is left of a bare text between matching quotes is that text. -/
theorem unquote_quoted {s : List Char} (h : IsBare s) {q : Char} (hq : IsQuote q) :
    unquote (q :: (s ++ [q])) = s := by
  rw [unquote_of_peels (isTrimmed_quoted hq s) (.quoted hq rfl), h.isTrimmed.trim_eq]

/-- What is left of a bare text without quotes is that text. -/
theorem unquote_eq {s : List Char} (h : IsBare s) : unquote s = s := by
  rw [unquote_of_peels h.isTrimmed (.bare fun q inner hq => h.ne_quoted q inner hq),
    h.isTrimmed.trim_eq]

end ModeSwitch.IsBare

namespace SetSyntax

open Text ModeSwitch

/-- A bare word with quotes that match stands between two of them or none. -/
theorem quotes_of_isPaired {q w q' : List Char} (hq : IsOptQuote q) (hw : IsBare w)
    (hq' : IsOptQuote q') (h : IsPaired (q ++ w ++ q')) :
    q = [] ∧ q' = [] ∨ ∃ c, IsQuote c ∧ q = [c] ∧ q' = [c] := by
  have hhead : ∀ c, w.head? = some c → ¬ IsQuote c :=
    fun c hc => hw.isQuote c (List.mem_of_mem_head? hc)
  have hlast : ∀ c, w.getLast? = some c → ¬ IsQuote c :=
    fun c hc => hw.isQuote c (List.mem_of_getLast? hc)
  rcases hq with rfl | ⟨c, hc, rfl⟩
  · rcases hq' with rfl | ⟨c', hc', rfl⟩
    · exact .inl ⟨rfl, rfl⟩
    · -- The quote behind the word would have to stand in front of it too.
      have hfirst := (h c' hc').mpr (by simp)
      rw [List.nil_append, List.head?_append_of_ne_nil _ hw.ne_nil] at hfirst
      exact absurd hc' (hhead c' hfirst)
  · have hend := (h c hc).mp (by simp)
    rcases hq' with rfl | ⟨c', hc', rfl⟩
    · rw [List.append_nil, List.getLast?_append_of_ne_nil _ hw.ne_nil] at hend
      exact absurd hc (hlast c hend)
    · rw [List.singleton_append, List.cons_append, getLast?_quoted] at hend
      obtain rfl : c' = c := by simpa using hend
      exact .inr ⟨c', hc', rfl, rfl⟩

/-- A bare word with quotes that match is what is left of the text between quotes, if there is no
white space next to them. -/
theorem isLoose_and_isPaired_iff {word s : List Char} (hword : IsBare word) (hs : IsTrimmed s) :
    IsLoose word s ∧ IsPaired s ↔ Spells word (unquote s) ∧ IsTight s := by
  constructor
  · rintro ⟨⟨q, w, q', hq, hw, hq', rfl⟩, hpaired⟩
    have hbare := hw.isBare hword
    -- The quotes match, so there are two of them or none.
    rcases quotes_of_isPaired hq hbare hq' hpaired with ⟨rfl, rfl⟩ | ⟨c, hc, rfl, rfl⟩
    · rw [List.nil_append, List.append_nil, hbare.unquote_eq]
      exact ⟨hw, fun p inner hp heq => absurd heq (hbare.ne_quoted p inner hp)⟩
    · rw [List.singleton_append, List.cons_append, hbare.unquote_quoted hc]
      exact ⟨hw, isTight_quoted c hbare.isTrimmed⟩
  · rintro ⟨hspells, htight⟩
    -- Nothing is trimmed between the quotes, so the text between them is the word itself.
    have hnone : IsOptQuote [] := .inl rfl
    rcases unquote_cases hs with ⟨q, inner, hq, rfl, hunquote⟩ | ⟨-, hunquote⟩
    · rw [hunquote, (htight q inner hq rfl).trim_eq] at hspells
      have hone : IsOptQuote [q] := .inr ⟨q, hq, rfl⟩
      exact ⟨⟨[q], inner, [q], hone, hspells, hone, by simp⟩, isPaired_quoted q inner⟩
    · rw [hunquote] at hspells
      exact ⟨⟨[], s, [], hnone, hspells, hnone, by simp⟩, (hspells.isBare hword).isPaired⟩

end SetSyntax

open Text SetSyntax ModeSwitch

/-! ## The reading before the run -/

/-- The name of the option is a bare word. -/
theorem isBare_runtimeModeKey : IsBare runtimeModeKey.toList := by decide

/-- The word for batch mode is bare. -/
theorem isBare_batch : IsBare "batch".toList := by decide

/-- An equals sign is followed by what stands behind it. -/
theorem afterEquals_eq_some_iff {s t : List Char} : afterEquals s = some t ↔ s = '=' :: t := by
  unfold afterEquals
  split
  · next t' => simp
  · next hne =>
    constructor
    · intro h
      simp at h
    · rintro rfl
      exact absurd rfl (hne t)

/-- Behind the word `SET` the switch needs white space, as anything else does that is not the bare
word. -/
theorem rest?_eq_some_iff_of_ne_nil {s r : List Char} (hr : r ≠ []) :
    rest? s = some r ↔ ∃ t, afterWord "set".toList s = some t ∧ afterSpace t = some r := by
  unfold rest?
  constructor
  · intro h
    split at h
    · exact absurd (Option.some.inj h).symm hr
    · next t _ hword => exact ⟨t, hword, h⟩
    · simp at h
  · rintro ⟨t, hword, hspace⟩
    rw [hword]
    cases t with
    | nil => simp [afterSpace] at hspace
    | cons c t => exact hspace

/-- The switch is read in what follows the word `SET`: key, equals sign and value. -/
theorem isBatchSwitch_eq_true_iff {statement : String} :
    isBatchSwitch statement = true ↔
      ∃ r s y t, rest? (trim statement.toList) = some r ∧
        afterWord runtimeModeKey.toList (dropQuote r) = some s ∧
        afterEquals (trimStart (dropQuote s)) = some y ∧
        afterWord "batch".toList (dropQuote (trimStart y)) = some t ∧ dropQuote t = [] := by
  have hne : ∀ r s, afterWord runtimeModeKey.toList (dropQuote r) = some s → r ≠ [] := by
    rintro r s hkey rfl
    simp [dropQuote, runtimeModeKey, afterWord] at hkey
  simp only [isBatchSwitch, isBatch, beq_iff_eq, Option.bind_eq_bind, Option.bind_eq_some_iff,
    Option.pure_def, Option.some.injEq]
  constructor
  · rintro ⟨t₀, hset, r, hspace, s, hkey, y, hequals, t, hvalue, hend⟩
    have hrest := (rest?_eq_some_iff_of_ne_nil (hne r s hkey)).mpr ⟨t₀, hset, hspace⟩
    exact ⟨r, s, y, t, hrest, hkey, hequals, hvalue, hend⟩
  · rintro ⟨r, s, y, t, hrest, hkey, hequals, hvalue, hend⟩
    obtain ⟨t₀, hset, hspace⟩ := (rest?_eq_some_iff_of_ne_nil (hne r s hkey)).mp hrest
    exact ⟨t₀, hset, r, hspace, s, hkey, y, hequals, t, hvalue, hend⟩

/-- White space does not start with a quote, nor does an equals sign behind it. -/
theorem not_isQuote_of_isSpace {a y : List Char} (ha : IsSpace a) :
    ∀ c ∈ (a ++ '=' :: y).head?, ¬ IsQuote c := by
  intro c hc hquote
  cases a with
  | nil =>
    obtain rfl : '=' = c := by simpa using hc
    exact absurd hquote (by decide)
  | cons d a =>
    obtain rfl : d = c := by simpa using hc
    have hblank := ha d List.mem_cons_self
    rcases hquote with rfl | rfl <;> exact absurd hblank (by decide)

/-- A statement is the batch switch if the parts of its assignment are the option's name and the
word for batch mode, in any case and with quotes that need not match. -/
theorem isBatchSwitch_iff {statement : String} :
    isBatchSwitch statement = true ↔
      ∃ k v, parts? statement.toList = some (k, v) ∧ IsLoose runtimeModeKey.toList k ∧
        IsLoose "batch".toList v := by
  rw [isBatchSwitch_eq_true_iff]
  constructor
  · rintro ⟨r, s, y, t, hrest, hkey, hequals, hvalue, hend⟩
    -- What is read past is the key, white space and the equals sign, white space and the value.
    obtain ⟨k, hk, rfl⟩ := exists_isLoose hkey
    obtain ⟨v, hv, hy⟩ := exists_isLoose hvalue
    obtain ⟨a, ha, hs⟩ := exists_eq_append_trimStart (dropQuote s)
    obtain ⟨b, hb, hyb⟩ := exists_eq_append_trimStart y
    rw [afterEquals_eq_some_iff.mp hequals] at hs
    rw [hend, List.append_nil] at hy
    rw [hy] at hyb
    have hnone : IsSpace [] := by simp [IsSpace]
    have hequal : '=' ∉ k ++ a := by
      intro hmem
      rcases List.mem_append.mp hmem with hmem | hmem
      · exact (hk.isBlank isBare_runtimeModeKey hmem).2 rfl
      · exact absurd (ha '=' hmem) (by decide)
    refine ⟨k, v, parts?_eq_some_iff.mpr ⟨k ++ a, y, ?_, hequal, ?_, ?_⟩, hk, hv⟩
    · rw [hrest, hs, List.append_assoc]
    · exact trim_append hnone (hk.isTrimmed isBare_runtimeModeKey) ha
    · rw [hyb, ← List.append_nil (b ++ v)]
      exact trim_append hb (hv.isTrimmed isBare_batch) hnone
  · rintro ⟨k, v, hparts, hk, hv⟩
    obtain ⟨x, y, hrest, -, hx, hy⟩ := parts?_eq_some_iff.mp hparts
    obtain ⟨w, a, -, -, -, hhead, htrim⟩ := rest?_eq_some_iff.mp hrest
    have hxne : x ≠ [] := by
      rintro rfl
      exact hk.ne_nil isBare_runtimeModeKey hx.symm
    have hyne : y ≠ [] := by
      rintro rfl
      exact hv.ne_nil isBare_batch hy.symm
    -- The key starts where white space ends, and the value ends where the trimmed text does.
    rw [List.head?_append_of_ne_nil _ hxne] at hhead
    have hlast : ∀ c ∈ y.getLast?, isBlank c = false := by
      intro c hc
      refine (isTrimmed_trim statement.toList).last c ?_
      have hassoc : w ++ (a ++ (x ++ '=' :: y)) = (w ++ (a ++ (x ++ ['=']))) ++ y := by simp
      rw [htrim, hassoc, List.getLast?_append_of_ne_nil _ hyne]
      exact hc
    obtain ⟨b, hb, hxb⟩ := exists_eq_append_trimEnd x
    have hkey : x = k ++ b := by
      rw [← hx, trim, trimStart_of_head? hhead]
      exact hxb
    have hvalue : trimStart y = v := by rw [← hy, trim_of_getLast? hlast]
    obtain ⟨s, hafterKey, hs⟩ :=
      hk.afterWord_append isBare_runtimeModeKey (not_isQuote_of_isSpace (y := y) hb)
    obtain ⟨t, hafterValue, ht⟩ := hv.afterWord_append isBare_batch (t := []) (by simp)
    refine ⟨_, s, y, t, hrest, ?_, ?_, ?_, ht⟩
    · rw [hkey, List.append_assoc]
      exact hafterKey
    · rw [hs, trimStart_append_left hb]
      exact afterEquals_eq_some_iff.mpr (trimStart_of_head? (by simp; decide))
    · rw [hvalue, ← List.append_nil v]
      exact hafterValue

/-! ## The reading during the run -/

/-- The statement is read as an assignment to the runtime-mode option, and the options have batch
mode when the value is stored in them. -/
def SetsBatch (r : StatementReader) (o : Options) (statement : String) : Prop :=
  ∃ c value, r.read statement = .ok (.setOption c) ∧
    c.assignment? = some (runtimeModeKey, value) ∧ (o.set runtimeModeKey value).mode = .batch

/-- A value stands for batch mode if it spells the word for it. -/
theorem ofOptionValue_eq_batch_iff {value : String} :
    Mode.ofOptionValue value = .batch ↔ Spells "batch".toList value.toList := by
  rw [spells_iff_map_toLower (by decide), Mode.ofOptionValue]
  split_ifs with h
  · exact iff_of_true rfl h
  · exact iff_of_false nofun h

/-- A statement sets batch mode if what is left of the parts of its assignment is the option's name
and the word for batch mode in any case. -/
theorem setsBatch_iff {r : StatementReader} {o : Options} {statement : String} :
    SetsBatch r o statement ↔
      ∃ k v, parts? statement.toList = some (k, v) ∧ unquote k = runtimeModeKey.toList ∧
        Spells "batch".toList (unquote v) := by
  have hsetting : SetsBatch r o statement ↔
      ∃ value, settingOf? statement = some (runtimeModeKey, value) ∧
        Mode.ofOptionValue value = .batch := by
    simp only [SetsBatch, Options.mode_set, ← exists_read_eq_setOption_iff r]
    constructor
    · rintro ⟨c, value, hread, hassigns, hbatch⟩
      exact ⟨value, ⟨c, hread, hassigns⟩, hbatch⟩
    · rintro ⟨value, ⟨c, hread, hassigns⟩, hbatch⟩
      exact ⟨c, value, hread, hassigns, hbatch⟩
  simp only [hsetting, settingOf?_eq_some_iff, ofOptionValue_eq_batch_iff]
  constructor
  · rintro ⟨value, ⟨k, v, hparts, hk, -, hv, -⟩, hbatch⟩
    exact ⟨k, v, hparts, hk, hv ▸ hbatch⟩
  · rintro ⟨k, v, hparts, hk, hbatch⟩
    have hne : String.ofList (unquote v) ≠ "" := by
      have hbare := (hbatch.isBare isBare_batch).ne_nil
      simpa using hbare
    exact ⟨.ofList (unquote v), ⟨k, v, hparts, hk, by decide, by simp, hne⟩, by simpa using hbatch⟩

/-! ## Where the two agree -/

/-- What spells the option's name in lower case is the name. -/
theorem eq_runtimeModeKey_of_isLower {s : List Char} (h : Spells runtimeModeKey.toList s)
    (hlower : IsLower s) : s = runtimeModeKey.toList := by
  rw [spells_iff_map_toLower (by decide)] at h
  have hsame : s.map Char.toLower = s := by
    conv_rhs => rw [← List.map_id s]
    exact List.map_congr_left fun c hc => toLower_of_isUpper_eq_false (hlower c hc)
  rw [← h, hsame]

/-- The two readings of a statement agree, but for the writing of its parts. What is recognised
before the run is read so during the run if the key is in lower case and the quotes match. What is
read so during the run is recognised before it if no white space stands next to matching quotes. -/
theorem isBatchSwitch_agrees (r : StatementReader) (o : Options) (statement : String) :
    (isBatchSwitch statement = true →
      (∀ k v, parts? statement.toList = some (k, v) → IsLower k ∧ IsPaired k ∧ IsPaired v) →
      SetsBatch r o statement) ∧
    (SetsBatch r o statement →
      (∀ k v, parts? statement.toList = some (k, v) → IsTight k ∧ IsTight v) →
      isBatchSwitch statement = true) := by
  rw [isBatchSwitch_iff, setsBatch_iff]
  constructor
  -- The parts are the same for both readings, so each part is compared on its own.
  · rintro ⟨k, v, hparts, hk, hv⟩ hplain
    obtain ⟨hlower, hkpaired, hvpaired⟩ := hplain k v hparts
    obtain ⟨hktrim, hvtrim⟩ := isTrimmed_of_parts? hparts
    obtain ⟨hkspells, -⟩ :=
      (isLoose_and_isPaired_iff isBare_runtimeModeKey hktrim).mp ⟨hk, hkpaired⟩
    obtain ⟨hvspells, -⟩ := (isLoose_and_isPaired_iff isBare_batch hvtrim).mp ⟨hv, hvpaired⟩
    exact ⟨k, v, hparts, eq_runtimeModeKey_of_isLower hkspells (hlower.unquote hktrim), hvspells⟩
  · rintro ⟨k, v, hparts, hk, hvspells⟩ htight
    obtain ⟨hktight, hvtight⟩ := htight k v hparts
    obtain ⟨hktrim, hvtrim⟩ := isTrimmed_of_parts? hparts
    have hkspells : Spells runtimeModeKey.toList (unquote k) := by
      rw [hk, spells_iff_map_toLower (by decide)]
      decide
    obtain ⟨hkloose, -⟩ :=
      (isLoose_and_isPaired_iff isBare_runtimeModeKey hktrim).mpr ⟨hkspells, hktight⟩
    obtain ⟨hvloose, -⟩ := (isLoose_and_isPaired_iff isBare_batch hvtrim).mpr ⟨hvspells, hvtight⟩
    exact ⟨k, v, hparts, hkloose, hvloose⟩

/-- A switch with quotes around its key and its value is recognised before the run and read so
during the run. -/
theorem isBatchSwitch_agrees_quoted :
    SetsBatch .default .empty "SET 'execution.runtime-mode' = \"BATCH\"" ∧
      isBatchSwitch "SET 'execution.runtime-mode' = \"BATCH\"" = true := by
  have hparts : ∀ k v, parts? "SET 'execution.runtime-mode' = \"BATCH\"".toList = some (k, v) →
      k = '\'' :: (runtimeModeKey.toList ++ ['\'']) ∧ v = '"' :: ("BATCH".toList ++ ['"']) := by
    intro k v h
    have hread : parts? "SET 'execution.runtime-mode' = \"BATCH\"".toList =
        some ('\'' :: (runtimeModeKey.toList ++ ['\'']), '"' :: ("BATCH".toList ++ ['"'])) := by
      decide
    rw [hread, Option.some.injEq, Prod.mk.injEq] at h
    exact ⟨h.1.symm, h.2.symm⟩
  have hsets : SetsBatch .default .empty "SET 'execution.runtime-mode' = \"BATCH\"" := by
    refine (isBatchSwitch_agrees _ _ _).1 (by decide) fun k v h => ?_
    obtain ⟨rfl, rfl⟩ := hparts k v h
    exact ⟨by decide, isPaired_quoted _ _, isPaired_quoted _ _⟩
  refine ⟨hsets, (isBatchSwitch_agrees _ _ _).2 hsets fun k v h => ?_⟩
  obtain ⟨rfl, rfl⟩ := hparts k v h
  have hbatch : IsTrimmed "BATCH".toList := trim_eq_self_iff.mp (by decide)
  exact ⟨isTight_quoted _ isBare_runtimeModeKey.isTrimmed, isTight_quoted _ hbatch⟩

/-- Quotes need not match before the run. -/
example : isBatchSwitch "SET 'execution.runtime-mode = batch" = true ∧
    settingOf? "SET 'execution.runtime-mode = batch" =
      some ("'execution.runtime-mode", "batch") := by
  decide

/-- White space next to matching quotes is lost during the run only. -/
example : isBatchSwitch "SET execution.runtime-mode = ' batch '" = false ∧
    settingOf? "SET execution.runtime-mode = ' batch '" = some (runtimeModeKey, "batch") := by
  decide

/-- A key in upper case is recognised before the run, but is another option's name during the
run. -/
theorem isBatchSwitch_upperCase :
    isBatchSwitch "SET EXECUTION.RUNTIME-MODE = batch" = true ∧
      ∀ r o, ¬ SetsBatch r o "SET EXECUTION.RUNTIME-MODE = batch" := by
  refine ⟨by decide, fun r o h => ?_⟩
  obtain ⟨k, v, hparts, hk, -⟩ := setsBatch_iff.mp h
  have hkey : k = "EXECUTION.RUNTIME-MODE".toList := by
    have hread : parts? "SET EXECUTION.RUNTIME-MODE = batch".toList =
        some ("EXECUTION.RUNTIME-MODE".toList, "batch".toList) := by decide
    rw [hread] at hparts
    simpa using (congrArg (·.map Prod.fst) hparts).symm
  rw [hkey] at hk
  exact absurd hk (by decide)

end SqlJob
