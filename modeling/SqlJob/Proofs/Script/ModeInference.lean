import SqlJob.Proofs.Operation.BatchSwitch
import SqlJob.Proofs.Operation.SetPattern
import SqlJob.Proofs.Script.Layout
import SqlJob.Proofs.Script.Rejoining

/-!
# How the mode of a script is inferred

A script is a batch script exactly if one of its statements is a batch switch. `IsSwitch` is the
form of such a statement, letter by letter. The same form is given by the pattern `switchPattern`,
which matches these texts and no others (`takes_switchPattern_iff`), and it is what the recogniser
accepts when the text is trimmed (`isBatchSwitch_iff_isSwitch`).

The rule can also be put as a scan that goes through the statements with a mode and a flag, and
stops at the first switch (`ModeScan`). A scan that has stopped stays as it is
(`ModeScan.run_of_stopped`), and so the scan and the search for a switch infer the same mode
(`inferMode_eq_scan`).

`modeRule_splitScript` puts both together for the statements of a script, and says what cannot
change the mode: what comes behind the first switch, text that no line terminates, and what is
written in comments.
-/

namespace SqlJob

open Text ModeSwitch

/-! ## The form of a switch -/

/-- The word `set` in any case, where the long s counts as an `s`. -/
def IsSetWord (w : List Char) : Prop :=
  ∃ s e t, w = [s, e, t] ∧ (s.toLower = 's' ∨ s = 'ſ') ∧ e.toLower = 'e' ∧ t.toLower = 't'

/-- The text is a batch switch. The four quotes have nothing to do with each other. -/
inductive IsSwitch : List Char → Prop
  | mk {set space key before after value q₁ q₂ q₃ q₄ : List Char} (hset : IsSetWord set)
      (hspace : IsSpace space) (hne : space ≠ [])
      (hq₁ : IsOptQuote q₁) (hkey : key.map Char.toLower = "execution.runtime-mode".toList)
      (hq₂ : IsOptQuote q₂) (hbefore : IsSpace before) (hafter : IsSpace after)
      (hq₃ : IsOptQuote q₃) (hvalue : value.map Char.toLower = "batch".toList)
      (hq₄ : IsOptQuote q₄) :
      IsSwitch
        (set ++ space ++ (q₁ ++ key ++ q₂) ++ before ++ '=' :: (after ++ (q₃ ++ value ++ q₄)))

/-- Texts that spell the word `set` are that word in any case. -/
theorem spells_set_iff {w : List Char} : Spells "set".toList w ↔ IsSetWord w := by
  have hword : "set".toList = ['s', 'e', 't'] := by decide
  constructor
  · intro h
    rw [hword] at h
    rcases h with _ | ⟨hs, _ | ⟨he, _ | ⟨ht, _ | _⟩⟩⟩
    exact ⟨_, _, _, rfl, by simpa [foldsTo] using hs, by simpa [foldsTo] using he,
      by simpa [foldsTo] using ht⟩
  · rintro ⟨s, e, t, rfl, hs, he, ht⟩
    rw [hword]
    exact .cons (by simpa [foldsTo] using hs) (.cons (by simpa [foldsTo] using he)
      (.cons (by simpa [foldsTo] using ht) .nil))

/-- A switch is made of the word, white space and the two parts with quotes that need not match. -/
theorem isSwitch_iff {s : List Char} :
    IsSwitch s ↔ ∃ set space k before after v, Spells "set".toList set ∧ IsSpace space ∧
      space ≠ [] ∧ IsLoose runtimeModeKey.toList k ∧ IsSpace before ∧ IsSpace after ∧
      IsLoose "batch".toList v ∧ s = set ++ space ++ k ++ before ++ '=' :: (after ++ v) := by
  constructor
  · rintro ⟨hset, hspace, hne, hq₁, hkey, hq₂, hbefore, hafter, hq₃, hvalue, hq₄⟩
    have hk : Spells runtimeModeKey.toList _ := (spells_iff_map_toLower (by decide)).mpr hkey
    have hv : Spells "batch".toList _ := (spells_iff_map_toLower (by decide)).mpr hvalue
    exact ⟨_, _, _, _, _, _, spells_set_iff.mpr hset, hspace, hne, ⟨_, _, _, hq₁, hk, hq₂, rfl⟩,
      hbefore, hafter, ⟨_, _, _, hq₃, hv, hq₄, rfl⟩, rfl⟩
  · rintro ⟨set, space, _, before, after, _, hset, hspace, hne, ⟨q₁, key, q₂, hq₁, hk, hq₂, rfl⟩,
      hbefore, hafter, ⟨q₃, value, q₄, hq₃, hv, hq₄, rfl⟩, rfl⟩
    exact .mk (spells_set_iff.mp hset) hspace hne hq₁ ((spells_iff_map_toLower (by decide)).mp hk)
      hq₂ hbefore hafter hq₃ ((spells_iff_map_toLower (by decide)).mp hv) hq₄

/-- No white space stands at the ends of a switch. -/
theorem IsSwitch.isTrimmed {s : List Char} (h : IsSwitch s) : IsTrimmed s := by
  obtain ⟨set, space, k, before, after, v, hset, hspace, hne, hk, hbefore, hafter, hv, rfl⟩ :=
    isSwitch_iff.mp h
  have hbare : IsBare set := hset.isBare (by decide)
  constructor
  · intro c hc
    rw [List.append_assoc, List.append_assoc, List.append_assoc,
      List.head?_append_of_ne_nil _ hbare.ne_nil] at hc
    exact hbare.isTrimmed.head c hc
  · intro c hc
    have hassoc : set ++ space ++ k ++ before ++ '=' :: (after ++ v) =
        (set ++ space ++ k ++ before ++ '=' :: after) ++ v := by simp
    rw [hassoc, List.getLast?_append_of_ne_nil _ (hv.ne_nil isBare_batch)] at hc
    exact (hv.isTrimmed isBare_batch).last c hc

/-- What the recogniser accepts is, when it is trimmed, a switch. -/
theorem isBatchSwitch_iff_isSwitch {statement : String} :
    isBatchSwitch statement = true ↔ IsSwitch (trim statement.toList) := by
  rw [isSwitch_iff]
  constructor
  · intro h
    -- What is read past is the word and white space, the key, white space and the equals sign, and
    -- white space and the value.
    obtain ⟨r, s, y, t, hrest, hkey, hequals, hvalue, hend⟩ := isBatchSwitch_eq_true_iff.mp h
    obtain ⟨set, space, hset, hspace, hbare, -, htrim⟩ := SetSyntax.rest?_eq_some_iff.mp hrest
    obtain ⟨k, hk, rfl⟩ := exists_isLoose hkey
    obtain ⟨before, hbefore, hs⟩ := exists_eq_append_trimStart (dropQuote s)
    obtain ⟨after, hafter, hy⟩ := exists_eq_append_trimStart y
    obtain ⟨v, hv, hyv⟩ := exists_isLoose hvalue
    have hne : space ≠ [] := fun hnil =>
      hk.ne_nil isBare_runtimeModeKey (List.append_eq_nil_iff.mp (hbare hnil)).1
    rw [hend, List.append_nil] at hyv
    rw [afterEquals_eq_some_iff.mp hequals, hy, hyv] at hs
    refine ⟨set, space, k, before, after, v, hset, hspace, hne, hk, hbefore, hafter, hv, ?_⟩
    rw [htrim, hs]
    simp
  · rintro ⟨set, space, k, before, after, v, hset, hspace, hne, hk, hbefore, hafter, hv, htrim⟩
    have hrest : SetSyntax.rest? (trim statement.toList) =
        some ((k ++ before) ++ '=' :: (after ++ v)) := by
      refine SetSyntax.rest?_eq_some_iff.mpr
        ⟨set, space, hset, hspace, fun hnil => absurd hnil hne, ?_, by rw [htrim]; simp⟩
      intro c hc
      rw [List.append_assoc, List.head?_append_of_ne_nil _ (hk.ne_nil isBare_runtimeModeKey)] at hc
      exact (hk.isTrimmed isBare_runtimeModeKey).head c hc
    have hequals : '=' ∉ k ++ before := by
      intro hmem
      rcases List.mem_append.mp hmem with hmem | hmem
      · exact (hk.isBlank isBare_runtimeModeKey hmem).2 rfl
      · exact hbefore.notMem (by decide) hmem
    have hnone : IsSpace [] := by simp [IsSpace]
    have hkey := trim_append hnone (hk.isTrimmed isBare_runtimeModeKey) hbefore
    have hvalue := trim_append hafter (hv.isTrimmed isBare_batch) hnone
    rw [List.append_nil] at hvalue
    exact isBatchSwitch_iff.mpr ⟨k, v, SetSyntax.parts?_eq_some_iff.mpr
      ⟨k ++ before, after ++ v, hrest, hequals, hkey, hvalue⟩, hk, hv⟩

/-! ## The pattern of a switch -/

/-- A quote, or nothing. -/
def quotePattern : Pattern := .optional (.one fun c => c = '\'' ∨ c = '"')

/-- The pattern of a batch switch. -/
def switchPattern : Pattern :=
  SetSyntax.behindWord "set".toList <| .seq (.one isBlank) <| .seq SetSyntax.blanks <|
    .seq quotePattern <| SetSyntax.behindWord "execution.runtime-mode".toList <|
    .seq quotePattern <| .seq SetSyntax.blanks <| .seq (.one (· = '=')) <|
    .seq SetSyntax.blanks <| .seq quotePattern <| SetSyntax.behindWord "batch".toList quotePattern

/-- The pattern of a quote takes a quote or nothing. -/
theorem takes_quotePattern_iff {s : List Char} : quotePattern.Takes s ↔ IsOptQuote s := by
  simp only [quotePattern, Pattern.Takes, IsOptQuote, IsQuote, decide_eq_true_eq]
  exact or_comm

/-- Behind a word a pattern takes a text that spells the word, and then what it takes itself. -/
theorem takes_behindWord_iff {word s : List Char} {a : Pattern} :
    (SetSyntax.behindWord word a).Takes s ↔ ∃ w t, Spells word w ∧ a.Takes t ∧ s = w ++ t := by
  induction word generalizing s with
  | nil =>
    constructor
    · intro h
      exact ⟨[], s, .nil, h, rfl⟩
    · rintro ⟨w, t, ⟨⟩, ht, rfl⟩
      exact ht
  | cons letter word ih =>
    have hcons : (SetSyntax.behindWord (letter :: word) a).Takes s ↔
        ∃ c u, foldsTo letter c = true ∧ (SetSyntax.behindWord word a).Takes u ∧ s = c :: u := by
      constructor
      · rintro ⟨x, u, ⟨c, hc, rfl⟩, hu, rfl⟩
        exact ⟨c, u, hc, hu, rfl⟩
      · rintro ⟨c, u, hc, hu, rfl⟩
        exact ⟨[c], u, ⟨c, hc, rfl⟩, hu, rfl⟩
    rw [hcons]
    constructor
    · rintro ⟨c, u, hc, hu, rfl⟩
      obtain ⟨w, t, hw, ht, rfl⟩ := ih.mp hu
      exact ⟨c :: w, t, .cons hc hw, ht, rfl⟩
    · rintro ⟨_, t, _ | ⟨hc, hw⟩, ht, rfl⟩
      exact ⟨_, _, hc, ih.mpr ⟨_, t, hw, ht, rfl⟩, rfl⟩

/-- The pattern takes the switches. -/
theorem takes_switchPattern_iff {s : List Char} : switchPattern.Takes s ↔ IsSwitch s := by
  rw [isSwitch_iff]
  constructor
  -- Between two words the pattern is a sequence, which is taken apart from left to right.
  · intro h
    obtain ⟨set, _, hset, ⟨_, _, ⟨c, hc, rfl⟩, ⟨space, _, hspace, ⟨q₁, _, hq₁, hrest, rfl⟩, rfl⟩,
      rfl⟩, rfl⟩ := takes_behindWord_iff.mp h
    obtain ⟨key, _, hkey, ⟨q₂, _, hq₂, ⟨before, _, hbefore, ⟨_, _, ⟨e, he, rfl⟩,
      ⟨after, _, hafter, ⟨q₃, _, hq₃, hend, rfl⟩, rfl⟩, rfl⟩, rfl⟩, rfl⟩, rfl⟩ :=
      takes_behindWord_iff.mp hrest
    obtain ⟨value, q₄, hvalue, hq₄, rfl⟩ := takes_behindWord_iff.mp hend
    obtain rfl : e = '=' := of_decide_eq_true he
    rw [takes_quotePattern_iff] at hq₁ hq₂ hq₃ hq₄
    exact ⟨set, c :: space, q₁ ++ key ++ q₂, before, after, q₃ ++ value ++ q₄, hset,
      List.forall_mem_cons.mpr ⟨hc, hspace⟩, List.cons_ne_nil c space,
      ⟨q₁, key, q₂, hq₁, hkey, hq₂, rfl⟩, hbefore, hafter, ⟨q₃, value, q₄, hq₃, hvalue, hq₄, rfl⟩,
      by simp⟩
  · rintro ⟨set, space, _, before, after, _, hset, hspace, hne, ⟨q₁, key, q₂, hq₁, hkey, hq₂, rfl⟩,
      hbefore, hafter, ⟨q₃, value, q₄, hq₃, hvalue, hq₄, rfl⟩, rfl⟩
    obtain ⟨c, space, rfl⟩ := List.exists_cons_of_ne_nil hne
    obtain ⟨hc, hspace⟩ := List.forall_mem_cons.mp hspace
    rw [← takes_quotePattern_iff] at hq₁ hq₂ hq₃ hq₄
    unfold switchPattern
    refine takes_behindWord_iff.mpr ⟨set, _, hset, ⟨[c], _, ⟨c, hc, rfl⟩, ⟨space, _, hspace,
      ⟨q₁, _, hq₁, takes_behindWord_iff.mpr ⟨key, _, hkey, ⟨q₂, _, hq₂, ⟨before, _, hbefore,
      ⟨['='], _, ⟨'=', by decide, rfl⟩, ⟨after, _, hafter, ⟨q₃, _, hq₃,
      takes_behindWord_iff.mpr ⟨value, q₄, hvalue, hq₄, rfl⟩, rfl⟩, rfl⟩, rfl⟩, rfl⟩, rfl⟩, rfl⟩,
      rfl⟩, rfl⟩, rfl⟩, ?_⟩
    simp

/-! ## The scan for a switch -/

/-- The state of a scan for a switch: the mode so far, and whether the scan still goes on. -/
structure ModeScan where
  mode : Mode := .streaming
  isScanning : Bool := true

namespace ModeScan

/-- One statement. A scan that goes on takes the mode from it and stops at a switch. -/
def step (scan : ModeScan) (statement : String) : ModeScan :=
  if scan.isScanning then
    if (switchPattern.match? (trim statement.toList)).isSome then ⟨.batch, false⟩
    else { scan with mode := .streaming }
  else scan

/-- The statements one after another. -/
def run (scan : ModeScan) (statements : List String) : ModeScan :=
  statements.foldl step scan

/-- A scan that has stopped stays as it is. -/
theorem run_of_stopped {scan : ModeScan} (h : scan.isScanning = false) (statements : List String) :
    scan.run statements = scan := by
  induction statements with
  | nil => rfl
  | cons statement statements ih =>
    have hstep : scan.step statement = scan := by
      unfold step
      rw [h]
      rfl
    rw [run, List.foldl_cons, hstep]
    exact ih

/-- A scan that goes on stops at a switch and takes no notice of any other statement. -/
theorem step_of_scanning (statement : String) :
    step {} statement = if isBatchSwitch statement then ⟨.batch, false⟩ else {} := by
  have hmatch : (switchPattern.match? (trim statement.toList)).isSome =
      isBatchSwitch statement := by
    rw [Bool.eq_iff_iff, Pattern.isSome_match?_iff, takes_switchPattern_iff,
      isBatchSwitch_iff_isSwitch]
  unfold step
  rw [if_pos rfl, hmatch]

/-- A scan is left as it started, or it has stopped at the first switch. -/
theorem run_eq (statements : List String) :
    run {} statements = if statements.any isBatchSwitch then ⟨.batch, false⟩ else {} := by
  induction statements with
  | nil => rfl
  | cons statement statements ih =>
    rw [run, List.foldl_cons, step_of_scanning, List.any_cons]
    by_cases hswitch : isBatchSwitch statement = true
    · rw [if_pos hswitch, hswitch]
      exact run_of_stopped rfl statements
    · rw [if_neg hswitch, Bool.eq_false_iff.mpr hswitch]
      exact ih

end ModeScan

/-- The scan for a switch infers the mode of statements. -/
theorem inferMode_eq_scan (statements : List String) :
    inferMode statements = (ModeScan.run {} statements).mode := by
  rw [ModeScan.run_eq, inferMode]
  split_ifs <;> rfl

/-! ## Text that is no part of a statement -/

namespace Script

/-- What is written in a comment leaves no trace in what stands before it. -/
theorem beforeComment_append_hyphens (line comment : List Char) :
    beforeComment (line ++ '-' :: '-' :: comment) = beforeComment (line ++ ['-', '-']) := by
  fun_induction beforeComment line with
  | case1 => simp [beforeComment]
  | case2 c => simp [beforeComment]
  | case3 c d rest h => simp [beforeComment, h]
  | case4 c d rest h ih =>
    have hcons : ∀ t,
        beforeComment (c :: d :: rest ++ t) = c :: beforeComment (d :: rest ++ t) := by
      intro t
      simp [beforeComment, h]
    rw [hcons, hcons, ih]

/-- What is written in a comment leaves no trace in what a text contributes. -/
theorem contributions_append_hyphens {comment after : List Char} (hcomment : '\n' ∉ comment)
    (hend : EndsLine after) (before : List Char) :
    contributions (before ++ '-' :: '-' :: comment ++ after) =
      contributions (before ++ ['-', '-'] ++ after) := by
  rw [contributions_append_of_endsLine hend, contributions_append_of_endsLine hend]
  obtain ⟨ps, p, hp⟩ := exists_splitOn_eq_append '\n' before
  have hcontent : content (p ++ '-' :: '-' :: comment) = content (p ++ ['-', '-']) := by
    rw [content, beforeComment_append_hyphens, ← content]
  unfold contributions
  rw [splitOn_append_of_notMem (by simpa using hcomment) hp,
    splitOn_append_of_notMem (by decide) hp, contents_append, contents_append,
    contents_cons_congr hcontent]

/-- Text behind a script that no line terminates makes no statement. -/
theorem statements_append_of_open {tail : List Char}
    (h : ∀ line ∈ splitOn '\n' tail, ¬ IsTerminating line) (s : List Char) :
    statements (s ++ '\n' :: tail) = statements s := by
  obtain ⟨groups, rest, hgroups⟩ := exists_grouping (splitOn '\n' s)
  have hopen : ∀ line ∈ rest ++ splitOn '\n' tail, ¬ IsTerminating line :=
    List.forall_mem_append.mpr ⟨hgroups.rest_open, h⟩
  have hrest : statementsFrom [] ((rest ++ splitOn '\n' tail) ++ []) = [] :=
    statementsFrom_append_of_not hopen [] []
  rw [List.append_nil] at hrest
  simp only [statements, splitOn_append_sep]
  rw [hgroups.statementsFrom_append, hrest, List.append_nil, hgroups.statementsFrom_eq]

end Script

open Script

/-! ## The mode of a script -/

/-- How the mode of a script follows from its statements, and what it does not depend on. -/
structure ModeRule (script : String) : Prop where
  /-- The mode is batch exactly if some statement is a switch, from its first letter to its last. -/
  batch_iff : (splitScript script).mode = .batch ↔
    ∃ statement ∈ (splitScript script).statements, IsSwitch statement.toList
  /-- The mode is the one with which a scan of the statements ends. -/
  scan : (splitScript script).mode = (ModeScan.run {} (splitScript script).statements).mode
  /-- At the first switch the scan stops, and what comes behind it may be anything. -/
  sticky : ∀ before switch after, (splitScript script).statements = before ++ switch :: after →
    IsSwitch switch.toList → ∀ others : List String,
      ModeScan.run {} (before ++ switch :: others) = ⟨.batch, false⟩ ∧
        inferMode (before ++ switch :: others) = .batch
  /-- Text that no line terminates may be put behind the script. -/
  unterminated : ∀ tail : String, (∀ line ∈ splitOn '\n' tail.toList, ¬ IsTerminating line) →
    splitScript (script ++ "\n" ++ tail) = splitScript script
  /-- What is written in a comment may be anything. -/
  comment : ∀ before text text' after : List Char, '\n' ∉ text → '\n' ∉ text' → EndsLine after →
    script.toList = before ++ '-' :: '-' :: text ++ after →
    splitScript (.ofList (before ++ '-' :: '-' :: text' ++ after)) = splitScript script

/-- Some statement is recognised exactly if some statement is a switch, as statements of a script
are trimmed. -/
theorem inferMode_splitScript_iff (script : String) :
    (splitScript script).mode = .batch ↔
      ∃ statement ∈ (splitScript script).statements, IsSwitch statement.toList := by
  have hmode : (splitScript script).mode = .batch ↔
      ∃ statement ∈ (splitScript script).statements, isBatchSwitch statement = true := by
    rw [← List.any_eq_true]
    change inferMode (splitScript script).statements = .batch ↔ _
    unfold inferMode
    split_ifs with h <;> simp [h]
  rw [hmode]
  refine exists_congr fun statement => and_congr_right fun hmem => ?_
  rw [isBatchSwitch_iff_isSwitch, (isStatement_of_mem_splitScript hmem).isTrimmed.2.trim_eq]

/-- The mode of a script is batch exactly if one of its statements is a batch switch. A scan of the
statements that stops at the first one gives the same mode, and neither what follows it nor what is
no part of a statement can change it. -/
theorem modeRule_splitScript (script : String) : ModeRule script where
  batch_iff := inferMode_splitScript_iff script
  scan := inferMode_eq_scan (splitScript script).statements
  sticky before switch after hstatements hswitch others := by
    have hrecognised : isBatchSwitch switch = true := by
      rwa [isBatchSwitch_iff_isSwitch, hswitch.isTrimmed.trim_eq]
    have hany : (before ++ switch :: others).any isBatchSwitch = true :=
      List.any_eq_true.mpr ⟨switch, by simp, hrecognised⟩
    have hrun : ModeScan.run {} (before ++ switch :: others) = ⟨.batch, false⟩ := by
      rw [ModeScan.run_eq, if_pos hany]
    exact ⟨hrun, by rw [inferMode_eq_scan, hrun]⟩
  unterminated tail htail := by
    refine splitScript_eq_of_statements_eq ?_
    have htext : (script ++ "\n" ++ tail).toList = script.toList ++ '\n' :: tail.toList := by simp
    simp only [splitScript, htext]
    rw [statements_append_of_open htail]
  comment before text text' after htext htext' hend hscript := by
    refine splitScript_eq_of_contributions_eq ?_
    rw [String.toList_ofList, hscript, contributions_append_hyphens htext hend,
      contributions_append_hyphens htext' hend]

/-- A switch with a long s, a line break and one quote is a switch. -/
example : (splitScript "ſet\n'EXECUTION.runtime-mode=Batch;").mode = .batch := by decide

/-- A switch in a comment is none, nor is one that is not terminated. -/
example :
    let script := "-- SET execution.runtime-mode = batch;\nSET execution.runtime-mode = batch"
    (splitScript script).mode = .streaming := by
  decide

end SqlJob
