import SqlJob.Proofs.Script.Joining
import Mathlib.Logic.Relation

/-!
# The layout of a script

White space around lines, comments behind them, and lines with nothing else on them leave no trace
in the statements of a script. `LayoutEdit` lists the changes of this kind to a text, and
`splitScript_eq_of_layoutEdits` says that any number of them leaves the statements and the mode as
they are. That line feeds become a carriage return and a line feed is one way to do so.

The statements of a script depend on what its lines contribute, and on nothing else about it
(`statementsFrom_contents`). So the proof has no need to look at the statements: each change leaves
what the lines contribute as it is (`contributions_of_layoutEdit`). For this a text is taken apart
where a line starts or ends (`contributions_append_of_startsLine`,
`contributions_append_of_endsLine`).
-/

namespace SqlJob

namespace Script

open Text

/-! ## What lines contribute -/

/-- What lines contribute, without those that contribute nothing. -/
def contents (ls : List (List Char)) : List (List Char) :=
  (ls.map content).filter (· ≠ [])

/-- Lines contribute what the first of them does, if it contributes anything, and what the others
do. -/
theorem contents_cons (l : List Char) (ls : List (List Char)) :
    contents (l :: ls) = pieceOf (content l) ++ contents ls := by
  unfold contents
  rw [List.map_cons, filter_ne_nil_cons]

theorem contents_append (ls ms : List (List Char)) :
    contents (ls ++ ms) = contents ls ++ contents ms := by
  simp [contents]

/-- Lines whose first ones contribute the same contribute the same if the others do. -/
theorem contents_cons_congr {l m : List Char} (h : content l = content m)
    (ls : List (List Char)) : contents (l :: ls) = contents (m :: ls) := by
  rw [contents_cons, contents_cons, h]

/-- The statements of lines are those of what the lines contribute. -/
theorem statementsFrom_contents (pending ls : List (List Char)) :
    statementsFrom pending (contents ls) = statementsFrom pending ls := by
  induction ls generalizing pending with
  | nil => rfl
  | cons l ls ih =>
    by_cases hempty : content l = []
    · -- The line is left out of what is contributed, and the splitter skips it.
      have hblank : role l = .blank := by
        unfold role
        rw [hempty, if_pos rfl]
      rw [contents_cons, hempty, statementsFrom, hblank]
      exact ih pending
    · have hrole : role (content l) = role l := role_congr (isPlain_content hempty).content_eq
      rw [contents_cons, pieceOf, if_neg hempty, List.singleton_append, statementsFrom,
        statementsFrom, hrole]
      cases role l with
      | blank => exact ih pending
      | continues text => exact ih (pending ++ [text])
      | closes head =>
        dsimp only
        rw [ih []]

/-- What the lines of a text contribute. -/
def contributions (s : List Char) : List (List Char) := contents (splitOn '\n' s)

/-- Texts whose lines contribute the same have the same statements. -/
theorem statements_eq_of_contributions_eq {s t : List Char}
    (h : contributions s = contributions t) : statements s = statements t := by
  unfold statements
  rw [← statementsFrom_contents, ← statementsFrom_contents [] (splitOn '\n' t)]
  exact congrArg (statementsFrom []) h

/-- Scripts whose lines contribute the same are split in the same way. -/
theorem splitScript_eq_of_contributions_eq {script other : String}
    (h : contributions script.toList = contributions other.toList) :
    splitScript script = splitScript other := by
  simp only [splitScript, statements_eq_of_contributions_eq h]

/-- A text with another one on the next line contributes what both do. -/
theorem contributions_append_newline (s t : List Char) :
    contributions (s ++ '\n' :: t) = contributions s ++ contributions t := by
  unfold contributions
  rw [splitOn_append_sep, contents_append]

@[simp] theorem contributions_nil : contributions [] = [] := rfl

/-! ## White space and comments -/

/-- A character that is no hyphen stands before a comment only if there is no comment in front of
it, and then so does what follows up to the next comment. -/
theorem beforeComment_append_cons {c : Char} (hc : c ≠ '-') (line rest : List Char) :
    beforeComment (line ++ c :: rest) = beforeComment line ∨
      beforeComment line = line ∧
        beforeComment (line ++ c :: rest) = line ++ c :: beforeComment rest := by
  fun_induction beforeComment line with
  | case1 => exact .inr ⟨rfl, beforeComment_cons_of_ne hc rest⟩
  | case2 d =>
    have hcons : beforeComment (d :: c :: rest) = d :: beforeComment (c :: rest) := by
      simp [beforeComment, hc]
    exact .inr ⟨rfl, by rw [List.singleton_append, hcons, beforeComment_cons_of_ne hc]; rfl⟩
  | case3 d e rest' h =>
    left
    simp [beforeComment, h]
  | case4 d e rest' h ih =>
    have hcons : beforeComment (d :: e :: rest' ++ c :: rest) =
        d :: beforeComment (e :: rest' ++ c :: rest) := by
      simp [beforeComment, h]
    rw [hcons]
    rcases ih with ih | ⟨hline, ih⟩
    · exact .inl (by rw [ih])
    · exact .inr ⟨by rw [hline], by rw [ih]; rfl⟩

/-- White space is no hyphen. -/
theorem ne_hyphen_of_isBlank {c : Char} (h : isBlank c = true) : c ≠ '-' := by
  rintro rfl
  exact absurd h (by decide)

/-- White space in front of a line contributes nothing. -/
theorem content_cons_of_isBlank {c : Char} (h : isBlank c = true) (line : List Char) :
    content (c :: line) = content line := by
  have hspace : IsSpace [c] := List.forall_mem_singleton.mpr h
  unfold content
  rw [beforeComment_cons_of_ne (ne_hyphen_of_isBlank h)]
  exact trim_append_left hspace _

/-- A comment behind white space contributes nothing, whatever is in the line and in the comment. -/
theorem content_append_comment {c : Char} (h : isBlank c = true) (line comment : List Char) :
    content (line ++ c :: '-' :: '-' :: comment) = content line := by
  have hspace : IsSpace [c] := List.forall_mem_singleton.mpr h
  have hcomment : beforeComment ('-' :: '-' :: comment) = [] := by simp [beforeComment]
  unfold content
  rcases beforeComment_append_cons (ne_hyphen_of_isBlank h) line ('-' :: '-' :: comment) with
    hcut | ⟨hwhole, hcut⟩
  · rw [hcut]
  · rw [hcut, hwhole, hcomment]
    exact trim_append_right hspace line

/-- White space in front of a text contributes nothing. -/
theorem contributions_append_left {a : List Char} (ha : IsSpace a) (s : List Char) :
    contributions (a ++ s) = contributions s := by
  induction a with
  | nil => rfl
  | cons c a ih =>
    obtain ⟨hc, ha⟩ := List.forall_mem_cons.mp ha
    rw [List.cons_append, ← ih ha]
    rcases eq_or_ne c '\n' with rfl | hne
    · exact contributions_append_newline [] (a ++ s)
    · obtain ⟨p, ps, hp⟩ := exists_splitOn_eq_cons '\n' (a ++ s)
      unfold contributions
      rw [splitOn_cons_of_ne hne hp, hp]
      exact contents_cons_congr (content_cons_of_isBlank hc p) ps

/-- What is added to the last line of a text without a trace in what the line contributes leaves no
trace in what the text contributes. -/
theorem contributions_append_of_content {t : List Char} (ht : '\n' ∉ t)
    (hcontent : ∀ line, content (line ++ t) = content line) (s : List Char) :
    contributions (s ++ t) = contributions s := by
  obtain ⟨ps, p, hp⟩ := exists_splitOn_eq_append '\n' s
  unfold contributions
  rw [splitOn_append_of_notMem ht hp, hp, contents_append, contents_append]
  exact congrArg (contents ps ++ ·) (contents_cons_congr (hcontent p) [])

/-- White space behind a text contributes nothing. -/
theorem contributions_append_right {b : List Char} (hb : IsSpace b) (s : List Char) :
    contributions (s ++ b) = contributions s := by
  induction b generalizing s with
  | nil => rw [List.append_nil]
  | cons c b ih =>
    obtain ⟨hc, hb⟩ := List.forall_mem_cons.mp hb
    have hspace : IsSpace [c] := List.forall_mem_singleton.mpr hc
    rw [← List.singleton_append, ← List.append_assoc, ih hb]
    rcases eq_or_ne c '\n' with rfl | hne
    · rw [contributions_append_newline, contributions_nil, List.append_nil]
    · exact contributions_append_of_content (by simpa using hne.symm)
        (content_append_right hspace) s

/-- A line with nothing on it but white space and a comment contributes nothing. -/
theorem IsIdle.contributions_eq {line : List Char} (h : IsIdle line) (hline : '\n' ∉ line) :
    contributions line = [] := by
  unfold contributions
  rw [splitOn_of_notMem hline, contents_cons, h.content_eq]
  rfl

/-- A comment behind a text contributes nothing, if there is white space in front of it. -/
theorem contributions_append_comment {c : Char} (hc : isBlank c = true) {comment : List Char}
    (hcomment : '\n' ∉ comment) (s : List Char) :
    contributions (s ++ c :: '-' :: '-' :: comment) = contributions s := by
  rcases eq_or_ne c '\n' with rfl | hne
  · -- The comment stands on a line of its own.
    have hidle : IsIdle ('-' :: '-' :: comment) := .inr ⟨[], comment, by simp [IsSpace], rfl⟩
    rw [contributions_append_newline, hidle.contributions_eq (by simp [hcomment]), List.append_nil]
  · exact contributions_append_of_content (by simp [hne.symm, hcomment])
      (fun line => content_append_comment hc line comment) s

/-! ## Where lines start and end -/

/-- Behind the text a line starts. -/
def StartsLine (before : List Char) : Prop := before = [] ∨ ∃ s, before = s ++ ['\n']

/-- In front of the text a line ends: at the end of the script, at a line feed, or at a carriage
return and a line feed. -/
def EndsLine (after : List Char) : Prop :=
  after = [] ∨ (∃ s, after = '\n' :: s) ∨ ∃ s, after = '\r' :: '\n' :: s

/-- Where a line starts, what a text contributes falls apart. -/
theorem contributions_append_of_startsLine {before : List Char} (h : StartsLine before)
    (s : List Char) : contributions (before ++ s) = contributions before ++ contributions s := by
  rcases h with rfl | ⟨t, rfl⟩
  · rfl
  · rw [List.append_assoc, List.singleton_append, contributions_append_newline,
      contributions_append_newline, contributions_nil, List.append_nil]

/-- If a text leaves nothing open but blank lines and comments, what starts on a line behind it may
be read on its own. -/
theorem statements_append_of_startsLine {before : List Char} (h : StartsLine before)
    (hidle : ∀ line ∈ splitOn '\n' (openText before), IsIdle line) (s : List Char) :
    statements (before ++ s) = statements before ++ statements s := by
  -- A line feed between the two makes a blank line more, which contributes nothing.
  rw [← statements_append_of_isIdle hidle]
  refine statements_eq_of_contributions_eq ?_
  rw [contributions_append_of_startsLine h, contributions_append_newline]

/-- Where a line ends, what a text contributes falls apart. -/
theorem contributions_append_of_endsLine {after : List Char} (h : EndsLine after)
    (s : List Char) : contributions (s ++ after) = contributions s ++ contributions after := by
  have hfeed : ∀ t : List Char, contributions ('\n' :: t) = contributions t := fun t =>
    contributions_append_newline [] t
  rcases h with rfl | ⟨t, rfl⟩ | ⟨t, rfl⟩
  · simp
  · rw [contributions_append_newline, hfeed]
  · -- The carriage return is white space at the end of the line in front of it.
    have hreturn : IsSpace ['\r'] := by simp [IsSpace, isBlank]
    have hsplit : s ++ '\r' :: '\n' :: t = (s ++ ['\r']) ++ '\n' :: t := by simp
    have hafter : contributions ('\r' :: '\n' :: t) = contributions t :=
      (contributions_append_left hreturn ('\n' :: t)).trans (hfeed t)
    rw [hsplit, contributions_append_newline, contributions_append_right hreturn, hafter]

/-! ## Changes to the layout -/

/-- A change to the layout of a script, from the first text to the second. -/
inductive LayoutEdit : List Char → List Char → Prop
  /-- White space is put in front of a line. -/
  | indent (before space after : List Char) (hstart : StartsLine before) (hspace : IsSpace space) :
      LayoutEdit (before ++ after) (before ++ space ++ after)
  /-- White space is put behind a line. -/
  | trail (before space after : List Char) (hspace : IsSpace space) (hend : EndsLine after) :
      LayoutEdit (before ++ after) (before ++ space ++ after)
  /-- White space and a comment are put behind a line. -/
  | comment (before : List Char) (c : Char) (text after : List Char) (hc : isBlank c = true)
      (htext : '\n' ∉ text) (hend : EndsLine after) :
      LayoutEdit (before ++ after) (before ++ c :: '-' :: '-' :: text ++ after)
  /-- A line that is blank or a comment is put in front of a line. -/
  | insert (before line after : List Char) (hstart : StartsLine before) (hline : IsIdle line)
      (hone : '\n' ∉ line) : LayoutEdit (before ++ after) (before ++ line ++ '\n' :: after)
  /-- A line that is blank or a comment is put behind the last line. -/
  | append (script line : List Char) (hline : IsIdle line) (hone : '\n' ∉ line) :
      LayoutEdit script (script ++ '\n' :: line)
  /-- A line that is blank or a comment is put behind the last line feed. -/
  | finish (script line : List Char) (hstart : StartsLine script) (hline : IsIdle line)
      (hone : '\n' ∉ line) : LayoutEdit script (script ++ line)

/-- A change to the layout leaves what the lines contribute as it is. -/
theorem contributions_of_layoutEdit {s t : List Char} (h : LayoutEdit s t) :
    contributions t = contributions s := by
  cases h with
  | indent before space after hstart hspace =>
    rw [List.append_assoc, contributions_append_of_startsLine hstart,
      contributions_append_left hspace, contributions_append_of_startsLine hstart]
  | trail before space after hspace hend =>
    rw [contributions_append_of_endsLine hend, contributions_append_right hspace,
      contributions_append_of_endsLine hend]
  | comment before c text after hc htext hend =>
    rw [contributions_append_of_endsLine hend, contributions_append_comment hc htext,
      contributions_append_of_endsLine hend]
  | insert before line after hstart hline hone =>
    rw [contributions_append_newline, contributions_append_of_startsLine hstart,
      hline.contributions_eq hone, List.append_nil, contributions_append_of_startsLine hstart]
  | append _ line hline hone =>
    rw [contributions_append_newline, hline.contributions_eq hone, List.append_nil]
  | finish _ line hstart hline hone =>
    rw [contributions_append_of_startsLine hstart, hline.contributions_eq hone, List.append_nil]

/-- Any number of changes to the layout leaves what the lines contribute as it is. -/
theorem contributions_of_layoutEdits {s t : List Char}
    (h : Relation.ReflTransGen LayoutEdit s t) : contributions t = contributions s := by
  induction h with
  | refl => rfl
  | tail _ hedit ih => rw [contributions_of_layoutEdit hedit, ih]

/-- The text with a carriage return in front of each line feed. -/
def withReturns (s : List Char) : List Char :=
  s.flatMap fun c => if c = '\n' then ['\r', '\n'] else [c]

/-- To put a carriage return in front of each line feed is to change the layout, line by line. -/
theorem layoutEdits_withReturns (s : List Char) :
    Relation.ReflTransGen LayoutEdit s (withReturns s) := by
  -- The lines in front of `s` have their carriage returns already.
  have hrest : ∀ before, Relation.ReflTransGen LayoutEdit (before ++ s)
      (before ++ withReturns s) := by
    induction s with
    | nil => exact fun _ => .refl
    | cons c s ih =>
      intro before
      rcases eq_or_ne c '\n' with rfl | hne
      · have hspace : IsSpace ['\r'] := by simp [IsSpace, isBlank]
        have hedit : LayoutEdit (before ++ '\n' :: s) (before ++ ['\r'] ++ '\n' :: s) :=
          .trail before ['\r'] ('\n' :: s) hspace (.inr (.inl ⟨s, rfl⟩))
        have hnext := ih (before ++ ['\r', '\n'])
        refine .head hedit ?_
        simpa [withReturns] using hnext
      · have hnext := ih (before ++ [c])
        simpa [withReturns, hne] using hnext
  exact hrest []

end Script

open Text Script

/-- The layout of a script does not matter: with white space around its lines, comments behind them
and blank lines and comments between them it has the same statements and the same mode. So it has
with carriage returns at the ends of its lines. -/
theorem splitScript_eq_of_layoutEdits (script : String) :
    (∀ other : String, Relation.ReflTransGen LayoutEdit script.toList other.toList →
      splitScript other = splitScript script) ∧
    splitScript (String.ofList (withReturns script.toList)) = splitScript script := by
  have hedits : ∀ other : String, Relation.ReflTransGen LayoutEdit script.toList other.toList →
      splitScript other = splitScript script := fun _ h =>
    splitScript_eq_of_contributions_eq (contributions_of_layoutEdits h)
  refine ⟨hedits, hedits _ ?_⟩
  rw [String.toList_ofList]
  exact layoutEdits_withReturns script.toList

/-- A comment with a semicolon in it, a comment put inside a statement, white space in front of a
line and a carriage return behind it leave a script as it is. -/
theorem splitScript_eq_of_layoutEdits_comments :
    let script := "a\nb;"
    let other := "a --';\n--c\n\tb;\r"
    Relation.ReflTransGen LayoutEdit script.toList other.toList ∧
      splitScript other = splitScript script ∧
      splitScript (String.ofList (withReturns script.toList)) = splitScript script := by
  intro script other
  have hscript : script.toList = ['a', '\n', 'b', ';'] := by decide
  have hother : other.toList = ['a', ' ', '-', '-', '\'', ';', '\n', '-', '-', 'c', '\n', '\t',
      'b', ';', '\r'] := by decide
  have hidle : IsIdle ['-', '-', 'c'] := .inr ⟨[], ['c'], by simp [IsSpace], rfl⟩
  have hedits : Relation.ReflTransGen LayoutEdit script.toList other.toList := by
    rw [hscript, hother]
    refine .head (.comment ['a'] ' ' ['\'', ';'] ['\n', 'b', ';'] (by decide) (by decide)
      (.inr (.inl ⟨_, rfl⟩))) ?_
    refine .head (.insert ['a', ' ', '-', '-', '\'', ';', '\n'] ['-', '-', 'c'] ['b', ';']
      (.inr ⟨['a', ' ', '-', '-', '\'', ';'], rfl⟩) hidle (by decide)) ?_
    refine .head (.indent ['a', ' ', '-', '-', '\'', ';', '\n', '-', '-', 'c', '\n'] ['\t']
      ['b', ';'] (.inr ⟨['a', ' ', '-', '-', '\'', ';', '\n', '-', '-', 'c'], rfl⟩)
      (by simp [IsSpace, isBlank])) ?_
    exact .single (.trail ['a', ' ', '-', '-', '\'', ';', '\n', '-', '-', 'c', '\n', '\t', 'b', ';']
      ['\r'] [] (by simp [IsSpace, isBlank]) (.inl rfl))
  obtain ⟨hsame, hreturns⟩ := splitScript_eq_of_layoutEdits script
  exact ⟨hedits, hsame other hedits, hreturns⟩

end SqlJob
