import SqlJob.Proofs.Text.Trimmed
import SqlJob.Script.Splitter
import Mathlib.Data.List.TakeWhile

/-!
# Lines of a script

What a line contributes to a script has no comment in it and no white space around it. Such a text
is called plain here if it is not empty. A plain line contributes itself (`IsPlain.content_eq`), and
every line that contributes something contributes a plain text (`isPlain_content`).

The pieces a statement is made of are plain, hold no line feed and do not end with a semicolon. Both
kinds of lines that add to a statement add such a piece (`isPiece_of_continues`,
`isPiece_of_closes`), and a piece as a line of its own adds itself (`role_of_isPiece`).
-/

namespace SqlJob.Script

open Text

/-- Reading leaves the line as it is: it is not empty, has no white space around it and no comment
in it. -/
structure IsPlain (line : List Char) : Prop where
  ne_nil : line ≠ []
  isTrimmed : IsTrimmed line
  no_comment : ¬ ['-', '-'] <:+: line

/-- A piece of a statement: a plain line that leaves a statement open. -/
structure IsPiece (piece : List Char) : Prop extends IsPlain piece where
  leaves_open : piece.getLast? ≠ some ';'
  one_line : '\n' ∉ piece

/-! ## Comments -/

/-- What stands before a comment is what the line starts with. -/
theorem beforeComment_prefix_self (line : List Char) : beforeComment line <+: line := by
  fun_induction beforeComment line with
  | case1 => exact List.prefix_rfl
  | case2 c => exact List.prefix_rfl
  | case3 c d rest h => exact List.nil_prefix
  | case4 c d rest h ih => exact (List.cons_prefix_cons).mpr ⟨rfl, ih⟩

/-- The first two characters of a text are no comment mark if they are not both hyphens. -/
theorem comment_infix_cons {c : Char} {s : List Char} (h : ¬ ['-', '-'] <+: c :: s) :
    ['-', '-'] <:+: c :: s ↔ ['-', '-'] <:+: s := by
  rw [List.infix_cons_iff]
  exact or_iff_right h

/-- A character that is no hyphen keeps what stands in front of it and behind it apart: a comment
starts in the one or in the other. -/
theorem comment_infix_append_cons {c : Char} (hc : c ≠ '-') {s t : List Char} :
    ['-', '-'] <:+: s ++ c :: t ↔ ['-', '-'] <:+: s ∨ ['-', '-'] <:+: t := by
  induction s with
  | nil =>
    have hstart : ¬ ['-', '-'] <+: c :: t := fun h => hc (List.cons_prefix_cons.mp h).1.symm
    simp [comment_infix_cons hstart]
  | cons d s ih =>
    have hstart : ['-', '-'] <+: d :: (s ++ c :: t) ↔ ['-', '-'] <+: d :: s := by
      cases s with
      | nil => simp [hc.symm]
      | cons e s => simp
    rw [List.cons_append, List.infix_cons_iff, List.infix_cons_iff, hstart, ih, or_assoc]

/-- A text without hyphens keeps what stands in front of it and behind it apart, unless it is
empty. -/
theorem comment_infix_append {u : List Char} (hu : '-' ∉ u) (hne : u ≠ []) {s t : List Char} :
    ['-', '-'] <:+: s ++ (u ++ t) ↔ ['-', '-'] <:+: s ∨ ['-', '-'] <:+: t := by
  induction u generalizing s with
  | nil => exact absurd rfl hne
  | cons c u ih =>
    obtain ⟨hc, hu⟩ := List.ne_and_not_mem_of_not_mem_cons hu
    rw [List.cons_append, comment_infix_append_cons hc.symm]
    rcases eq_or_ne u [] with rfl | hne
    · rfl
    · have hrest := ih hu hne (s := [])
      rw [List.nil_append] at hrest
      simp [hrest]

/-- No comment starts in what stands before a comment. -/
theorem no_comment_beforeComment (line : List Char) :
    ¬ ['-', '-'] <:+: beforeComment line := by
  fun_induction beforeComment line with
  | case1 => simp
  | case2 c => exact fun h => by simpa using h.length_le
  | case3 c d rest h => simp
  | case4 c d rest h ih =>
    -- The text that is left may end right behind `c`, so it is looked at as a start of the line.
    have hstart : ¬ ['-', '-'] <+: c :: beforeComment (d :: rest) := by
      intro hp
      obtain ⟨rfl, htail⟩ := List.cons_prefix_cons.mp hp
      have hd := htail.trans (beforeComment_prefix_self (d :: rest))
      obtain ⟨rfl, -⟩ := List.cons_prefix_cons.mp hd
      exact h ⟨rfl, rfl⟩
    rw [comment_infix_cons hstart]
    exact ih

/-- A line without a comment is all that stands before one. -/
theorem beforeComment_of_no_comment {line : List Char} (h : ¬ ['-', '-'] <:+: line) :
    beforeComment line = line := by
  fun_induction beforeComment line with
  | case1 => rfl
  | case2 c => rfl
  | case3 c d rest hc =>
    obtain ⟨rfl, rfl⟩ := hc
    exact absurd ⟨[], rest, rfl⟩ h
  | case4 c d rest hc ih =>
    have hrest : ¬ ['-', '-'] <:+: d :: rest :=
      fun hi => h (hi.trans (List.suffix_cons c _).isInfix)
    rw [ih hrest]

/-- A text without hyphens behind a line stands before a comment only if there is none in the
line. -/
theorem beforeComment_append {b : List Char} (hb : '-' ∉ b) (line : List Char) :
    beforeComment (line ++ b) = beforeComment line ∨
      beforeComment (line ++ b) = beforeComment line ++ b := by
  have hno : beforeComment b = b :=
    beforeComment_of_no_comment fun hi => hb (hi.subset List.mem_cons_self)
  fun_induction beforeComment line with
  | case1 => exact .inr hno
  | case2 d =>
    right
    cases b with
    | nil => rfl
    | cons c b =>
      have hc : c ≠ '-' := fun h => hb (h ▸ List.mem_cons_self)
      simp [beforeComment, hc, hno]
  | case3 d e rest h =>
    left
    simp [beforeComment, h]
  | case4 d e rest h ih =>
    have hcons : beforeComment (d :: e :: rest ++ b) = d :: beforeComment (e :: rest ++ b) := by
      simp [beforeComment, h]
    rw [hcons]
    rcases ih with ih | ih
    · exact .inl (by rw [ih])
    · exact .inr (by rw [ih, List.cons_append])

/-! ## Contents -/

/-- White space at the end of a line contributes nothing. -/
theorem content_append_right {b : List Char} (hb : IsSpace b) (line : List Char) :
    content (line ++ b) = content line := by
  have hno : '-' ∉ b := hb.notMem (by decide)
  unfold content
  rcases beforeComment_append hno line with h | h
  · rw [h]
  · rw [h, trim_append_right hb]

/-- What a line contributes is a part of it. -/
theorem content_infix_self (line : List Char) : content line <:+: line :=
  (trim_infix_self _).trans (beforeComment_prefix_self line).isInfix

/-- What a line contributes is plain, if it is anything. -/
theorem isPlain_content {line : List Char} (h : content line ≠ []) : IsPlain (content line) where
  ne_nil := h
  isTrimmed := isTrimmed_trim _
  no_comment := fun hc => no_comment_beforeComment line (hc.trans (trim_infix_self _))

/-- A plain line contributes itself. -/
theorem IsPlain.content_eq {line : List Char} (h : IsPlain line) : content line = line := by
  unfold content
  rw [beforeComment_of_no_comment h.no_comment, h.isTrimmed.trim_eq]

/-- The plain lines are those that contribute themselves and are not empty. -/
theorem isPlain_iff {line : List Char} : IsPlain line ↔ line ≠ [] ∧ content line = line := by
  constructor
  · intro h
    exact ⟨h.ne_nil, h.content_eq⟩
  · rintro ⟨hne, hcontent⟩
    rw [← hcontent] at hne ⊢
    exact isPlain_content hne

instance : DecidablePred IsPlain := fun _ => decidable_of_iff _ isPlain_iff.symm

/-- White space and a semicolon behind a plain line keep it plain. -/
theorem IsPlain.append_space_semicolon {line d : List Char} (h : IsPlain line) (hd : IsSpace d) :
    IsPlain (line ++ (d ++ [';'])) where
  ne_nil := by simp
  isTrimmed := {
    head := by
      intro c hc
      rw [List.head?_append_of_ne_nil _ h.ne_nil] at hc
      exact h.isTrimmed.head c hc
    last := by
      intro c hc
      obtain rfl : ';' = c := by simpa [← List.append_assoc] using hc
      decide }
  no_comment := by
    have hhyphen : '-' ∉ d ++ [';'] := by simpa using hd.notMem (by decide)
    have hend := comment_infix_append hhyphen (by simp) (s := line) (t := [])
    rw [List.append_nil] at hend
    simpa [hend] using h.no_comment

/-- A semicolon behind a plain line keeps it plain. -/
theorem IsPlain.append_semicolon {line : List Char} (h : IsPlain line) :
    IsPlain (line ++ [';']) :=
  h.append_space_semicolon (d := []) (by simp [IsSpace])

/-! ## Roles -/

/-- There is no semicolon in the text before the first one. -/
theorem notMem_takeWhile_semicolon (text : List Char) :
    ';' ∉ text.takeWhile (· != ';') := by
  intro h
  have hne := List.mem_takeWhile_imp h
  simp at hne

/-- A line that leaves the statement open adds a piece to it. -/
theorem isPiece_of_continues {line text : List Char} (hl : '\n' ∉ line)
    (h : role line = .continues text) : IsPiece text := by
  unfold role at h
  dsimp only at h
  split_ifs at h with h1 h2
  obtain rfl : content line = text := by simpa using h
  exact {
    toIsPlain := isPlain_content h1
    leaves_open := h2
    one_line := fun hn => hl ((content_infix_self line).subset hn) }

/-- A line that closes the statement adds a piece to it, if it adds anything. -/
theorem isPiece_of_closes {line head : List Char} (hl : '\n' ∉ line)
    (h : role line = .closes head) (hne : head ≠ []) : IsPiece head := by
  unfold role at h
  dsimp only at h
  split_ifs at h with h1 h2
  obtain rfl : trim ((content line).takeWhile (· != ';')) = head := by simpa using h
  have hpart := trim_infix_self ((content line).takeWhile (· != ';'))
  have hcut := hpart.trans (List.takeWhile_prefix (l := content line) (· != ';')).isInfix
  exact {
    ne_nil := hne
    isTrimmed := isTrimmed_trim _
    no_comment := fun hc => (isPlain_content h1).no_comment (hc.trans hcut)
    leaves_open := fun hs =>
      notMem_takeWhile_semicolon _ (hpart.subset (List.mem_of_getLast? hs))
    one_line := fun hn => hl ((content_infix_self line).subset (hcut.subset hn)) }

/-- A piece as a line of its own leaves the statement open and adds itself. -/
theorem role_of_isPiece {piece : List Char} (h : IsPiece piece) :
    role piece = .continues piece := by
  unfold role
  rw [h.content_eq, if_neg h.ne_nil, if_neg h.leaves_open]

/-- A plain line that ends with a semicolon closes the statement with the text before its first
semicolon. -/
theorem role_append_semicolon {line : List Char} (h : IsPlain (line ++ [';'])) :
    role (line ++ [';']) = .closes (trim (line.takeWhile (· != ';'))) := by
  have hlast : (line ++ [';']).getLast? = some ';' := by simp
  unfold role
  rw [h.content_eq, if_neg h.ne_nil, if_pos hlast, List.takeWhile_append]
  split_ifs with hall
  · rw [(List.takeWhile_prefix (· != ';')).eq_of_length hall]
    simp
  · rfl

end SqlJob.Script
