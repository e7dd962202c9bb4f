import SqlJob.Sql.Lexer
import Mathlib.Data.List.Infix
import Mathlib.Tactic.SplitIfs

/-!
# Where words stand in a text

The tokenizer takes one token after another off a text. `Accounts` says what this tells about the
text: white space and comments are skipped to an end of the text, and an unquoted word or an opening
parenthesis stands where it was taken. There is one lemma for each kind of start, from the numbers,
which may be words in some dialects, to the words with a letter in front of a quote, and
`accounts_step` puts them together.

So the first word of a statement, in front of which there may be white space, comments and opening
parentheses, divides the text into what leads to it, the word, and what is left behind it
(`FirstWord`, `exists_firstWord`).
-/

namespace SqlJob.Sql

namespace Lexer

/-- What a step from the start of a text says about the text. -/
structure Accounts (s : List Char) (r : LexStep) : Prop where
  /-- A step that gives no token leaves an end of the text. -/
  skipped : ∀ after, r = .ok (none, after) → after <:+ s
  /-- An unquoted word stands at the start of the text, and what is left stands behind it. -/
  word : ∀ value keyword after, r = .ok (some (.word value none keyword), after) →
    s = value.toList ++ after ∧ keyword = Text.upper value
  /-- An opening parenthesis stands at the start of the text, and what is left stands behind it. -/
  opening : ∀ after, r = .ok (some (.symbol "("), after) → s = '(' :: after

variable {s : List Char} {d : Dialect}

/-- A fault says nothing about the text. -/
theorem accounts_error (fault : LexFault) : Accounts s (.error fault) :=
  ⟨nofun, nofun, nofun⟩

/-- Nor does a token that is neither an unquoted word nor an opening parenthesis. -/
theorem accounts_give {t : Token} (rest : List Char)
    (hword : ∀ value keyword, t ≠ .word value none keyword) (hopening : t ≠ .symbol "(") :
    Accounts s (give (t, rest)) where
  skipped := nofun
  word value keyword after h := by
    simp only [give, Except.ok.injEq, Prod.mk.injEq, Option.some.injEq] at h
    exact absurd h.1 (hword value keyword)
  opening after h := by
    simp only [give, Except.ok.injEq, Prod.mk.injEq, Option.some.injEq] at h
    exact absurd h.1 hopening

/-- A string literal is neither. -/
theorem accounts_string (kind : StringKind) (value : String) (rest : List Char) :
    Accounts s (give (.string kind value, rest)) :=
  accounts_give rest nofun nofun

/-- A symbol is no word. -/
theorem accounts_symbol {symbol : String} (rest : List Char) (h : symbol ≠ "(") :
    Accounts s (give (.symbol symbol, rest)) :=
  accounts_give rest nofun fun heq => h (Token.symbol.inj heq)

/-- A text that is skipped to some end of it. -/
theorem accounts_skip {after : List Char} (h : after <:+ s) : Accounts s (.ok (none, after)) where
  skipped after' heq := by
    simp only [Except.ok.injEq, Prod.mk.injEq, true_and] at heq
    rwa [← heq]
  word := nofun
  opening := nofun

/-- An unquoted word that the text starts with. -/
theorem accounts_ofWord {value rest : List Char} (h : s = value ++ rest) :
    Accounts s (give (.ofWord (.ofList value), rest)) where
  skipped := nofun
  word value keyword after heq := by
    simp only [give, Token.ofWord, Except.ok.injEq, Prod.mk.injEq, Option.some.injEq,
      Token.word.injEq, true_and] at heq
    obtain ⟨⟨rfl, rfl⟩, rfl⟩ := heq
    exact ⟨by rw [h, String.toList_ofList], rfl⟩
  opening after heq := by
    simp [give, Token.ofWord] at heq

/-- A word is taken from the start of the text. -/
theorem accounts_word {start rest : List Char} (h : s = start ++ rest) :
    Accounts s (give (word d start rest)) := by
  refine accounts_ofWord ?_
  rw [h, List.append_assoc, List.takeWhile_append_dropWhile]

/-- A word that may be a number is taken from the start of the text. -/
theorem accounts_wordOrNumber {start rest : List Char} (h : s = start ++ rest) :
    Accounts s (give (wordOrNumber d start rest)) := by
  unfold wordOrNumber
  dsimp only
  split_ifs
  · exact accounts_give _ nofun nofun
  · exact accounts_word h

/-- A string literal gives nothing but a string. -/
theorem accounts_quoted (kind : StringKind) (escapes : Bool) (t : List Char) :
    Accounts s (string kind escapes t) := by
  unfold string
  split
  · split
    · exact accounts_string _ _ _
    · exact accounts_error _
  · exact accounts_error _

theorem accounts_oneOrThree (one three : StringKind) (escapes : Bool) (t : List Char) :
    Accounts s (oneOrThree one three escapes t) := by
  unfold oneOrThree
  split
  · split_ifs
    · split
      · exact accounts_string _ _ _
      · exact accounts_error _
    · exact accounts_string _ _ _
    · split
      · exact accounts_string _ _ _
      · exact accounts_error _
  · split_ifs
    · exact accounts_string _ _ _
    · exact accounts_error _
  · exact accounts_error _

theorem accounts_plainString (one three : StringKind) (escapes : Bool) (t : List Char) :
    Accounts s (plainString d one three escapes t) := by
  unfold plainString
  split_ifs
  · exact accounts_oneOrThree one three escapes t
  · exact accounts_quoted one escapes t

/-- The letter in front of a string literal starts a string or a word. -/
theorem accounts_prefixed (c : Char) (rest : List Char) :
    Accounts (c :: rest) (prefixed d c rest) := by
  have hother : Accounts (c :: rest) (prefixed.other d c rest) := accounts_word rfl
  unfold prefixed
  split <;> (try split_ifs) <;> (try split) <;>
    first
    | exact hother
    | exact accounts_plainString _ _ _ _
    | exact accounts_oneOrThree _ _ _ _
    | exact accounts_quoted _ _ _
    | exact accounts_string _ _ _
    | exact accounts_error _

/-- A part of the text that is cut off, and what is left. -/
theorem prefix_append_drop {p t : List Char} (h : p <+: t) : p ++ t.drop p.length = t := by
  obtain ⟨u, rfl⟩ := h
  rw [List.drop_left]

/-- What is kept of the first character is a start of the text. -/
theorem filter_take_isPrefix (p : Char → Bool) (t : List Char) : (t.take 1).filter p <+: t := by
  cases t with
  | nil => exact List.prefix_rfl
  | cons c t =>
    rw [List.take_succ_cons, List.take_zero, List.filter_singleton]
    cases p c
    · exact List.nil_prefix
    · exact List.prefix_append [c] t

/-- An exponent is a start of the text. -/
theorem exponent?_isPrefix (t : List Char) : (exponent? t).getD [] <+: t := by
  cases t with
  | nil => exact List.prefix_rfl
  | cons e t =>
    unfold exponent?
    dsimp only
    split_ifs
    · exact List.nil_prefix
    · have hsign := filter_take_isPrefix (fun c => c == '+' || c == '-') t
      rw [Option.getD_some, List.cons_append]
      refine List.cons_prefix_cons.mpr ⟨rfl, ?_⟩
      conv_rhs => rw [← prefix_append_drop hsign]
      exact (List.prefix_append_right_inj _).mpr (List.takeWhile_prefix _)
    · exact List.nil_prefix

/-- A number, or the word that starts with one, is taken from the start of the text. -/
theorem accounts_number (t : List Char) : Accounts t (number d t) := by
  have hwhole : t.takeWhile Char.isDigit ++ t.dropWhile Char.isDigit = t :=
    List.takeWhile_append_dropWhile
  have hpoint := prefix_append_drop (filter_take_isPrefix (· == '.') (t.dropWhile Char.isDigit))
  unfold number
  dsimp only
  split
  · exact accounts_string _ _ _
  · -- The parts of the number are named, as each of them starts what the one before it leaves.
    generalize t.takeWhile Char.isDigit = whole at *
    generalize t.dropWhile Char.isDigit = rest at *
    generalize (rest.take 1).filter (· == '.') = point at *
    generalize rest.drop point.length = rest₁ at *
    have hfraction : rest₁.takeWhile Char.isDigit ++ rest₁.dropWhile Char.isDigit = rest₁ :=
      List.takeWhile_append_dropWhile
    generalize rest₁.takeWhile Char.isDigit = fraction at *
    generalize rest₁.dropWhile Char.isDigit = rest₂ at *
    have hpower := prefix_append_drop (exponent?_isPrefix rest₂)
    generalize (exponent? rest₂).getD [] = power at *
    generalize rest₂.drop power.length = rest₃ at *
    split_ifs with hdot hidentifier htail hnil
    · exact accounts_symbol _ (by decide)
    · have hdrop := prefix_append_drop (List.takeWhile_prefix d.identifierPart (l := rest₃))
      refine accounts_ofWord ?_
      rw [← hwhole, ← hpoint, ← hfraction, ← hpower]
      simp [hdrop]
    · split <;> exact accounts_give _ nofun nofun
    · simp at hnil
    · split <;> exact accounts_give _ nofun nofun

/-- What is left behind a comment is an end of the text. -/
theorem afterComment_suffix {last : Char} {depth : Nat} {t after : List Char}
    (h : afterComment last depth t = some after) : after <:+ t := by
  induction t generalizing last depth with
  | nil => simp [afterComment] at h
  | cons c t ih =>
    unfold afterComment at h
    split_ifs at h
    · exact (ih h).trans (List.suffix_cons c t)
    · obtain rfl := Option.some.inj h
      exact List.suffix_cons c t
    · exact (ih h).trans (List.suffix_cons c t)
    · exact (ih h).trans (List.suffix_cons c t)

/-- What is left behind a line is an end of the text. -/
theorem afterLine_suffix (t : List Char) : afterLine t <:+ t :=
  (List.drop_suffix 1 _).trans (List.dropWhile_suffix _)

/-- A symbol, longer ones included, is an opening parenthesis only if it is that symbol. -/
theorem accounts_symbolToken {symbol : String} (rest : List Char) (h : symbol ≠ "(") :
    Accounts s (give (symbolToken d symbol rest)) := by
  unfold symbolToken
  dsimp only
  split_ifs with hextensible htail hnil
  · exact accounts_symbol _ h
  · exact accounts_give _ nofun nofun
  · exact accounts_symbol _ h
  · simp at hnil

/-- An opening parenthesis is not lengthened to an operator. -/
theorem accounts_opening (rest : List Char) :
    Accounts ('(' :: rest) (give (symbolToken d "(" (rest.drop ("(".length - 1)))) := by
  have hplain : (d.customOperators && extensible.contains "(") = false := by
    rw [show extensible.contains "(" = false by decide, Bool.and_false]
  have hdrop : rest.drop ("(".length - 1) = rest := rfl
  have htoken : symbolToken d "(" rest = (.symbol "(", rest) := by
    unfold symbolToken
    rw [hplain]
    rfl
  rw [hdrop, htoken]
  refine ⟨nofun, nofun, fun after h => ?_⟩
  simp only [give, Except.ok.injEq, Prod.mk.injEq, true_and] at h
  rw [h]

/-- What starts with a hyphen is a comment or a symbol. -/
theorem accounts_dash (c : Char) (rest : List Char) : Accounts (c :: rest) (dash d rest) := by
  unfold dash
  split
  · next rest =>
    exact accounts_skip
      ((afterLine_suffix rest).trans ((List.suffix_cons '-' rest).trans (List.suffix_cons c _)))
  · exact accounts_symbolToken _ (by decide)
  · exact accounts_symbolToken _ (by decide)
  · exact accounts_symbolToken _ (by decide)

/-- What starts with a slash is a comment or a symbol. -/
theorem accounts_slash (c : Char) (rest : List Char) : Accounts (c :: rest) (slash d rest) := by
  unfold slash
  split
  · next rest =>
    split
    · next after h =>
      exact accounts_skip
        ((afterComment_suffix h).trans ((List.suffix_cons '*' rest).trans (List.suffix_cons c _)))
    · exact accounts_error _
  · next tail =>
    split_ifs
    · exact accounts_skip
        ((afterLine_suffix tail).trans ((List.suffix_cons '/' tail).trans (List.suffix_cons c _)))
    · exact accounts_symbol _ (by decide)
    · exact accounts_symbol _ (by decide)
  · exact accounts_symbol _ (by decide)

/-- The longest symbol at the start of a text is an opening parenthesis only if the text starts with
one. -/
theorem eq_of_longestSymbol? {c : Char} {rest : List Char}
    (h : longestSymbol? (c :: rest) = some "(") : c = '(' := by
  unfold longestSymbol? at h
  obtain ⟨n, hn, hsymbol⟩ := List.exists_of_findSome?_eq_some h
  dsimp only at hsymbol
  split_ifs at hsymbol
  have hpos : n ≠ 0 := by
    rintro rfl
    simp at hn
  have htake : (c :: rest).take n = ['('] := by
    have hlist := congrArg String.toList (Option.some.inj hsymbol)
    simpa using hlist
  obtain ⟨m, rfl⟩ := Nat.exists_eq_succ_of_ne_zero hpos
  rw [Nat.succ_eq_add_one, List.take_succ_cons] at htake
  exact (List.cons_eq_cons.mp htake).1

/-- What starts with a number sign is a comment, a symbol or a word. -/
theorem accounts_hash (rest : List Char) : Accounts ('#' :: rest) (hash d rest) := by
  unfold hash
  split_ifs
  · exact accounts_skip ((afterLine_suffix rest).trans (List.suffix_cons '#' rest))
  · split
    · exact accounts_symbol _ (by decide)
    · exact accounts_symbol _ (by decide)
    · next c tail _ =>
      split_ifs
      · exact accounts_wordOrNumber rfl
      · refine accounts_symbolToken _ ?_
        cases hsymbol : longestSymbol? ('#' :: c :: tail) with
        | none => decide
        | some symbol =>
          rintro rfl
          exact absurd (eq_of_longestSymbol? hsymbol) (by decide)

/-- What starts with an at sign is a symbol or a word. -/
theorem accounts_atSign (rest : List Char) : Accounts ('@' :: rest) (atSign d rest) := by
  unfold atSign
  split <;> (try split) <;> (try split_ifs) <;>
    first
    | exact accounts_symbol _ (by decide)
    | exact accounts_wordOrNumber rfl

/-- What starts with a question mark is a symbol or a placeholder. -/
theorem accounts_question (rest : List Char) : Accounts s (question d rest) := by
  unfold question
  split_ifs
  · split <;> exact accounts_symbol _ (by decide)
  · exact accounts_give _ nofun nofun

/-- What starts with a dollar sign is a string or a placeholder. -/
theorem accounts_dollar (rest : List Char) : Accounts s (dollar rest) := by
  unfold dollar
  dsimp only
  split
  · split
    · exact accounts_string _ _ _
    · exact accounts_error _
  · exact accounts_give _ nofun nofun

/-- A quoted identifier is no unquoted word. -/
theorem accounts_identifier (q : Char) (rest : List Char) : Accounts s (identifier q rest) := by
  unfold identifier
  dsimp only
  split
  · refine accounts_give _ (fun value keyword h => ?_) nofun
    simp [Token.ofQuoted] at h
  · exact accounts_error _

/-- Where a step depends on a condition, both ways are looked at. -/
theorem accounts_ite {b : Prop} [Decidable b] {r r' : LexStep} (h : b → Accounts s r)
    (h' : ¬ b → Accounts s r') : Accounts s (if b then r else r') := by
  split_ifs with hb
  · exact h hb
  · exact h' hb

/-- A step skips or takes a start of the text. -/
theorem accounts_step (c : Char) (rest : List Char) : Accounts (c :: rest) (step d c rest) := by
  unfold step
  refine accounts_ite (fun _ => accounts_skip (List.suffix_cons c rest)) fun _ => ?_
  refine accounts_ite (fun _ => accounts_prefixed c rest) fun _ => ?_
  refine accounts_ite (fun _ => accounts_plainString _ _ _ _) fun _ => ?_
  refine accounts_ite (fun _ => accounts_plainString _ _ _ _) fun _ => ?_
  refine accounts_ite (fun _ => accounts_identifier c rest) fun _ => ?_
  refine accounts_ite (fun _ => accounts_number (c :: rest)) fun _ => ?_
  refine accounts_ite (fun _ => accounts_dash c rest) fun _ => ?_
  refine accounts_ite (fun _ => accounts_slash c rest) fun _ => ?_
  refine accounts_ite (fun h => ?_) fun _ => ?_
  · obtain rfl : c = '#' := beq_iff_eq.mp h
    exact accounts_hash rest
  refine accounts_ite (fun h => ?_) fun _ => ?_
  · obtain rfl : c = '@' := beq_iff_eq.mp h
    exact accounts_atSign rest
  refine accounts_ite (fun _ => accounts_question rest) fun _ => ?_
  split
  · next symbol hsymbol =>
    by_cases hopening : symbol = "("
    · subst hopening
      obtain rfl := eq_of_longestSymbol? hsymbol
      exact accounts_opening rest
    · exact accounts_symbolToken _ hopening
  · refine accounts_ite (fun _ => accounts_wordOrNumber rfl) fun _ => ?_
    refine accounts_ite (fun _ => accounts_dollar rest) fun _ => ?_
    refine accounts_ite (fun _ => accounts_skip (List.suffix_cons c rest)) fun _ => ?_
    exact accounts_give _ nofun nofun

/-! ## The first word -/

/-- From the text `s` on, white space, comments and opening parentheses are all that is skipped or
taken until the text `t` is left. -/
inductive LeadsTo (d : Dialect) : List Char → List Char → Prop
  | refl (s : List Char) : LeadsTo d s s
  | skip {c : Char} {rest after t : List Char} (h : step d c rest = .ok (none, after))
      (tail : LeadsTo d after t) : LeadsTo d (c :: rest) t
  | opening {c : Char} {rest after t : List Char}
      (h : step d c rest = .ok (some (.symbol "("), after)) (tail : LeadsTo d after t) :
      LeadsTo d (c :: rest) t

/-- The first word of a text stands between what leads to it and what is left behind it. -/
structure FirstWord (d : Dialect) (s lead : List Char) (value : String) (behind : List Char) :
    Prop where
  split : s = lead ++ (value.toList ++ behind)
  /-- In front of it there are white space, comments and opening parentheses. -/
  leads : LeadsTo d s (value.toList ++ behind)
  /-- It is taken as a word. -/
  word : ∃ c rest, value.toList ++ behind = c :: rest ∧
    step d c rest = .ok (some (.ofWord value), behind)

/-- The unquoted word that the tokens start with behind opening parentheses. -/
def leadingWord? : List PlacedToken → Option String
  | ⟨.symbol "(", _, _⟩ :: ts => leadingWord? ts
  | ⟨.word value none _, _, _⟩ :: _ => some value
  | _ => none

/-- The word that the tokens of a text start with is its first word. -/
theorem exists_firstWord_of_tokensFrom {fuel : Nat} {p : Place} {joined : Bool}
    {ts : List PlacedToken} {value : String} (h : tokensFrom d p joined fuel s = .ok ts)
    (hvalue : leadingWord? ts = some value) : ∃ lead behind, FirstWord d s lead value behind := by
  induction fuel generalizing s p joined ts with
  | zero =>
    obtain rfl : [] = ts := by simpa [tokensFrom] using h
    simp [leadingWord?] at hvalue
  | succ fuel ih =>
    cases s with
    | nil =>
      obtain rfl : [] = ts := by simpa [tokensFrom] using h
      simp [leadingWord?] at hvalue
    | cons c rest =>
      have haccounts := accounts_step (d := d) c rest
      rcases hstep : step d c rest with fault | ⟨t, after⟩
      · simp [tokensFrom, hstep] at h
      cases t with
      | none =>
        simp only [tokensFrom, hstep] at h
        obtain ⟨u, hu⟩ := haccounts.skipped after hstep
        obtain ⟨lead, behind, hfirst⟩ := ih h hvalue
        refine ⟨u ++ lead, behind, ?_, .skip hstep hfirst.leads, hfirst.word⟩
        rw [← hu, List.append_assoc, ← hfirst.split]
      | some t =>
        simp only [tokensFrom, hstep, bind, Except.bind] at h
        split at h
        · simp at h
        · next tokens htokens =>
          obtain rfl : ⟨t, p, joined⟩ :: tokens = ts := by simpa [pure, Except.pure] using h
          unfold leadingWord? at hvalue
          split at hvalue
          · next heq =>
            obtain ⟨htoken, rfl⟩ := List.cons_eq_cons.mp heq
            obtain rfl : t = .symbol "(" := (PlacedToken.mk.inj htoken).1
            obtain ⟨lead, behind, hfirst⟩ := ih htokens hvalue
            have hopening := haccounts.opening after hstep
            refine ⟨'(' :: lead, behind, ?_, .opening hstep hfirst.leads, hfirst.word⟩
            rw [hopening, List.cons_append, ← hfirst.split]
          · next heq =>
            obtain ⟨htoken, rfl⟩ := List.cons_eq_cons.mp heq
            obtain rfl := (PlacedToken.mk.inj htoken).1
            obtain rfl := Option.some.inj hvalue
            obtain ⟨hword, rfl⟩ := haccounts.word _ _ after hstep
            refine ⟨[], after, ?_, ?_, c, rest, hword.symm, hstep⟩
            · exact hword
            · rw [← hword]
              exact .refl _
          · simp at hvalue

end Lexer

/-- The first word of a text, behind white space, comments and opening parentheses, if the text
starts with an unquoted word there. -/
def firstWord? (d : Dialect) (text : String) : Option String :=
  (tokens d text).toOption.bind Lexer.leadingWord?

/-- The first word of a text stands in the text. -/
theorem exists_firstWord {d : Dialect} {text value : String}
    (h : firstWord? d text = some value) :
    ∃ lead behind, Lexer.FirstWord d text.toList lead value behind := by
  obtain ⟨ts, hts, hvalue⟩ := Option.bind_eq_some_iff.mp h
  cases htokens : tokens d text with
  | error e => simp [htokens, Except.toOption] at hts
  | ok ts' =>
    obtain rfl : ts' = ts := by simpa [htokens, Except.toOption] using hts
    exact Lexer.exists_firstWord_of_tokensFrom htokens hvalue

end SqlJob.Sql
