/-!
# Patterns

The two kinds of patterns for texts. In the first, a percent sign stands for any text and an
underscore for any character, letters of either case are the same, and an escape character may take
the meaning from these signs. In the second, a star and a question mark stand for these, brackets
surround the characters that fit one place, and case matters.
-/

namespace SqlJob.Database.Pattern

/-- Whether two characters are the same but for the case of ASCII letters. -/
def sameLetter (a b : Char) : Bool := a.toLower == b.toLower

/-- Whether some text behind at most all of the given one fits. -/
def somewhere (fits : List Char → Bool) : List Char → Bool
  | [] => fits []
  | c :: rest => fits (c :: rest) || somewhere fits rest

/-- Whether a text fits a pattern of percent signs and underscores. -/
def like (escape : Option Char) : List Char → List Char → Bool
  | [], s => s.isEmpty
  | [p], s =>
    if escape = some p then false
    else if p = '%' then true
    else match s with
      | [c] => p == '_' || sameLetter p c
      | _ => false
  | p :: q :: rest, s =>
    if escape = some p then
      match s with
      | c :: s => sameLetter q c && like escape rest s
      | [] => false
    else if p = '%' then somewhere (like escape (q :: rest)) s
    else match s with
      | c :: s => (p == '_' || sameLetter p c) && like escape (q :: rest) s
      | [] => false

/-- The set behind an opening bracket: whether it is turned around, its ranges, and what follows. -/
def bracket (s : List Char) : Option (Bool × List (Char × Char) × List Char) :=
  let (negated, s) :=
    match s with
    | '^' :: s => (true, s)
    | s => (false, s)
  let (first, s) :=
    match s with
    | ']' :: s => ([(']', ']')], s)
    | s => ([], s)
  match ranges s with
  | some (rs, rest) => some (negated, first ++ rs, rest)
  | none => none
where
  ranges : List Char → Option (List (Char × Char) × List Char)
    | [] => none
    | ']' :: rest => some ([], rest)
    | [_] => none
    | [_, _] => none
    | a :: '-' :: b :: rest =>
      if b = ']' then (ranges ('-' :: b :: rest)).map fun (rs, r) => ((a, a) :: rs, r)
      else (ranges rest).map fun (rs, r) => ((a, b) :: rs, r)
    | a :: rest => (ranges rest).map fun (rs, r) => ((a, a) :: rs, r)
  termination_by s => s.length

/-- Whether a text fits a pattern of stars, question marks and brackets. -/
def glob : Nat → List Char → List Char → Bool
  | 0, _, _ => false
  | _ + 1, [], s => s.isEmpty
  | fuel + 1, p :: rest, s =>
    if p = '*' then somewhere (glob fuel rest) s
    else match s with
      | [] => false
      | c :: s =>
        if p = '?' then glob fuel rest s
        else if p = '[' then
          match bracket rest with
          | some (negated, ranges, rest) =>
            (ranges.any (fun r => r.1 ≤ c && c ≤ r.2)) != negated && glob fuel rest s
          | none => false
        else p == c && glob fuel rest s

end SqlJob.Database.Pattern
