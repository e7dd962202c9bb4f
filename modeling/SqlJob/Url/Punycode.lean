/-!
# Punycode

A label of a domain in other characters than ASCII is written in ASCII alone: its ASCII characters
first, then where the others go, as differences in a number system whose digits adapt to the text.
-/

namespace SqlJob.Punycode

/-- The digit of a value: letters first, then figures. -/
def digit (d : Nat) : Char := if d < 26 then .ofNat (0x61 + d) else .ofNat (0x30 + d - 26)

/-- The value of a digit in lower case. -/
def value? (c : Char) : Option Nat :=
  if 'a' ≤ c ∧ c ≤ 'z' then some (c.toNat - 0x61)
  else if '0' ≤ c ∧ c ≤ '9' then some (c.toNat - 0x30 + 26)
  else none

/-- The threshold of the digit at a place. -/
def threshold (place bias : Nat) : Nat := max 1 (min 26 (place - bias))

/-- Divides a difference until it is small; counts the places that this takes. -/
def settle : Nat → Nat → Nat → Nat × Nat
  | 0, delta, k => (delta, k)
  | fuel + 1, delta, k => if 455 < delta then settle fuel (delta / 35) (k + 36) else (delta, k)

/-- The bias behind a difference, where so many characters are placed. -/
def adapt (delta count : Nat) (isFirst : Bool) : Nat :=
  let delta := if isFirst then delta / 700 else delta / 2
  let (delta, k) := settle 64 (delta + delta / count) 0
  k + 36 * delta / (delta + 38)

/-- The digits of a difference. -/
def digits (bias : Nat) : Nat → Nat → Nat → List Char
  | 0, _, _ => []
  | fuel + 1, q, place =>
    let t := threshold place bias
    if q < t then [digit q]
    else digit (t + (q - t) % (36 - t)) :: digits bias fuel ((q - t) / (36 - t)) (place + 36)

/-- The state of the encoding: difference, bias, characters placed, and what is written. -/
structure Progress where
  delta : Nat := 0
  bias : Nat := 72
  placed : Nat
  written : List Char := []

/-- Goes over the text once and writes the places of the character `n`. -/
def placeAll (n basic : Nat) (p : Progress) : List Char → Progress
  | [] => p
  | c :: rest =>
    if c.toNat < n then placeAll n basic { p with delta := p.delta + 1 } rest
    else if c.toNat = n then
      placeAll n basic {
        delta := 0
        bias := adapt p.delta (p.placed + 1) (p.placed = basic)
        placed := p.placed + 1
        written := p.written ++ digits p.bias 64 p.delta 36 } rest
    else placeAll n basic p rest

/-- Writes the characters of the text from `n` on in the order of their numbers. -/
def encodeFrom (s : List Char) (basic : Nat) : Nat → Nat → Progress → List Char
  | 0, _, p => p.written
  | fuel + 1, n, p =>
    match ((s.map Char.toNat).filter (n ≤ ·)).min? with
    | none => p.written
    | some m =>
      let p := { p with delta := p.delta + (m - n) * (p.placed + 1) }
      let p := placeAll m basic p s
      encodeFrom s basic fuel (m + 1) { p with delta := p.delta + 1 }

/-- A label in ASCII. -/
def encode (s : List Char) : List Char :=
  let plain := s.filter (·.toNat < 0x80)
  plain ++ (if plain.isEmpty then [] else ['-']) ++
    encodeFrom s plain.length (s.length + 1) 0x80 { placed := plain.length }

/-- Reads a difference: its value and what follows. -/
def readDifference (bias : Nat) : Nat → Nat → Nat → List Char → Option (Nat × List Char)
  | _, _, _, [] => none
  | place, weight, i, c :: rest => do
    let d ← value? c
    let i := i + d * weight
    let t := threshold place bias
    if d < t then some (i, rest) else readDifference bias (place + 36) (weight * (36 - t)) i rest

/-- Puts characters at their places, as differences say. -/
def decodeFrom : Nat → Nat → Nat → Nat → List Char → List Char → Option (List Char)
  | 0, _, _, _, _, _ => none
  | _ + 1, _, _, _, done, [] => some done
  | fuel + 1, n, i, bias, done, s => do
    let (j, rest) ← readDifference bias 36 1 i s
    let count := done.length + 1
    let m := n + j / count
    let place := j % count
    if 0x10FFFF < m ∨ (0xD800 ≤ m ∧ m < 0xE000) then none
    else
      decodeFrom fuel m (place + 1) (adapt (j - i) count (i = 0))
        (done.take place ++ .ofNat m :: done.drop place) rest

/-- The label that a text in ASCII stands for. -/
def decode (s : List Char) : Option (List Char) :=
  let tail := (s.reverse.takeWhile (· != '-')).reverse
  let plain := (s.take (s.length - tail.length)).dropLast
  let tail := if tail.length = s.length then s else tail
  decodeFrom (s.length + 1) 0x80 0 72 plain tail

end SqlJob.Punycode
