import SqlJob.Text.Lines
import SqlJob.Text.Utf8

/-!
# Percent-encoding

A byte may be written as a percent sign and two hexadecimal digits. Reading turns what is written
like this back into bytes and leaves everything else alone.
-/

namespace SqlJob.Percent

/-- The value of a hexadecimal digit. -/
def hexValue? (b : UInt8) : Option UInt8 :=
  if 0x30 ≤ b ∧ b ≤ 0x39 then some (b - 0x30)
  else if 0x41 ≤ b ∧ b ≤ 0x46 then some (b - 0x37)
  else if 0x61 ≤ b ∧ b ≤ 0x66 then some (b - 0x57)
  else none

/-- The bytes that percent-encoded bytes stand for. -/
def decode : List UInt8 → List UInt8
  | 0x25 :: a :: b :: rest =>
    match hexValue? a, hexValue? b with
    | some x, some y => (16 * x + y) :: decode rest
    | _, _ => 0x25 :: decode (a :: b :: rest)
  | x :: rest => x :: decode rest
  | [] => []

/-- A hexadecimal digit in upper case. -/
def hexDigit (n : Nat) : Char := ((Nat.digitChar n).toUpper)

/-- A byte in percent-encoding. -/
def encodeByte (b : UInt8) : List Char :=
  ['%', hexDigit (b.toNat / 16), hexDigit (b.toNat % 16)]

/-- A text in which every character that is not safe is percent-encoded. -/
def encode (isSafe : Char → Bool) (s : List Char) : List Char :=
  s.flatMap fun c =>
    if isSafe c then [c] else (Utf8.encode (String.singleton c)).flatMap encodeByte

/-- The fields of a query string: names and values, both decoded. -/
def fields (query : String) : List (String × String) :=
  let text (s : String) : String :=
    Utf8.decodeLossy (decode ((Utf8.encode s).map fun b => if b = 0x2B then 0x20 else b))
  (Text.splitOn '&' query.toList).filterMap fun part =>
    if part.isEmpty then none
    else
      let name := part.takeWhile (· != '=')
      let value := part.drop (name.length + 1)
      some (text (.ofList name), text (.ofList value))

end SqlJob.Percent
