import SqlJob.Text.Case
import SqlJob.Text.Lines
import SqlJob.Text.Percent
import SqlJob.Url.Punycode

/-!
# Hosts

The host of an address on the web is a domain, or a number in one of two notations. A domain is
written in lower case and in ASCII alone; what ends in a number must be an address of four bytes.
-/

namespace SqlJob.Url

/-- What is wrong with an address. -/
inductive Fault where
  | noScheme
  | emptyHost
  | invalidPort
  | invalidAddress4
  | invalidAddress6
  | invalidDomain
  | invalidCharacter
  deriving DecidableEq, Repr

/-- The fault in words. -/
def Fault.message : Fault → String
  | noScheme => "relative URL without a base"
  | emptyHost => "empty host"
  | invalidPort => "invalid port number"
  | invalidAddress4 => "invalid IPv4 address"
  | invalidAddress6 => "invalid IPv6 address"
  | invalidDomain => "invalid international domain name"
  | invalidCharacter => "invalid domain character"

/-! ### Addresses of four bytes -/

/-- The value of a digit in a base. -/
def digitValue? (base : Nat) (c : Char) : Option Nat :=
  let v :=
    if c.isDigit then some (c.toNat - 48)
    else if 'a' ≤ c ∧ c ≤ 'f' then some (c.toNat - 87)
    else if 'A' ≤ c ∧ c ≤ 'F' then some (c.toNat - 55)
    else none
  v.filter (· < base)

/-- The number that digits in a base spell. -/
def digitsValue? (base : Nat) (s : List Char) : Option Nat :=
  s.foldl (fun n c => n.bind fun n => (digitValue? base c).map fun d => n * base + d) (some 0)

/-- A part of an address of four bytes: decimal, or with a mark for another base. -/
def addressPart? (s : List Char) : Option Nat :=
  match s with
  | [] => none
  | '0' :: 'x' :: rest => digitsValue? 16 rest
  | '0' :: 'X' :: rest => digitsValue? 16 rest
  | '0' :: c :: rest => digitsValue? 8 (c :: rest)
  | s => digitsValue? 10 s

/-- Whether the last part of a domain is a number. -/
def endsInNumber (domain : List Char) : Bool :=
  let parts := (Text.splitOn '.' domain).reverse
  let last :=
    match parts with
    | [] :: p :: _ => p
    | p :: _ => p
    | [] => []
  !last.isEmpty && (last.all Char.isDigit || (addressPart? last).isSome)

/-- The bytes of an address whose last part stands for all that are left. -/
def address4? (domain : List Char) : Option Nat := do
  let parts := Text.splitOn '.' domain
  let parts := if parts.getLast? = some [] then parts.dropLast else parts
  if 4 < parts.length then none
  else
    let numbers ← parts.mapM addressPart?
    let last ← numbers.getLast?
    let first := numbers.dropLast
    if Nat.pow 256 (4 - first.length) ≤ last ∨ first.any (255 < ·) then none
    else some (first.zipIdx.foldl (fun sum (n, i) => sum + n * Nat.pow 256 (3 - i)) last)

/-- The text of an address of four bytes. -/
def address4Text (n : Nat) : String :=
  String.intercalate "." ([3, 2, 1, 0].map fun i => toString (n / Nat.pow 256 i % 256))

/-! ### Addresses of eight words -/

/-- The four bytes at the end of an address, as two words. -/
def finalWords? (s : List Char) : Option (List Nat) := do
  let parts := Text.splitOn '.' s
  let numbers ← parts.mapM fun p =>
    if p.isEmpty ∨ !p.all Char.isDigit ∨ (1 < p.length ∧ p.head? = some '0') then none
    else (digitsValue? 10 p).filter (· ≤ 255)
  match numbers with
  | [a, b, c, d] => some [a * 256 + b, c * 256 + d]
  | _ => none

/-- The words between colons; the last may be four bytes. -/
def words? : List (List Char) → Option (List Nat)
  | [] => some []
  | [p] =>
    if p.contains '.' then finalWords? p
    else if p.isEmpty ∨ 4 < p.length then none
    else (digitsValue? 16 p).map ([·])
  | p :: rest =>
    if p.isEmpty ∨ 4 < p.length then none
    else do some ((← digitsValue? 16 p) :: (← words? rest))

/-- A text cut at the first pair of colons, if there is one. -/
def cutAtGap : List Char → Option (List Char × List Char)
  | ':' :: ':' :: rest => some ([], rest)
  | c :: rest => (cutAtGap rest).map fun (a, b) => (c :: a, b)
  | [] => none

/-- The words of a part of an address, which may be empty. -/
def part? (s : List Char) : Option (List Nat) :=
  if s.isEmpty then some [] else words? (Text.splitOn ':' s)

/-- The eight words of an address. A pair of colons stands for as many zeros as are missing. -/
def address6? (s : List Char) : Option (List Nat) := do
  match cutAtGap s with
  | none =>
    let ws ← part? s
    if ws.length = 8 then some ws else none
  | some (a, b) =>
    if a.contains '.' then none
    else
      let front ← part? a
      let back ← part? b
      let n := front.length + back.length
      if n < 8 then some (front ++ List.replicate (8 - n) 0 ++ back) else none

/-- The longest run of zeros, its start and its length; of several the first. -/
def longestGap (ws : List Nat) : Nat × Nat :=
  let runs := (List.range ws.length).map fun i => (i, ((ws.drop i).takeWhile (· = 0)).length)
  runs.foldl (fun best r => if best.2 < r.2 then r else best) (0, 0)

/-- The text of words, with a pair of colons for the longest run of zeros. -/
def address6Text (ws : List Nat) : String :=
  let hex (ws : List Nat) : String :=
    String.intercalate ":" (ws.map fun w => .ofList (Nat.toDigits 16 w))
  let (start, length) := longestGap ws
  if length < 2 then hex ws
  else hex (ws.take start) ++ "::" ++ hex (ws.drop (start + length))

/-! ### Domains -/

/-- The characters that no domain has. -/
def isForbiddenInDomain (c : Char) : Bool :=
  c.toNat ≤ 0x20 || c.toNat = 0x7F || "%#/:<>?@[\\]^|".toList.contains c

/-- The characters that no host has. -/
def isForbiddenInHost (c : Char) : Bool :=
  [0, 9, 10, 13, 0x20].contains c.toNat || "#/:<>?@[\\]^|".toList.contains c

/-- Characters that are left out of domains. -/
def isIgnored (c : Char) : Bool :=
  [0xAD, 0x200B, 0x2060, 0xFEFF].contains c.toNat || (0xFE00 ≤ c.toNat && c.toNat ≤ 0xFE0F)

/-- Wide forms of characters as the plain ones, and the dots of other scripts as full stops. -/
def plainForm (c : Char) : Char :=
  if [0x3002, 0xFF0E, 0xFF61].contains c.toNat then '.'
  else if 0xFF01 ≤ c.toNat ∧ c.toNat ≤ 0xFF5E then .ofNat (c.toNat - 0xFEE0)
  else c

/-- A label of a domain in ASCII. A label that is in this form already must stand for another
one. -/
def asciiLabel (s : List Char) : Except Fault (List Char) :=
  if s.any (0x80 ≤ ·.toNat) then .ok ("xn--".toList ++ Punycode.encode s)
  else if "xn--".toList.isPrefixOf s then
    match Punycode.decode (s.drop 4) with
    | some t =>
      if t.any (0x80 ≤ ·.toNat) ∧ Punycode.encode t = s.drop 4 then .ok s
      else .error .invalidDomain
    | none => .error .invalidDomain
  else .ok s

/-- A domain in lower case and in ASCII. -/
def asciiDomain (s : List Char) : Except Fault (List Char) := do
  let s := ((s.filter fun c => !isIgnored c).map plainForm).flatMap Text.lowerChar
  if s.any isForbiddenInDomain then throw .invalidDomain
  let labels ← (Text.splitOn '.' s).mapM asciiLabel
  return Text.joinWith '.' labels

/-- The host of a scheme that is known. -/
def readHost (s : List Char) : Except Fault String := do
  match s with
  | '[' :: rest =>
    if rest.getLast? = some ']' then
      match address6? rest.dropLast with
      | some ws => return "[" ++ address6Text ws ++ "]"
      | none => throw .invalidAddress6
    else throw .invalidAddress6
  | s =>
    match Utf8.decode? (Percent.decode (Utf8.encode (.ofList s))) with
    | none => throw .invalidDomain
    | some t =>
      let domain ← asciiDomain t.toList
      if domain.isEmpty then throw .emptyHost
      if endsInNumber domain then
        match address4? domain with
        | some n => return address4Text n
        | none => throw .invalidAddress4
      return .ofList domain

/-- The host of a scheme that is not known: it is kept as it is. -/
def readOpaqueHost (s : List Char) : Except Fault String := do
  match s with
  | '[' :: _ => readHost s
  | s =>
    if s.any isForbiddenInHost then throw .invalidCharacter
    return .ofList (Percent.encode (fun c => 0x20 ≤ c.toNat && c.toNat < 0x7F) s)

end SqlJob.Url
