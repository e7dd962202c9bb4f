/-!
# UTF-8

Bytes as text. Bytes that are no text have a first place where they go wrong; they may still be read
with a replacement character for every group of bytes that starts a character but does not finish
it.
-/

namespace SqlJob.Utf8

/-- For the first byte of a character: the bounds of each byte that follows, in order. -/
def following? (b : Nat) : Option (List (Nat × Nat)) :=
  let any := (0x80, 0xBF)
  if b < 0x80 then some []
  else if b < 0xC2 then none
  else if b < 0xE0 then some [any]
  else if b = 0xE0 then some [(0xA0, 0xBF), any]
  else if b = 0xED then some [(0x80, 0x9F), any]
  else if b < 0xF0 then some [any, any]
  else if b = 0xF0 then some [(0x90, 0xBF), any, any]
  else if b < 0xF4 then some [any, any, any]
  else if b = 0xF4 then some [(0x80, 0x8F), any, any]
  else none

/-- The part of the character's number that its first byte holds. -/
def leadBits (b : Nat) : Nat :=
  if b < 0x80 then b else if b < 0xE0 then b % 0x20 else if b < 0xF0 then b % 0x10 else b % 8

/-- What bytes start with. -/
inductive Piece where
  | char (c : Char)
  /-- So many bytes that do not go on as a character. -/
  | broken (length : Nat)
  /-- So many bytes that could still become a character, but there are no more. -/
  | cutOff (length : Nat)
  deriving DecidableEq, Repr

/-- Goes on with a character of which `length` bytes with the value `n` are read. -/
def finish (n length : Nat) : List (Nat × Nat) → List UInt8 → Piece × List UInt8
  | [], rest => (.char (.ofNat n), rest)
  | _ :: _, [] => (.cutOff length, [])
  | (low, high) :: more, b :: rest =>
    if low ≤ b.toNat ∧ b.toNat ≤ high then finish (n * 64 + b.toNat % 64) (length + 1) more rest
    else (.broken length, b :: rest)

/-- What bytes start with, and what is left. -/
def first (b : UInt8) (rest : List UInt8) : Piece × List UInt8 :=
  match following? b.toNat with
  | none => (.broken 1, rest)
  | some bounds => finish (leadBits b.toNat) 1 bounds rest

/-- The pieces of bytes, of which there are at most as many as the fuel says. -/
def piecesFrom : Nat → List UInt8 → List Piece
  | 0, _ => []
  | _ + 1, [] => []
  | fuel + 1, b :: rest =>
    let (p, rest) := first b rest
    p :: piecesFrom fuel rest

/-- The pieces of bytes. -/
def pieces (bytes : List UInt8) : List Piece := piecesFrom bytes.length bytes

/-- The characters of pieces that are all characters. -/
def chars? : List Piece → Option (List Char)
  | [] => some []
  | .char c :: rest => (chars? rest).map (c :: ·)
  | _ :: _ => none

/-- The text that bytes are, if they are one. -/
def decode? (bytes : List UInt8) : Option String := (chars? (pieces bytes)).map String.ofList

/-- The text of bytes, with a replacement character for what is none. -/
def decodeLossy (bytes : List UInt8) : String :=
  .ofList ((pieces bytes).map fun
    | .char c => c
    | _ => Char.ofNat 0xFFFD)

/-- What is wrong with bytes that are no text: where the first fault is, and how many bytes it
takes, unless the bytes just end too early. -/
def faultFrom (place : Nat) : List Piece → Option (Nat × Option Nat)
  | [] => none
  | .char c :: rest => faultFrom (place + c.utf8Size) rest
  | .broken n :: _ => some (place, some n)
  | .cutOff _ :: _ => some (place, none)

/-- What is wrong with bytes that are no text, in words. -/
def faultText? (bytes : List UInt8) : Option String :=
  (faultFrom 0 (pieces bytes)).map fun (place, length) =>
    match length with
    | some n => "invalid utf-8 sequence of " ++ toString n ++ " bytes from index " ++ toString place
    | none => "incomplete utf-8 byte sequence from index " ++ toString place

/-- The bytes of a text. -/
def encode (s : String) : List UInt8 := s.toUTF8.toList

end SqlJob.Utf8
