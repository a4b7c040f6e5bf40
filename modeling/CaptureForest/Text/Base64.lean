import CaptureForest.Text.Layout
/-!
# Bytes as letters

The encoding of bytes with 64 letters: three bytes make four letters, and missing bytes at the end are
marked by the sign `=`. Encoded text is broken into lines of 76 letters.
-/

namespace CaptureForest.Text.Base64

def letter (n : Nat) : Char :=
  if n < 26 then Char.ofNat (n + 'A'.toNat)
  else if n < 52 then Char.ofNat (n - 26 + 'a'.toNat)
  else if n < 62 then Char.ofNat (n - 52 + '0'.toNat)
  else if n = 62 then '+' else '/'

/-- The number that a letter stands for. -/
def digit? (c : Char) : Option Nat :=
  if 'A' ≤ c && c ≤ 'Z' then some (c.toNat - 'A'.toNat)
  else if 'a' ≤ c && c ≤ 'z' then some (c.toNat - 'a'.toNat + 26)
  else if '0' ≤ c && c ≤ '9' then some (c.toNat - '0'.toNat + 52)
  else if c = '+' then some 62
  else if c = '/' then some 63
  else none

/-- Four letters for up to three bytes. -/
def group (a : UInt8) (b c : Option UInt8) : List Char :=
  let x := a.toNat
  let y := (b.map UInt8.toNat).getD 0
  let z := (c.map UInt8.toNat).getD 0
  [letter (x / 4), letter (x % 4 * 16 + y / 16),
    if b.isSome then letter (y % 16 * 4 + z / 64) else '=', if c.isSome then letter (z % 64) else '=']

def letters : List UInt8 → List Char
  | a :: b :: c :: rest => group a (some b) (some c) ++ letters rest
  | [a, b] => group a (some b) none
  | [a] => group a none none
  | [] => []

/-- Ends a line after every 57 bytes and after the last byte. -/
def encodeLines : Nat → List UInt8 → List Char
  | 0, _ => []
  | n + 1, octets =>
    if octets.isEmpty then [] else letters (octets.take 57) ++ '\n' :: encodeLines n (octets.drop 57)

def encode (octets : List UInt8) : String := String.ofList (encodeLines octets.length octets)

/-- The state of a decoder: the bits that were read and are no byte yet, how many letters of the current
group were read, and how many signs for missing bytes stand at this place. -/
structure Decoder where
  pending : Nat := 0
  place : Nat := 0
  missing : Nat := 0
  octets : List UInt8 := []

/-- Reads the letters up to the end of the encoded bytes, skipping all other characters. -/
def decodeFrom (d : Decoder) : List Char → Decoder × Bool
  | [] => (d, false)
  | c :: rest =>
    if c = '=' then
      if 2 ≤ d.place && 4 ≤ d.place + (d.missing + 1) then (d, true)
      else decodeFrom { d with missing := d.missing + 1 } rest
    else
      match digit? c with
      | none => decodeFrom d rest
      | some n =>
        let byte (high : Nat) : List UInt8 := d.octets ++ [high.toUInt8]
        match d.place with
        | 0 => decodeFrom { d with pending := n, place := 1, missing := 0 } rest
        | 1 => decodeFrom ⟨n % 16, 2, 0, byte (d.pending * 4 + n / 16)⟩ rest
        | 2 => decodeFrom ⟨n % 4, 3, 0, byte (d.pending * 16 + n / 4)⟩ rest
        | _ => decodeFrom ⟨0, 0, 0, byte (d.pending * 64 + n)⟩ rest

/-- The encoded bytes, unless the last group is incomplete. -/
def decode (s : String) : Option (List UInt8) :=
  let (d, finished) := decodeFrom {} s.toList
  if finished || d.place = 0 then some d.octets else none

end CaptureForest.Text.Base64
