import CaptureForest.Text.Printable
/-!
# Quoted texts

How texts and byte strings are quoted inside messages. A quoted text stands between single quotes,
or between double quotes when it holds a single quote and no double quote. The backslash, the quote
in use and every character that is not printable are escaped.
-/

namespace CaptureForest.Text

/-- The hexadecimal digits of a number, padded with zeros to a least width. -/
def hexDigits (width n : Nat) : List Char :=
  let digits := Nat.toDigits 16 n
  List.replicate (width - digits.length) '0' ++ digits

/-- The quote that surrounds a text: single, unless only a double quote avoids escapes. -/
def quoteFor (chars : List Char) : Char :=
  if chars.contains '\x27' && !chars.contains '"' then '"' else '\x27'

/-- The escape of a character by its code point, in the shortest of the three forms. -/
def escapeCode (c : Char) : List Char :=
  let n := c.toNat
  if n < 0x100 then '\\' :: 'x' :: hexDigits 2 n
  else if n < 0x10000 then '\\' :: 'u' :: hexDigits 4 n
  else '\\' :: 'U' :: hexDigits 8 n

/-- One character as it stands inside the given quotes. -/
def quoteChar (mark c : Char) : List Char :=
  if c = '\\' || c = mark then ['\\', c]
  else if c = '\n' then ['\\', 'n']
  else if c = '\r' then ['\\', 'r']
  else if c = '\t' then ['\\', 't']
  else if isPrintable c then [c]
  else escapeCode c

def quoteChars (chars : List Char) : List Char :=
  let mark := quoteFor chars
  mark :: chars.flatMap (quoteChar mark) ++ [mark]

/-- A text in quotes. -/
def quote (s : String) : String := String.ofList (quoteChars s.toList)

/-- The text with every character outside ASCII escaped. -/
def asciiOnly (s : String) : String :=
  String.ofList <| s.toList.flatMap fun c => if c.toNat < 128 then [c] else escapeCode c

/-- A byte string in quotes, marked by a leading `b`; bytes outside printable ASCII are escaped. -/
def quoteBytes (bytes : List UInt8) : String :=
  let chars := bytes.map fun b => Char.ofNat b.toNat
  let mark := quoteFor chars
  let body := chars.flatMap fun c =>
    if c.toNat < 0x7f then quoteChar mark c else escapeCode c
  String.ofList ('b' :: mark :: body ++ [mark])

end CaptureForest.Text
