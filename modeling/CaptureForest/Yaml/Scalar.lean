import CaptureForest.Text.Layout
/-!
# Plain scalars of YAML

A plain scalar is a text whose form tells what it stands for: nothing, a truth value, a number in one of
several notations, a moment, a sign with a special meaning, or else just a text. Reading and writing
agree on these forms.
-/

namespace CaptureForest

namespace Yaml

def isBreak (c : Char) : Bool := c == '\n' || c == '\x85' || c == '\u2028' || c == '\u2029'

/-- What separates words: blanks, line breaks, and the end of the text, which reads as a null character. -/
def isGap (c : Char) : Bool := c == '\x00' || c == ' ' || c == '\t' || c == '\r' || isBreak c

/-- What a plain scalar can stand for. -/
inductive ScalarKind where
  | null
  | bool
  | int
  | float
  | timestamp
  | merge
  | defaultValue
  | reserved
  | text
deriving DecidableEq, Repr

def nullWords : List String := ["~", "null", "Null", "NULL"]

def trueWords : List String :=
  ["yes", "Yes", "YES", "true", "True", "TRUE", "on", "On", "ON"]

def falseWords : List String :=
  ["no", "No", "NO", "false", "False", "FALSE", "off", "Off", "OFF"]

def infinityWords : List (List Char) := [".inf", ".Inf", ".INF"].map String.toList

def nanWords : List (List Char) := [".nan", ".NaN", ".NAN"].map String.toList

def isDigit (c : Char) : Bool := '0' ≤ c && c ≤ '9'

def isDigitOrGap (c : Char) : Bool := isDigit c || c == '_'

def isHexOrGap (c : Char) : Bool :=
  isDigitOrGap c || ('a' ≤ c && c ≤ 'f') || ('A' ≤ c && c ≤ 'F')

/-- A nonempty list of characters of a class. -/
def isSome (inClass : Char → Bool) (s : List Char) : Bool := !s.isEmpty && s.all inClass

/-- A list that begins with a character of one class and goes on with characters of another. -/
def isWord (first rest : Char → Bool) : List Char → Bool
  | [] => false
  | c :: s => first c && s.all rest

def dropSign : List Char → List Char
  | '+' :: rest => rest
  | '-' :: rest => rest
  | s => s

/-- A number below sixty as a place of a number with base sixty. -/
def isSixtieth : List Char → Bool
  | [c] => isDigit c
  | [c, d] => '0' ≤ c && c ≤ '5' && isDigit d
  | _ => false

/-- A number with base sixty: places between colons. -/
def isSexagesimal (first : Char → Bool) (s : List Char) : Bool :=
  match Text.splitAt (· == ':') s with
  | head :: place :: places => isWord first isDigitOrGap head && (place :: places).all isSixtieth
  | _ => false

def isNonzeroDigit (c : Char) : Bool := '1' ≤ c && c ≤ '9'

def isInt (s : List Char) : Bool :=
  match dropSign s with
  | ['0'] => true
  | '0' :: 'b' :: rest => isSome (fun c => c == '0' || c == '1' || c == '_') rest
  | '0' :: 'x' :: rest => isSome isHexOrGap rest
  | '0' :: rest => isSome (fun c => ('0' ≤ c && c ≤ '7') || c == '_') rest
  | rest => isWord isNonzeroDigit isDigitOrGap rest || isSexagesimal isNonzeroDigit rest

/-- The end of a number after its point. -/
def isFraction (s : List Char) : Bool :=
  match s.dropWhile isDigitOrGap with
  | [] => true
  | e :: sign :: rest =>
    (e == 'e' || e == 'E') && (sign == '+' || sign == '-') && isSome isDigit rest
  | _ => false

def isFloat (s : List Char) : Bool :=
  let unsigned := dropSign s
  let whole := unsigned.takeWhile (· != '.')
  let point := unsigned.drop whole.length
  match whole, point with
  | _, [] => false
  | [], _ :: rest =>
    infinityWords.contains point ||
      (unsigned == s && (nanWords.contains point || (rest.head?.any isDigit && isFraction rest)))
  | _, _ :: rest =>
    (isWord isDigit isDigitOrGap whole && isFraction rest) ||
      (isSexagesimal isDigit whole && rest.all isDigitOrGap)

/-- A date, or a date with a time of day. -/
structure Timestamp where
  year : List Char
  month : List Char
  day : List Char
  time : Option (List Char × List Char × List Char × Option (List Char)) := none
  zone : Option (Bool × List Char × List Char) := none
deriving DecidableEq, Repr

namespace Timestamp

/-- Between one and two digits, or exactly two, and what follows them. -/
def twoDigits (exact : Bool) : List Char → Option (List Char × List Char)
  | c :: d :: rest =>
    if isDigit c then
      if isDigit d then some ([c, d], rest) else if exact then none else some ([c], d :: rest)
    else none
  | [c] => if isDigit c && !exact then some ([c], []) else none
  | [] => none

def afterColon : List Char → Option (List Char)
  | ':' :: rest => some rest
  | _ => none

def skipBlanks (s : List Char) : List Char := s.dropWhile fun c => c == ' ' || c == '\t'

/-- A time zone: Greenwich, or a difference from it. The sign tells whether it is negative. -/
def zoneAt (s : List Char) : Option (Option (Bool × List Char × List Char)) :=
  match skipBlanks s with
  | [] => if s.isEmpty then some none else none
  | ['Z'] => some (some (false, [], []))
  | sign :: rest =>
    if sign == '+' || sign == '-' then do
      let (hours, rest) ← twoDigits false rest
      match rest with
      | [] => return some (sign == '-', hours, [])
      | _ =>
        let (minutes, rest) ← twoDigits true (← afterColon rest)
        if rest.isEmpty then return some (sign == '-', hours, minutes) else none
    else none

/-- The time of day after a date. -/
def timeAt (t : Timestamp) (s : List Char) : Option Timestamp := do
  let rest ← match s with
    | 'T' :: rest | 't' :: rest => some rest
    | c :: _ => if c == ' ' || c == '\t' then some (skipBlanks s) else none
    | [] => none
  let (hour, rest) ← twoDigits false rest
  let (minute, rest) ← twoDigits true (← afterColon rest)
  let (second, rest) ← twoDigits true (← afterColon rest)
  let (fraction, rest) := match rest with
    | '.' :: rest => (some (rest.takeWhile isDigit), rest.dropWhile isDigit)
    | rest => (none, rest)
  let zone ← zoneAt rest
  return { t with time := some (hour, minute, second, fraction), zone }

/-- Reads a timestamp; a date alone may have short months and days if that is not strict. -/
def read? (strict : Bool) (s : List Char) : Option Timestamp := do
  let year := s.take 4
  if !(year.length == 4 && year.all isDigit) then none
  let afterDash : List Char → Option (List Char)
    | '-' :: rest => some rest
    | _ => none
  let (month, rest) ← twoDigits false (← afterDash (s.drop 4))
  let (day, rest) ← twoDigits false (← afterDash rest)
  let t : Timestamp := { year, month, day }
  if rest.isEmpty then
    if strict && (month.length == 1 || day.length == 1) then none else some t
  else timeAt t rest

end Timestamp

/-- A text without the new line at its end, which does not count for its form. -/
def dropFinalBreak (s : List Char) : List Char := if s.getLast? == some '\n' then s.dropLast else s

/-- What a scalar stands for by its form. -/
def scalarKind (text : String) : ScalarKind :=
  let s := dropFinalBreak text.toList
  let word := String.ofList s
  if text = "" || nullWords.contains word then .null
  else if trueWords.contains word || falseWords.contains word then .bool
  else if isFloat s then .float
  else if isInt s then .int
  else if word = "<<" then .merge
  else if (Timestamp.read? true s).isSome then .timestamp
  else if word = "=" then .defaultValue
  else if ["!", "&", "*"].contains word then .reserved
  else .text

end Yaml

end CaptureForest
