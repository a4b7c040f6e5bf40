import CaptureForest.Calendar
import CaptureForest.Number.Integer
import CaptureForest.Text.Base64
import CaptureForest.Value.Text
import CaptureForest.Yaml.Cursor
/-!
# Values of YAML scalars

Texts as truth values, numbers, dates and moments. A text that was tagged by hand need not have the form
of what its tag says, so each kind of value has its own way to fail.
-/

namespace CaptureForest

namespace Yaml

namespace ScalarValue

def bad {α : Type} (message : String) : Except ReadFault α :=
  .error (.host { kind := .value, arguments := [.str message] })

def failure {α : Type} (kind : HostKind) : Except ReadFault α := .error (.host { kind := kind })

def dropGaps (text : String) : String := String.ofList (text.toList.filter (· != '_'))

/-- A whole number in a base. -/
def integerIn (base : Nat) (text : String) : Except ReadFault Int :=
  match Text.integerIn? base text with
  | some n => .ok n
  | none => bad ("invalid literal for int() with base " ++ toString base ++ ": " ++ Text.quote text)

/-- A number whose places are numbers below sixty, the first of them first. -/
def sexagesimal (places : List Int) : Int := places.foldl (fun n place => 60 * n + place) 0

def dropChars (n : Nat) (s : String) : String := String.ofList (s.toList.drop n)

/-- An integer in one of its notations. -/
def integer (text : String) : Except ReadFault Int := do
  let bare := dropGaps text
  let negative := Text.startsWith bare "-"
  if bare = "" then failure .index
  let unsigned := String.ofList (dropSign bare.toList)
  let n ←
    if unsigned = "0" then pure 0
    else if Text.startsWith unsigned "0b" then integerIn 2 (dropChars 2 unsigned)
    else if Text.startsWith unsigned "0x" then integerIn 16 (dropChars 2 unsigned)
    else if unsigned = "" then failure .index
    else if Text.startsWith unsigned "0" then integerIn 8 unsigned
    else if unsigned.toList.contains ':' then
      let places ← (Text.splitOnChar ':' unsigned).mapM (integerIn 10)
      pure (sexagesimal places)
    else integerIn 10 unsigned
  return if negative then -n else n

def binary64 (text : String) : Except ReadFault Binary64 :=
  match Text.binary64? text with
  | some x => .ok x
  | none => bad ("could not convert string to float: " ++ Text.quote text)

/-- The sum of places with their weights, from the last place on. A weight has to be a finite number. -/
def weighted : List Binary64 → Int → Binary64 → Except ReadFault Binary64
  | [], _, sum => .ok sum
  | place :: rest, weight, sum =>
    let factor := Binary64.ofInt weight
    if factor.isFinite then weighted rest (60 * weight) (sum.add (place.mul factor))
    else failure .overflow

/-- A number with a point in one of its notations. -/
def float (text : String) : Except ReadFault Binary64 := do
  let bare := Text.lower (dropGaps text)
  if bare = "" then failure .index
  let negative := Text.startsWith bare "-"
  let unsigned := String.ofList (dropSign bare.toList)
  let signed (x : Binary64) : Binary64 := if negative then x.neg else x
  if unsigned = ".inf" then return .infinity negative
  else if unsigned = ".nan" then return .nan
  else if unsigned.toList.contains ':' then
    let places ← (Text.splitOnChar ':' unsigned).mapM binary64
    return signed (← weighted places.reverse 1 (.ofInt 0))
  else return signed (← binary64 unsigned)

def truth (text : String) : Except ReadFault Bool :=
  let word := Text.lower text
  if trueWords.contains word then .ok true
  else if falseWords.contains word then .ok false
  else failure .key

def decimal (digits : List Char) : Nat := (Text.digits 10 digits).getD 0

/-- A difference from Greenwich in minutes: what is wrong with it, its text and its quoted text. -/
def zoneTexts (negative : Bool) (minutes : Nat) : Except ReadFault (String × String) :=
  let total : Int := if negative then -(minutes : Int) else minutes
  let days := total.fdiv 1440
  let seconds := (total.fmod 1440) * 60
  let part (name : String) (n : Int) : List String := if n = 0 then [] else [name ++ "=" ++ toString n]
  let parts := part "days" days ++ part "seconds" seconds
  let delta := "datetime.timedelta(" ++ (if parts.isEmpty then "0" else Value.separated parts) ++ ")"
  if 1440 ≤ minutes then
    bad ("offset must be a timedelta strictly between -timedelta(hours=24) and timedelta(hours=24), not " ++
      delta)
  else
    let sign := if negative && minutes ≠ 0 then "-" else "+"
    .ok (sign ++ Calendar.padded 2 (minutes / 60) ++ ":" ++ Calendar.padded 2 (minutes % 60),
      if minutes = 0 then "datetime.timezone.utc" else "datetime.timezone(" ++ delta ++ ")")

def checked (problem : Option String) : Except ReadFault Unit :=
  match problem with
  | some message => bad message
  | none => .ok ()

/-- A date or a moment, as a value that is known by its texts. -/
def moment (text : String) : Except ReadFault Value := do
  match Timestamp.read? false (dropFinalBreak text.toList) with
  | none => failure .missingAttribute
  | some t =>
    let date : Calendar.Date := ⟨decimal t.year, decimal t.month, decimal t.day⟩
    let numbers := [date.year, date.month, date.day].map toString
    match t.time with
    | none =>
      checked date.problem?
      return .foreign "date" date.text ("datetime.date(" ++ Value.separated numbers ++ ")")
    | some (hour, minute, second, fraction) =>
      let micros := (fraction.getD []).take 6
      let time : Calendar.TimeOfDay := {
        hour := decimal hour
        minute := decimal minute
        second := decimal second
        microsecond := decimal (micros ++ List.replicate (6 - micros.length) '0') }
      let zone ← match t.zone with
        | none => pure none
        | some (_, [], _) => pure (some ("+00:00", "datetime.timezone.utc"))
        | some (negative, hours, minutes) =>
          (zoneTexts negative (60 * decimal hours + decimal minutes)).map some
      checked date.problem?
      checked time.problem?
      let seconds :=
        if time.microsecond ≠ 0 then [time.second, time.microsecond]
        else if time.second ≠ 0 then [time.second] else []
      let all := numbers ++ (([time.hour, time.minute] ++ seconds).map toString) ++
        (zone.map fun z => "tzinfo=" ++ z.2).toList
      return .foreign "datetime" (date.text ++ " " ++ time.text ++ (zone.map (·.1)).getD "")
        ("datetime.datetime(" ++ Value.separated all ++ ")")

/-- Bytes written as letters. -/
def bytes (text : String) : Except ReadFault Value :=
  if text.toList.any fun c => 128 ≤ c.toNat then .error .malformed
  else
    match Text.Base64.decode text with
    | some octets => .ok (.bytes octets)
    | none => .error .malformed

end ScalarValue

end Yaml

end CaptureForest
