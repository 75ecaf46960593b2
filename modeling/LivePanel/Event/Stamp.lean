import LivePanel.Event.Basic
import LivePanel.Text.Blank

/-!
# Stamped events

Events as they are sent to other programs: with an identifier, the time, the identifier
of the run and the name of the part that they come from. Times are written in the form of
RFC 3339 in universal time, with as many groups of three decimals as they need; identifiers
are written in five groups of lower-case digits.
-/

namespace LivePanel

/-- A point in time: seconds since the start of 1970 and nanoseconds, which reach a second only
in a leap second. -/
structure Timestamp where
  seconds : Int
  nanos : Nat
deriving DecidableEq

namespace Timestamp

/-- Days from the start of 1970 to a date of the Gregorian calendar. -/
def daysOf (year month day : Int) : Int :=
  let y := if month ≤ 2 then year - 1 else year
  let era := y.fdiv 400
  let yearOfEra := y - era * 400
  let shifted := if month > 2 then month - 3 else month + 9
  let dayOfYear := (153 * shifted + 2) / 5 + day - 1
  era * 146097 + (yearOfEra * 365 + yearOfEra / 4 - yearOfEra / 100 + dayOfYear) - 719468

/-- The date that lies some days after the start of 1970: year, month, day. -/
def dateOf (days : Int) : Int × Int × Int :=
  let z := days + 719468
  let era := z.fdiv 146097
  let dayOfEra := z - era * 146097
  let yearOfEra := (dayOfEra - dayOfEra / 1460 + dayOfEra / 36524 - dayOfEra / 146096) / 365
  let dayOfYear := dayOfEra - (365 * yearOfEra + yearOfEra / 4 - yearOfEra / 100)
  let shifted := (5 * dayOfYear + 2) / 153
  let day := dayOfYear - (153 * shifted + 2) / 5 + 1
  let month := if shifted < 10 then shifted + 3 else shifted - 9
  (yearOfEra + era * 400 + (if month ≤ 2 then 1 else 0), month, day)

/-- The number of days of a month. -/
def monthLength (year month : Int) : Int :=
  if month = 2 then
    if year.fmod 4 = 0 ∧ (year.fmod 100 ≠ 0 ∨ year.fmod 400 = 0) then 29 else 28
  else if month = 4 ∨ month = 6 ∨ month = 9 ∨ month = 11 then 30
  else 31

/-- Whether dates of a year can be told. -/
def yearKnown (year : Int) : Bool := -262143 ≤ year && year ≤ 262142

/-- Between one and `most` digits, with the rest. -/
def number? (most : Nat) (cs : List Char) : Option (Nat × List Char) :=
  let ds := (cs.take most).takeWhile Text.isDigit
  (Text.digits? 10 ds).map fun n => (n, cs.drop ds.length)

/-- A number after blanks. -/
def field? (most : Nat) (cs : List Char) : Option (Nat × List Char) :=
  number? most (Text.trimStartChars cs)

/-- A year after blanks; one with a sign may have any number of digits. -/
def year? (cs : List Char) : Option (Int × List Char) :=
  match Text.trimStartChars cs with
  | '-' :: rest => (number? rest.length rest).map fun r => (-(r.1 : Int), r.2)
  | '+' :: rest => (number? rest.length rest).map fun r => ((r.1 : Int), r.2)
  | rest => (number? 4 rest).map fun r => ((r.1 : Int), r.2)

/-- What follows a character after blanks. -/
def after? (c : Char) (cs : List Char) : Option (List Char) :=
  Text.dropHead? [c] (Text.trimStartChars cs)

/-- The nanoseconds that decimals spell; those after the ninth do not count. -/
def decimals (ds : List Char) : Nat :=
  ((Text.digits? 10 ((ds.take 9) ++ List.replicate (9 - ds.length) '0')).getD 0)

/-- A fraction of a second, if there is one. -/
def fraction? (cs : List Char) : Option (Nat × List Char) :=
  match cs with
  | '.' :: rest =>
    let ds := rest.takeWhile Text.isDigit
    if ds.isEmpty then none else some (decimals ds, rest.drop ds.length)
  | _ => some (0, cs)

/-- Two digits. -/
def twoDigits? : List Char → Option (Int × List Char)
  | a :: b :: rest => (Text.digits? 10 [a, b]).map fun n => ((n : Int), rest)
  | _ => none

/-- The seconds by which a local time is ahead, from its sign, hours and minutes. -/
def shift? (sign : Int) (cs : List Char) : Option (Int × List Char) := do
  let (hours, cs) ← twoDigits? cs
  let cs := cs.dropWhile fun c => c = ':' || Text.isBlank c
  let (minutes, cs) ← twoDigits? cs
  if minutes < 60 && hours < 24 then some (sign * (hours * 3600 + minutes * 60), cs) else none

/-- An offset from universal time. -/
def offset? (cs : List Char) : Option (Int × List Char) :=
  if (cs.take 3).map Char.toLower = ['u', 't', 'c'] then some (0, cs.drop 3)
  else
    match cs with
    | 'Z' :: rest => some (0, rest)
    | 'z' :: rest => some (0, rest)
    | '+' :: rest => shift? 1 rest
    | '-' :: rest => shift? (-1) rest
    | '−' :: rest => shift? (-1) rest
    | _ => none

/-- The time that a text spells. The year must be known there and in universal time. -/
def ofText? (s : String) : Option Timestamp := do
  let (year, cs) ← year? s.toList
  let (month, cs) ← field? 2 (← after? '-' cs)
  let (day, cs) ← field? 2 (← after? '-' cs)
  let cs ←
    match cs with
    | 'T' :: rest => some rest
    | 't' :: rest => some rest
    | ' ' :: rest => some rest
    | _ => none
  let (hour, cs) ← field? 2 cs
  let (minute, cs) ← field? 2 (← after? ':' cs)
  let (second, cs) ← field? 2 (← after? ':' cs)
  let (nanos, cs) ← fraction? cs
  let (offset, cs) ← offset? (Text.trimStartChars cs)
  let inRange := yearKnown year && 1 ≤ month && month ≤ 12 && 1 ≤ day &&
    (day : Int) ≤ monthLength year month && hour < 24 && minute < 60 && second ≤ 60
  if (Text.trimStartChars cs).isEmpty && inRange then
    let leap := second = 60
    let second := if leap then 59 else second
    let localTime := daysOf year month day * 86400 + (hour * 3600 + minute * 60 + second : Nat)
    let time := localTime - offset
    if yearKnown (dateOf (time.fdiv 86400)).1 then
      return ⟨time, if leap then nanos + 1000000000 else nanos⟩
    else none
  else none

/-- A number in at least `width` digits. -/
def padded (width n : Nat) : String :=
  let ds := Nat.toDigits 10 n
  String.ofList (List.replicate (width - ds.length) '0' ++ ds)

/-- A year: four digits, with a sign where these are not enough. -/
def yearText (y : Int) : String :=
  if 0 ≤ y ∧ y ≤ 9999 then padded 4 y.toNat
  else (if y < 0 then "-" else "+") ++ padded 4 y.natAbs

/-- Decimals of a second in groups of three, as many as are needed. -/
def fractionText (nanos : Nat) : String :=
  if nanos = 0 then ""
  else if nanos % 1000000 = 0 then "." ++ padded 3 (nanos / 1000000)
  else if nanos % 1000 = 0 then "." ++ padded 6 (nanos / 1000)
  else "." ++ padded 9 nanos

/-- The text of the time of day, without its fraction of a second. -/
def clockText (t : Timestamp) : String :=
  let ofDay := (t.seconds.fmod 86400).toNat
  let leap := if 1000000000 ≤ t.nanos then 1 else 0
  padded 2 (ofDay / 3600) ++ ":" ++ padded 2 (ofDay / 60 % 60) ++ ":" ++
    padded 2 (ofDay % 60 + leap)

/-- The text of a time. -/
def text (t : Timestamp) : String :=
  let (year, month, day) := dateOf (t.seconds.fdiv 86400)
  yearText year ++ "-" ++ padded 2 month.toNat ++ "-" ++ padded 2 day.toNat ++ "T" ++
    t.clockText ++ fractionText (t.nanos % 1000000000) ++ "Z"

end Timestamp

/-- An identifier of 128 bits. -/
structure Identifier where
  digits : List Nat
deriving DecidableEq

namespace Identifier

/-- The lengths of the groups in which identifiers are written. -/
def groups : List Nat := [8, 4, 4, 4, 12]

/-- The digits of a group of a given length. -/
def group? (length : Nat) (cs : List Char) : Option (List Nat) :=
  if cs.length = length then cs.mapM (Text.digit? 16) else none

/-- The digits between dashes, or all without dashes. -/
def digits? (cs : List Char) : Option (List Nat) :=
  if cs.length = 32 then group? 32 cs
  else
    let pieces := Text.splitChars '-' cs
    if pieces.length = groups.length then
      ((groups.zip pieces).mapM fun p => group? p.1 p.2).map List.flatten
    else none

/-- What stands in front of an identifier that is written as a resource name, in letters of
either case. -/
def resourceName : List Char := "urn:uuid:".toList

/-- The identifier that a text spells, also in braces or as a resource name. -/
def ofText? (s : String) : Option Identifier :=
  let cs := s.toList
  let dashed := fun body : List Char => if body.length = 36 then digits? body else none
  let found :=
    if (cs.take resourceName.length).map Char.toLower = resourceName then
      dashed (cs.drop resourceName.length)
    else
      match cs with
      | '\x7b' :: rest => (Text.dropTail? ['\x7d'] rest).bind dashed
      | _ => digits? cs
  found.map Identifier.mk

/-- The text of digits in groups. -/
def groupTexts : List Nat → List Nat → List String
  | [], _ => []
  | n :: rest, ds =>
    String.ofList ((ds.take n).map Text.hexDigit) :: groupTexts rest (ds.drop n)

/-- The text of an identifier. -/
def text (i : Identifier) : String := Text.joinWith "-" (groupTexts groups i.digits)

end Identifier

/-- What is stamped on an event. -/
structure Stamp where
  id : Identifier
  time : Timestamp
  correlation : Option Identifier
  source : String
deriving DecidableEq

namespace Stamp

/-- The stamp that a value is. -/
def ofValue? (v : Value) : Option Stamp := do
  let r ← Record.ofValue?
    [⟨"event_id", []⟩, ⟨"timestamp", []⟩, ⟨"correlation_id", []⟩, ⟨"source", []⟩] v
  let identifier := fun (v : Value) => v.asStr?.bind Identifier.ofText?
  return {
    id := ← r.required "event_id" identifier
    time := ← r.required "timestamp" fun v => v.asStr?.bind Timestamp.ofText?
    correlation := ← r.optional "correlation_id" identifier
    source := ← r.required "source" Value.asStr? }

/-- The JSON form of a stamp. -/
def toValue (s : Stamp) : Value :=
  .obj [("event_id", .str s.id.text), ("timestamp", .str s.time.text),
    ("correlation_id", Value.ofOption (s.correlation.map Identifier.text)),
    ("source", .str s.source)]

end Stamp

/-- An event with its stamp. -/
structure StampedEvent where
  what : Happening
  stamp : Stamp
deriving DecidableEq

namespace StampedEvent

/-- The record of a tag's members, the stamp first, from what follows the tag in an array. -/
def recordOf? (tag : String) (rest : List Value) : Option Record :=
  (Happening.fieldNames? tag).bind fun names =>
    Record.ofValue? (("metadata" :: names).map fun n => ⟨n, []⟩) (.arr rest)

/-- The tag of an event, and its members beside the tag. -/
def parts? : Value → Option (String × Record)
  | .obj members => ((Table.get? members "type").bind Value.asStr?).map (·, ⟨members, false⟩)
  | .arr (.str tag :: rest) => (recordOf? tag rest).map (tag, ·)
  | _ => none

/-- The event that a value is. -/
def ofValue? (v : Value) : Option StampedEvent := do
  let (tag, r) ← parts? v
  return { what := ← Happening.ofRecord? tag r, stamp := ← r.required "metadata" Stamp.ofValue? }

/-- The JSON form of an event. -/
def toValue (e : StampedEvent) : Value :=
  .obj ([("type", .str e.what.tag), ("metadata", e.stamp.toValue)] ++ e.what.toFields)

end StampedEvent

end LivePanel
