import LivePanel.Text.Natural
import LivePanel.Text.Split

/-!
# TOML moments

A date, a time of day, or both, and then perhaps an offset from universal time. The
calendar is checked, a leap second is admitted, and of the fraction of a second nine
places are kept.
-/

namespace LivePanel.Toml

/-- A day of the calendar. -/
structure Date where
  year : Nat
  month : Nat
  day : Nat
deriving DecidableEq

/-- A time of day. -/
structure Clock where
  hour : Nat
  minute : Nat
  second : Nat
  nanosecond : Nat
deriving DecidableEq

/-- The distance from universal time. -/
inductive Offset where
  | universal
  | minutes (n : Int)
deriving DecidableEq

/-- A moment as it may be written. -/
inductive Moment where
  | day (date : Date)
  | time (clock : Clock)
  | both (date : Date) (clock : Clock) (offset : Option Offset)
deriving DecidableEq

/-! ### Text of moments -/

/-- The number with at least `width` digits. -/
def padded (width n : Nat) : String :=
  let digits := Nat.toDigits 10 n
  String.ofList (List.replicate (width - digits.length) '0' ++ digits)

/-- Text of a day. -/
def Date.text (d : Date) : String :=
  padded 4 d.year ++ "-" ++ padded 2 d.month ++ "-" ++ padded 2 d.day

/-- Text of a time; trailing zeros of the fraction are left out. -/
def Clock.text (c : Clock) : String :=
  let fraction :=
    if c.nanosecond = 0 then ""
    else
      let digits := (padded 9 c.nanosecond).toList
      "." ++ String.ofList (digits.reverse.dropWhile (· = '0')).reverse
  padded 2 c.hour ++ ":" ++ padded 2 c.minute ++ ":" ++ padded 2 c.second ++ fraction

/-- Text of an offset. -/
def Offset.text : Offset → String
  | universal => "Z"
  | minutes n =>
    (if n < 0 then "-" else "+") ++ padded 2 (n.natAbs / 60) ++ ":" ++ padded 2 (n.natAbs % 60)

/-- Text of a moment. -/
def Moment.text : Moment → String
  | day d => d.text
  | time c => c.text
  | both d c o => d.text ++ "T" ++ c.text ++ (o.map Offset.text).getD ""

/-! ### Reading moments -/

/-- A number of `count` digits in front of a text. -/
def digitsOf? (count : Nat) (cs : List Char) : Option (Nat × List Char) :=
  let front := cs.take count
  if front.length = count then (Text.digits? 10 front).map fun n => (n, cs.drop count) else none

/-- A number of two digits between `low` and `high`. -/
def pairOf? (low high : Nat) (cs : List Char) : Option (Nat × List Char) :=
  match digitsOf? 2 cs with
  | some (n, rest) => if low ≤ n && n ≤ high then some (n, rest) else none
  | none => none

/-- A known character in front of a text. -/
def mark? (c : Char) : List Char → Option (List Char)
  | [] => none
  | x :: rest => if x = c then some rest else none

/-- Whether the year has a day more. -/
def isLeap (year : Nat) : Bool := year % 4 = 0 && (year % 100 ≠ 0 || year % 400 = 0)

/-- The days of a month. -/
def daysIn (year month : Nat) : Nat :=
  if month = 2 then (if isLeap year then 29 else 28)
  else if month ∈ [4, 6, 9, 11] then 30
  else 31

/-- A day in front of a text. -/
def Date.read? (cs : List Char) : Option (Date × List Char) := do
  let (year, cs) ← digitsOf? 4 cs
  let cs ← mark? '-' cs
  let (month, cs) ← pairOf? 1 12 cs
  let cs ← mark? '-' cs
  let (day, cs) ← pairOf? 1 (daysIn year month) cs
  return (⟨year, month, day⟩, cs)

/-- Nanoseconds of the digits after the point. -/
def nanosecondsOf (digits : List Char) : Nat :=
  let kept := digits.take 9
  ((Text.digits? 10 kept).getD 0) * Nat.pow 10 (9 - kept.length)

/-- A time of day in front of a text, up to an hour. -/
def Clock.read? (lastHour : Nat) (cs : List Char) : Option (Clock × List Char) := do
  let (hour, cs) ← pairOf? 0 lastHour cs
  let cs ← mark? ':' cs
  let (minute, cs) ← pairOf? 0 59 cs
  let cs ← mark? ':' cs
  let (second, cs) ← pairOf? 0 60 cs
  match cs with
  | '.' :: rest =>
    let digits := rest.takeWhile Text.isDigit
    if digits.isEmpty then return (⟨hour, minute, second, 0⟩, cs)
    else return (⟨hour, minute, second, nanosecondsOf digits⟩, rest.drop digits.length)
  | _ => return (⟨hour, minute, second, 0⟩, cs)

/-- Hours and minutes of an offset, up to a last hour and a last minute. -/
def Offset.distance? (lastHour lastMinute : Nat) (cs : List Char) : Option (Nat × List Char) := do
  let (hour, cs) ← pairOf? 0 lastHour cs
  let cs ← mark? ':' cs
  let (minute, cs) ← pairOf? 0 lastMinute cs
  return (60 * hour + minute, cs)

/-- The minutes of an offset after its sign. -/
def Offset.signed (sign : Char) (n : Nat) : Offset := minutes (if sign = '-' then -(n : Int) else n)

/-- The offset in front of a text, if there is one. -/
def Offset.read (cs : List Char) : Option Offset × List Char :=
  match cs with
  | [] => (none, [])
  | c :: rest =>
    if c = 'Z' || c = 'z' then (some universal, rest)
    else if c = '+' || c = '-' then
      match distance? 23 59 rest with
      | some (n, rest) => (some (signed c n), rest)
      | none => (none, cs)
    else (none, cs)

/-- Whether a character parts a day from a time. -/
def partsTime (c : Char) : Bool := c = 'T' || c = 't' || c = ' '

/-- A moment in front of a text. -/
def Moment.read? (cs : List Char) : Option (Moment × List Char) :=
  match Date.read? cs with
  | none => (Clock.read? 23 cs).map fun (c, rest) => (time c, rest)
  | some (date, []) => some (day date, [])
  | some (date, c :: rest) =>
    if partsTime c then
      match Clock.read? 23 rest with
      | none => some (day date, c :: rest)
      | some (clock, rest) =>
        let (offset, rest) := Offset.read rest
        some (both date clock offset, rest)
    else some (day date, c :: rest)

/-! ### Moments from texts of their own -/

/-- The most minutes of an offset in a text of its own. -/
def offsetLimit : Nat := 24 * 60

/-- The offset that a text is, if it is not empty; the error is that it is none. -/
def Offset.ofText? : List Char → Option (Option Offset)
  | [] => some none
  | ['Z'] | ['z'] => some (some universal)
  | c :: rest =>
    if c = '+' || c = '-' then
      match distance? 99 99 rest with
      | some (n, []) => if n ≤ offsetLimit then some (some (signed c n)) else none
      | _ => none
    else none

/-- The moment that a text is. The end of a day is admitted as hour 24, and an offset may have more
than 59 minutes; a day is parted from a time even where no time follows. -/
def Moment.ofText? (s : String) : Option Moment :=
  let cs := s.toList
  if cs[2]? = some ':' then
    match Clock.read? 24 cs with
    | some (clock, []) => some (time clock)
    | _ => none
  else
    match Date.read? cs with
    | some (date, []) => some (day date)
    | some (date, c :: rest) =>
      if partsTime c then do
        let (clock, rest) ← Clock.read? 24 rest
        return both date clock (← Offset.ofText? rest)
      else none
    | none => none

end LivePanel.Toml
