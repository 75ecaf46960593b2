import LivePanel.Number.Decimal
import LivePanel.Regex.Usable
import LivePanel.Text.Blank
import LivePanel.Text.Natural
import LivePanel.Text.Split

/-!
# Filter directives

What is logged is filtered by directives: a level, or a target with spans in brackets,
their fields in braces and a level. A list of them is parted by commas. Blanks around a
directive are passed over when it is read, while its pieces are cut from the text with
the blanks in front. The places of pieces are counted in octets, and a piece whose end is
within a character cannot be cut.
-/

namespace LivePanel.Logging

/-- Why a text is no directive. -/
inductive DirectiveError where
  | malformed
  | level
  | field (fault : Regex.Fault)
  | torn
deriving DecidableEq

/-- The wording of the error. -/
def DirectiveError.message : DirectiveError → String
  | malformed => "invalid filter directive"
  | level =>
    "error parsing level filter: expected one of \"off\", \"error\", \"warn\", \"info\", " ++
      "\"debug\", \"trace\", or a number 0-5"
  | field fault => "invalid field filter: " ++ fault.message
  | torn => "a piece of a filter directive ends within a character"

/-- Where the reading of a directive is; the number is where a piece begins. -/
inductive Spot where
  | start
  | first (begins : Nat)
  | span (begins : Nat)
  | field (begins : Nat)
  | fields
  | target
  | level (begins : Nat)
  | complete

/-- The words for levels. -/
def levelWords : List String := ["off", "error", "warn", "info", "debug", "trace"]

/-- Check a level: a word, a number up to five, or nothing. -/
def checkLevel (cs : List Char) : Except DirectiveError Unit :=
  let isNumber :=
    match Text.index? cs with
    | some n => decide (n ≤ 5)
    | none => false
  if isNumber || cs.isEmpty || String.ofList (cs.map Char.toLower) ∈ levelWords then .ok ()
  else .error .level

/-- Check a field: a name, and behind an equals sign a value, which is a number or a regular
expression. What stands behind a second equals sign does not count. -/
def checkField (cs : List Char) : Except DirectiveError Unit :=
  match Text.splitChars '=' cs with
  | [] :: [] => .error .malformed
  | _ :: value :: _ =>
    if Double.isText value then .ok () else (Regex.checkText value).mapError .field
  | _ => .ok ()

/-- Whether a character can begin a level or a target. -/
def beginsWord (c : Char) : Bool :=
  c = '-' || c = ':' || c = '_' || Text.isAlphabetic c || Text.isNumeric c

/-- What follows the first `n` octets of a text; `none` if a character lies across. -/
def dropOctets? (n : Nat) : List Char → Option (List Char)
  | [] => if n = 0 then some [] else none
  | c :: cs =>
    if n = 0 then some (c :: cs)
    else if c.utf8Size ≤ n then dropOctets? (n - c.utf8Size) cs
    else none

/-- The first `n` octets of a text; `none` if a character lies across. -/
def takeOctets? (n : Nat) : List Char → Option (List Char)
  | [] => if n = 0 then some [] else none
  | c :: cs =>
    if n = 0 then some []
    else if c.utf8Size ≤ n then (takeOctets? (n - c.utf8Size) cs).map (c :: ·)
    else none

/-- The piece of a text from one place on. -/
def cutFrom (cs : List Char) (begins : Nat) : Except DirectiveError (List Char) :=
  match dropOctets? begins cs with
  | some piece => .ok piece
  | none => .error .torn

/-- The piece of a text between two places. -/
def cut (cs : List Char) (begins ends : Nat) : Except DirectiveError (List Char) := do
  match takeOctets? (ends - begins) (← cutFrom cs begins) with
  | some piece => .ok piece
  | none => .error .torn

/-- Take up the character `c`, the one at place `i`, where `cs` is the text from which pieces are
cut. -/
def Spot.take (cs : List Char) (i : Nat) (spot : Spot) (c : Char) : Except DirectiveError Spot :=
  match spot with
  | start =>
    if c = '[' then .ok (span (i + 1))
    else if beginsWord c then .ok (first i)
    else .error .malformed
  | first begins =>
    if c = '=' then (cut cs begins i).map fun _ => level (i + 1)
    else if c = '[' then (cut cs begins i).map fun _ => span (i + 1)
    else if c = ',' then .ok complete
    else .ok spot
  | span begins =>
    if c = ']' then (cut cs begins i).map fun _ => target
    else if c = '\x7b' then (cut cs begins i).map fun _ => field (i + 1)
    else .ok spot
  | field begins =>
    if c = '\x7d' || c = ',' then do
      checkField (← cut cs begins i)
      return if c = ',' then field (i + 1) else fields
    else .ok spot
  | fields => if c = ']' then .ok target else .error .malformed
  | target => if c = '=' then .ok (level (i + 1)) else .error .malformed
  | level begins =>
    if c = ',' then do
      checkLevel (← cut cs begins i)
      return complete
    else .ok spot
  | complete => .error .malformed

/-- Take up characters from place `i` on. -/
def Spot.takeAll (cs : List Char) (i : Nat) (spot : Spot) :
    List Char → Except DirectiveError Spot
  | [] => .ok spot
  | c :: rest =>
    match spot.take cs i c with
    | .ok spot => spot.takeAll cs (i + c.utf8Size) rest
    | .error e => .error e

/-- Check a directive. -/
def checkDirective (s : String) : Except DirectiveError Unit := do
  let cs := s.toList
  match ← Spot.start.takeAll cs 0 (Text.trimChars cs) with
  | .level begins => checkLevel (← cutFrom cs begins)
  | .first _ | .target | .complete => return
  | _ => throw .malformed

/-- Check a list of directives parted by commas. -/
def checkDirectives (s : String) : Except DirectiveError Unit :=
  ((Text.splitAtChar ',' s).filter (· ≠ "")).forM checkDirective

end LivePanel.Logging
