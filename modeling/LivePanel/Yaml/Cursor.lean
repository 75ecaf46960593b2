import LivePanel.Text.Natural

/-!
# Positions in a YAML text

A cursor is what is left of a text with the mark of its first character. The
character classes of the notation stand here too; the end of the text counts as
a break where a class says so.
-/

namespace LivePanel.Yaml

/-- A position: octets, lines and characters of the line before it. -/
structure Mark where
  index : Nat := 0
  line : Nat := 0
  column : Nat := 0
deriving DecidableEq, Inhabited

/-- The place of a mark as messages tell it: by line and column, at the very beginning by the
octet, unless that is the first. -/
def Mark.told (m : Mark) : String :=
  if m.line ≠ 0 || m.column ≠ 0 then
    " at line " ++ toString (m.line + 1) ++ " column " ++ toString (m.column + 1)
  else if m.index ≠ 0 then " at position " ++ toString m.index
  else ""

/-- What was being read when a problem was met, and the mark where that begins. -/
structure Context where
  activity : String
  start : Mark
deriving DecidableEq, Inhabited

/-- A text that cannot be read: the problem, its mark if there is one, and what was being read. -/
structure Unreadable where
  problem : String
  mark : Option Mark := none
  context : Option Context := none
deriving DecidableEq, Inhabited

/-- Whether a mark stands at the line and the column of the problem. -/
def Unreadable.isAt (e : Unreadable) (m : Mark) : Bool :=
  e.mark.any fun p => p.line = m.line && p.column = m.column

/-- The message of a text that cannot be read. -/
def Unreadable.message (e : Unreadable) : String :=
  let problem := e.problem ++ (e.mark.map Mark.told).getD ""
  match e.context with
  | none => problem
  | some ⟨activity, start⟩ =>
    problem ++ ", " ++ activity ++ (if e.isAt start then "" else start.told)

/-- Whether `c` breaks a line. -/
def isBreak (c : Char) : Bool :=
  c = '\n' || c = '\r' || c.toNat = 0x85 || c.toNat = 0x2028 || c.toNat = 0x2029

/-- Whether `c` is a space or a tab. -/
def isGap (c : Char) : Bool := c = ' ' || c = '\t'

/-- Whether `c` may stand in names of anchors, tag handles and directives. -/
def isWordChar (c : Char) : Bool :=
  let n := c.toNat
  (48 ≤ n && n ≤ 57) || (65 ≤ n && n ≤ 90) || (97 ≤ n && n ≤ 122) || c = '_' || c = '-'

/-- Whether the notation admits `c` at all. -/
def isAllowed (c : Char) : Bool :=
  let n := c.toNat
  n = 9 || n = 10 || n = 13 || (0x20 ≤ n && n ≤ 0x7E) || n = 0x85 ||
    (0xA0 ≤ n && n ≤ 0xD7FF) || (0xE000 ≤ n && n ≤ 0xFFFD) || 0x10000 ≤ n

/-- What is left of a text, and where it begins. No more characters are left than `bound`, which
limits the loops that read on. -/
structure Cursor where
  rest : List Char
  mark : Mark := {}
  bound : Nat := rest.length
  rest_le : rest.length ≤ bound := by simp

instance : Inhabited Cursor := ⟨{ rest := [] }⟩

namespace Cursor

/-- The character `n` places ahead. -/
def ahead? (c : Cursor) (n : Nat) : Option Char := c.rest[n]?

/-- Whether the character `n` places ahead is `x`. -/
def has (c : Cursor) (n : Nat) (x : Char) : Bool := c.ahead? n == some x

/-- Whether the character `n` places ahead is in the class. -/
def hasIn (c : Cursor) (n : Nat) (p : Char → Bool) : Bool := (c.ahead? n).any p

/-- Whether the text ends here. -/
def atEnd (c : Cursor) : Bool := c.rest.isEmpty

/-- Whether a line ends `n` places ahead. -/
def breakOrEnd (c : Cursor) (n : Nat) : Bool := (c.ahead? n).all isBreak

/-- Whether a gap or the end of a line is `n` places ahead. -/
def gapOrEnd (c : Cursor) (n : Nat) : Bool := (c.ahead? n).all fun x => isGap x || isBreak x

/-- The octets of the next `n` characters. -/
def octets (c : Cursor) (n : Nat) : Nat := (c.rest.take n).foldl (fun m x => m + x.utf8Size) 0

/-- Go on by `n` characters of a line. -/
def advance (c : Cursor) (n : Nat) : Cursor :=
  { c with
    rest := c.rest.drop n
    mark := { c.mark with
      index := c.mark.index + c.octets n, column := c.mark.column + n }
    rest_le := by have := c.rest_le; simp; omega }

/-- Go on over the characters of a class without breaks. -/
def skipWhile (c : Cursor) (p : Char → Bool) : Cursor := c.advance (c.rest.takeWhile p).length

/-- Go on over a line break, if one is here. -/
def skipBreak (c : Cursor) : Cursor :=
  let n :=
    match c.rest with
    | '\r' :: '\n' :: _ => 2
    | x :: _ => if isBreak x then 1 else 0
    | [] => 0
  if n = 0 then c
  else
    { c.advance n with
      mark := { index := c.mark.index + c.octets n, line := c.mark.line + 1 } }

/-- The text that a line break here stands for. -/
def breakText (c : Cursor) : List Char :=
  match c.rest with
  | x :: _ =>
    if x.toNat = 0x2028 || x.toNat = 0x2029 then [x] else if isBreak x then ['\n'] else []
  | [] => []

/-- Go on to the end of the line. -/
def skipToBreak (c : Cursor) : Cursor := c.skipWhile fun x => !isBreak x

/-- Go on over gaps and a comment. -/
def skipGapsAndComment (c : Cursor) : Cursor :=
  let c := c.skipWhile isGap
  if c.has 0 '#' then c.skipToBreak else c

/-- Whether a document marker of three characters `x` stands here at the start of a line. -/
def atMarker (c : Cursor) (x : Char) : Bool :=
  c.mark.column == 0 && c.has 0 x && c.has 1 x && c.has 2 x && c.gapOrEnd 3

/-- Whether a line here begins a document or ends one. -/
def atDocumentMarker (c : Cursor) : Bool := c.atMarker '-' || c.atMarker '.'

end Cursor

/-- A problem at a mark. -/
def fault (problem : String) (mark : Mark) : Except Unreadable α := .error ⟨problem, some mark, none⟩

/-- A problem at a mark, met while something was being read. -/
def faultIn (context : Context) (problem : String) (mark : Mark) : Except Unreadable α :=
  .error ⟨problem, some mark, some context⟩

end LivePanel.Yaml
