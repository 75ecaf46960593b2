import LivePanel.Number.Shortest
import LivePanel.Value.Basic

/-!
# JSON text

Compact text for values inside messages and digests, and text laid out over
lines with two blanks a level for readers. Members are written in the order in
which the object lists them.
-/

namespace LivePanel.Value

/-- The escaped form of a character inside quotes. -/
def escapeChar (c : Char) : List Char :=
  if c = '"' then ['\\', '"']
  else if c = '\\' then ['\\', '\\']
  else if c = '\n' then ['\\', 'n']
  else if c = '\r' then ['\\', 'r']
  else if c = '\t' then ['\\', 't']
  else if c.toNat = 8 then ['\\', 'b']
  else if c.toNat = 12 then ['\\', 'f']
  else if c.toNat < 32 then
    ['\\', 'u', '0', '0', Text.hexDigit (c.toNat / 16), Text.hexDigit c.toNat]
  else [c]

/-- The characters of `s` escaped, without the quotes. -/
def escapeChars (cs : List Char) : List Char := cs.flatMap escapeChar

/-- A text in quotes. -/
def quoted (s : String) : String := "\"" ++ String.ofList (escapeChars s.toList) ++ "\""

end LivePanel.Value

namespace LivePanel

/-- The text of a number. -/
def Number.text : Number → String
  | .int n => toString n
  | .double d => d.jsonText

namespace Value

mutual
/-- Compact text. -/
def compact : Value → String
  | null => "null"
  | bool true => "true"
  | bool false => "false"
  | num n => n.text
  | str s => quoted s
  | arr items => "[" ++ compactItems items ++ "]"
  | obj fields => "\x7b" ++ compactFields fields ++ "\x7d"

/-- The elements of an array with commas between them. -/
def compactItems : List Value → String
  | [] => ""
  | [v] => compact v
  | v :: rest => compact v ++ "," ++ compactItems rest

/-- The members of an object with commas between them. -/
def compactFields : List (String × Value) → String
  | [] => ""
  | [(k, v)] => quoted k ++ ":" ++ compact v
  | (k, v) :: rest => quoted k ++ ":" ++ compact v ++ "," ++ compactFields rest
end

/-- A line break and the blanks of a level. -/
def lineBreak (level : Nat) : String := "\n" ++ String.ofList (List.replicate (2 * level) ' ')

mutual
/-- Text laid out over lines, for a value `level` levels deep. -/
def prettyAt (level : Nat) : Value → String
  | arr [] => "[]"
  | arr items => "[" ++ prettyItems (level + 1) items ++ lineBreak level ++ "]"
  | obj [] => "\x7b\x7d"
  | obj fields => "\x7b" ++ prettyFields (level + 1) fields ++ lineBreak level ++ "\x7d"
  | null => "null"
  | bool true => "true"
  | bool false => "false"
  | num n => n.text
  | str s => quoted s

/-- The elements of an array, each on a line. -/
def prettyItems (level : Nat) : List Value → String
  | [] => ""
  | [v] => lineBreak level ++ prettyAt level v
  | v :: rest => lineBreak level ++ prettyAt level v ++ "," ++ prettyItems level rest

/-- The members of an object, each on a line. -/
def prettyFields (level : Nat) : List (String × Value) → String
  | [] => ""
  | [(k, v)] => lineBreak level ++ quoted k ++ ": " ++ prettyAt level v
  | (k, v) :: rest =>
    lineBreak level ++ quoted k ++ ": " ++ prettyAt level v ++ "," ++ prettyFields level rest
end

/-- Text laid out over lines. -/
def pretty (v : Value) : String := prettyAt 0 v

/-- The text of a value inside a larger text: a string as it is, all else compact. -/
def bare : Value → String
  | str s => s
  | v => compact v

end Value

end LivePanel
