import LivePanel.Text.Extending
import LivePanel.Text.Unprinted

/-!
# Texts shown in messages

A text in quotes, as messages show it: quotes, backslashes and the usual control
characters are escaped by a letter, and characters that do not print, or that
would join with the one before them, by their code.
-/

namespace LivePanel.Text

/-- Whether `c` prints by itself. -/
def prints (c : Char) : Bool := !isExtending c && !isUnprinted c

/-- A character as it is shown. -/
def shownChar (c : Char) : List Char :=
  if c = '"' then ['\\', '"']
  else if c = '\\' then ['\\', '\\']
  else if c = '\n' then ['\\', 'n']
  else if c = '\r' then ['\\', 'r']
  else if c = '\t' then ['\\', 't']
  else if c.toNat = 0 then ['\\', '0']
  else if prints c then [c]
  else ['\\', 'u', '\x7b'] ++ Nat.toDigits 16 c.toNat ++ ['\x7d']

/-- A text as it is shown, in quotes. -/
def shown (s : String) : String := "\"" ++ String.ofList (s.toList.flatMap shownChar) ++ "\""

end LivePanel.Text
