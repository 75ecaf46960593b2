/-!
# Blank characters

The white space of Unicode (property `White_Space`), and trimming by it. Every
part of the library that trims text or forbids blanks in it uses this class.
-/

namespace LivePanel.Text

/-- The characters with the Unicode property `White_Space`. -/
def isBlank (c : Char) : Bool :=
  let n := c.toNat
  (9 ≤ n && n ≤ 13) || n == 0x20 || n == 0x85 || n == 0xA0 || n == 0x1680 ||
    (0x2000 ≤ n && n ≤ 0x200A) || n == 0x2028 || n == 0x2029 || n == 0x202F ||
    n == 0x205F || n == 0x3000

/-- Drop the blanks at the start. -/
def trimStartChars : List Char → List Char
  | [] => []
  | c :: rest => if isBlank c then trimStartChars rest else c :: rest

/-- Drop the blanks at the end. -/
def trimEndChars (cs : List Char) : List Char := (trimStartChars cs.reverse).reverse

/-- Drop the blanks at both ends. -/
def trimChars (cs : List Char) : List Char := trimEndChars (trimStartChars cs)

/-- `s` without blanks at its ends. -/
def trim (s : String) : String := String.ofList (trimChars s.toList)

/-- Whether `s` has no character but blanks. -/
def allBlank (s : String) : Bool := s.toList.all isBlank

theorem trimStartChars_of_not_blank {c : Char} (cs : List Char) (h : isBlank c = false) :
    trimStartChars (c :: cs) = c :: cs := by simp [trimStartChars, h]

end LivePanel.Text
