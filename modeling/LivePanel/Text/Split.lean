/-!
# Cutting text

Cutting at a separator, taking off a known head or tail, filling in and joining again. The
work is done on lists of characters; the functions on `String` are their images.
-/

namespace LivePanel.Text

/-- The pieces of `cs` between the characters `sep`: one more than there are of these. -/
def splitChars (sep : Char) : List Char → List (List Char)
  | [] => [[]]
  | c :: rest =>
    if c = sep then [] :: splitChars sep rest
    else
      match splitChars sep rest with
      | [] => [[c]]
      | piece :: pieces => (c :: piece) :: pieces

/-- `s` cut at every `sep`. -/
def splitAtChar (sep : Char) (s : String) : List String :=
  (splitChars sep s.toList).map String.ofList

/-- The part before the first `sep` and the part after it; `none` without a `sep`. -/
def splitOnceChars (sep : Char) : List Char → Option (List Char × List Char)
  | [] => none
  | c :: rest =>
    if c = sep then some ([], rest)
    else (splitOnceChars sep rest).map fun (a, b) => (c :: a, b)

/-- What follows the characters `head`, if the text starts with them. -/
def dropHead? : List Char → List Char → Option (List Char)
  | [], cs => some cs
  | _ :: _, [] => none
  | h :: head, c :: cs => if h = c then dropHead? head cs else none

/-- What precedes the characters `tail`, if the text ends with them. -/
def dropTail? (tail cs : List Char) : Option (List Char) :=
  (dropHead? tail.reverse cs.reverse).map List.reverse

/-- What follows `head` in `s`, if `s` starts with it. -/
def dropPrefix? (head s : String) : Option String :=
  (dropHead? head.toList s.toList).map String.ofList

/-- The text with `extra` behind every `mark`, where `left` characters are left of the mark that is
passed. -/
def putBehindChars (mark extra : List Char) (left : Nat) : List Char → List Char
  | [] => []
  | c :: rest =>
    let left := if left = 0 && mark.isPrefixOf (c :: rest) then mark.length else left
    c :: ((if left = 1 then extra else []) ++ putBehindChars mark extra (left - 1) rest)

/-- `s` with `extra` behind every `mark`. -/
def putBehind (mark extra s : String) : String :=
  String.ofList (putBehindChars mark.toList extra.toList 0 s.toList)

/-- `pieces` with `sep` between them. -/
def joinWith (sep : String) : List String → String
  | [] => ""
  | [piece] => piece
  | piece :: rest => piece ++ sep ++ joinWith sep rest

theorem splitChars_ne_nil (sep : Char) (cs : List Char) : splitChars sep cs ≠ [] := by
  cases cs with
  | nil => simp [splitChars]
  | cons c rest =>
    unfold splitChars
    split
    · simp
    · split <;> simp

theorem dropHead?_append (head cs : List Char) : dropHead? head (head ++ cs) = some cs := by
  induction head with
  | nil => rfl
  | cons h head ih => simp [dropHead?, ih]

theorem eq_append_of_dropHead? {head cs rest : List Char} (h : dropHead? head cs = some rest) :
    cs = head ++ rest := by
  fun_induction dropHead? head cs with
  | case1 cs => simpa using h
  | case2 => simp at h
  | case3 c head cs ih => simp [ih h]
  | case4 => simp at h

end LivePanel.Text
