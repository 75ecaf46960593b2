import LivePanel.Value.Basic

/-!
# Paths and scopes

A path of an expression is a name followed by segments after points
(`state.user.name`). A scope gives the values that paths are rooted at: the
state, and while the reply to a request is handled also the response.
-/

namespace LivePanel.Expr

/-- The letters of ASCII. -/
def isLetter (c : Char) : Bool :=
  let n := c.toNat
  (65 ≤ n && n ≤ 90) || (97 ≤ n && n ≤ 122)

/-- The characters that a path may begin with. -/
def isHeadChar (c : Char) : Bool := isLetter c || c = '_'

/-- The characters of a segment. -/
def isSegmentChar (c : Char) : Bool := isLetter c || Text.isDigit c || c = '_' || c = '-'

/-- Whether the characters are a well-formed path: segments of segment characters between
points, none of them empty, the first of them not beginning with a digit or a dash. -/
def isPath (cs : List Char) : Bool :=
  (match cs with
    | c :: _ => isHeadChar c
    | [] => false) &&
  (Text.splitChars '.' cs).all fun seg => !seg.isEmpty && seg.all isSegmentChar

/-- The values that expressions see. -/
structure Scope where
  state : Value
  response : Option Value := none

/-- The value that a root name stands for. -/
def Scope.root? (scope : Scope) (name : String) : Option Value :=
  if name = "state" then some scope.state
  else if name = "response" then scope.response
  else none

/-- The value at a path of the scope. -/
def Scope.resolve? (scope : Scope) (path : String) : Option Value :=
  match Text.splitOnceChars '.' path.toList with
  | none => scope.root? path
  | some (root, rest) =>
    (scope.root? (String.ofList root)).bind fun v => v.lookup? (String.ofList rest)

end LivePanel.Expr
