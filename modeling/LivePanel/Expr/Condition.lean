import LivePanel.Expr.Interpolate

/-!
# Conditions

A condition is `true`, `false` or a path, optionally negated, and optionally
written as a token. A path that does not resolve counts as false. Any other text
is no condition, and the error carries it as written.
-/

namespace LivePanel.Expr

/-- What a condition asks. -/
inductive Test where
  | constant (b : Bool)
  | path (path : String)
deriving DecidableEq

/-- A condition: a test, negated or not. -/
structure Condition where
  negated : Bool
  test : Test
deriving DecidableEq

/-- The characters without a token's braces and the blanks inside them, where there are any. -/
def unwrap (cs : List Char) : List Char :=
  match Text.dropHead? ['\x7b', '\x7b'] cs with
  | none => cs
  | some rest =>
    match Text.dropTail? ['\x7d', '\x7d'] rest with
    | none => cs
    | some inner => Text.trimChars inner

/-- The test that the characters spell. -/
def test? (cs : List Char) : Option Test :=
  let s := String.ofList cs
  if s = "true" then some (.constant true)
  else if s = "false" then some (.constant false)
  else if isPath cs then some (.path s)
  else none

/-- The condition that a text spells. -/
def condition? (s : String) : Option Condition :=
  match unwrap (Text.trimChars s.toList) with
  | '!' :: rest => (test? (Text.trimStartChars rest)).map (⟨true, ·⟩)
  | cs => (test? cs).map (⟨false, ·⟩)

/-- Whether the test holds. -/
def Test.holds (scope : Scope) : Test → Bool
  | .constant b => b
  | .path p => ((scope.resolve? p).map Value.truthy).getD false

/-- Whether the condition holds. -/
def Condition.holds (scope : Scope) (c : Condition) : Bool := c.test.holds scope != c.negated

/-- A text that is no condition. -/
structure SyntaxFault where
  text : String
deriving DecidableEq

/-- The wording of the error. -/
def SyntaxFault.message (e : SyntaxFault) : String := "invalid expression '" ++ e.text ++ "'"

/-- The truth of the condition that a text spells. -/
def evaluate (scope : Scope) (s : String) : Except SyntaxFault Bool :=
  match condition? s with
  | some c => .ok (c.holds scope)
  | none => .error ⟨s⟩

end LivePanel.Expr
