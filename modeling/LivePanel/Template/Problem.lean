import LivePanel.Value.Basic

/-!
# Problems of a template text

A problem names the place in the document where it lies, and the position in the
text where the text itself cannot be read.
-/

namespace LivePanel

/-- A problem of a template text. -/
structure SyntaxProblem where
  message : String
  path : String
  line : Option Nat := none
  column : Option Nat := none
deriving DecidableEq, Inhabited

namespace SyntaxProblem

/-- The position in front of a problem's text. -/
def positionText (p : SyntaxProblem) : String :=
  match p.line, p.column with
  | some l, some c => toString l ++ ":" ++ toString c ++ ": "
  | some l, none => toString l ++ ": "
  | none, _ => ""

/-- A problem in one line. -/
def text (p : SyntaxProblem) : String :=
  p.positionText ++ (if p.path.isEmpty then p.message else p.path ++ ": " ++ p.message)

end SyntaxProblem

/-- A result with the problems found on the way to it. -/
structure Noted (α : Type u) where
  value : α
  problems : List SyntaxProblem := []

namespace Noted

/-- A result without problems. -/
def clean (a : α) : Noted α := ⟨a, []⟩

/-- A result with one problem. -/
def problem (path message : String) (a : α) : Noted α :=
  ⟨a, [{ message := message, path := path }]⟩

/-- Go on with a result, the problems of the first part before those of the second. -/
def andThen (x : Noted α) (f : α → Noted β) : Noted β :=
  let y := f x.value
  ⟨y.value, x.problems ++ y.problems⟩

instance : Monad Noted where
  pure := clean
  bind := andThen

/-- Results of a list, with their problems in order. -/
def all : List (Noted α) → Noted (List α)
  | [] => clean []
  | x :: rest =>
    let ys := all rest
    ⟨x.value :: ys.value, x.problems ++ ys.problems⟩

/-- Those results of a list that are there, with the problems of all. -/
def collect (xs : List (Noted (Option α))) : Noted (List α) :=
  let ys := all xs
  ⟨ys.value.filterMap id, ys.problems⟩

end Noted

end LivePanel
