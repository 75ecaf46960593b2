import LivePanel.Expr.Path
import LivePanel.Text.Blank
import LivePanel.Value.Printer

/-!
# Interpolation

A token is two opening braces, a run without braces, and two closing braces; its
body is the run without blanks at its ends. A text that is one token keeps the
type of the value it resolves to; in any other text the tokens that resolve are
spliced in as text. Tokens that do not resolve stay as they are and are noted:
well-formed paths as missing, other bodies as invalid, each once, in the order
of their first occurrence.
-/

namespace LivePanel.Expr

/-- A piece of a text: a plain character, or a token with all its characters and its body. -/
inductive Piece where
  | char (c : Char)
  | token (raw body : List Char)
deriving DecidableEq

/-- Whether `c` is a brace. -/
def isBrace (c : Char) : Bool := c.toNat = 123 || c.toNat = 125

/-- The token at the front of a text: its characters and its body. -/
def tokenAt? (cs : List Char) : Option (List Char × List Char) :=
  match Text.dropHead? ['\x7b', '\x7b'] cs with
  | none => none
  | some rest =>
    let run := rest.takeWhile fun c => !isBrace c
    match Text.dropHead? ['\x7d', '\x7d'] (rest.drop run.length) with
    | none => none
    | some _ => some (['\x7b', '\x7b'] ++ run ++ ['\x7d', '\x7d'], Text.trimChars run)

/-- The pieces of a text after its first `skip` characters, tokens found from left to right. -/
def piecesFrom : Nat → List Char → List Piece
  | _, [] => []
  | skip + 1, _ :: rest => piecesFrom skip rest
  | 0, c :: rest =>
    match tokenAt? (c :: rest) with
    | some (raw, body) => .token raw body :: piecesFrom (raw.length - 1) rest
    | none => .char c :: piecesFrom 0 rest

/-- The pieces of a text. -/
def pieces (cs : List Char) : List Piece := piecesFrom 0 cs

/-- What became of a token. -/
inductive Outcome where
  | resolved (v : Value)
  | missing
  | invalid

/-- What becomes of a token with the given body. -/
def Scope.outcome (scope : Scope) (body : List Char) : Outcome :=
  if isPath body then
    match scope.resolve? (String.ofList body) with
    | some v => .resolved v
    | none => .missing
  else .invalid

/-- The tokens left as they are: unresolved paths, and bodies that are no paths. -/
structure Notes where
  missing : List String := []
  invalid : List String := []
deriving DecidableEq

/-- Add `x` at the end unless it is there. -/
def addNew (xs : List String) (x : String) : List String := if x ∈ xs then xs else xs ++ [x]

/-- Notes of a first part, then those of a second. -/
def Notes.append (a b : Notes) : Notes :=
  ⟨b.missing.foldl addNew a.missing, b.invalid.foldl addNew a.invalid⟩

instance : Append Notes := ⟨Notes.append⟩

/-- The notes of a token. -/
def notesOf (scope : Scope) (body : List Char) : Notes :=
  match scope.outcome body with
  | .resolved _ => {}
  | .missing => { missing := [String.ofList body] }
  | .invalid => { invalid := [String.ofList body] }

/-- The text of a value spliced into a larger text. -/
def spliced : Value → String
  | .null => ""
  | v => v.bare

/-- The text that a piece becomes. -/
def Piece.text (scope : Scope) : Piece → List Char
  | .char c => [c]
  | .token raw body =>
    match scope.outcome body with
    | .resolved v => (spliced v).toList
    | _ => raw

/-- The notes of a piece. -/
def Piece.notes (scope : Scope) : Piece → Notes
  | .char _ => {}
  | .token _ body => notesOf scope body

/-- A value after interpolation, with the tokens left over. -/
structure Interpolated where
  value : Value
  notes : Notes

/-- Interpolation of a text. -/
def interpolateText (scope : Scope) (s : String) : Interpolated :=
  match pieces s.toList with
  | [.token raw body] =>
    match scope.outcome body with
    | .resolved v => ⟨v, {}⟩
    | _ => ⟨.str (String.ofList raw), notesOf scope body⟩
  | ps => ⟨.str (String.ofList (ps.flatMap (Piece.text scope))),
      ps.foldl (fun notes p => notes ++ p.notes scope) {}⟩

mutual
/-- Interpolation of every text in a value. -/
def interpolate (scope : Scope) : Value → Interpolated
  | .str s => interpolateText scope s
  | .arr items =>
    let (vs, notes) := interpolateItems scope items
    ⟨.arr vs, notes⟩
  | .obj fields =>
    let (fs, notes) := interpolateFields scope fields
    ⟨.obj fs, notes⟩
  | .null => ⟨.null, {}⟩
  | .bool b => ⟨.bool b, {}⟩
  | .num n => ⟨.num n, {}⟩

/-- Interpolation of the elements of an array. -/
def interpolateItems (scope : Scope) : List Value → List Value × Notes
  | [] => ([], {})
  | v :: rest =>
    let first := interpolate scope v
    let (vs, notes) := interpolateItems scope rest
    (first.value :: vs, first.notes ++ notes)

/-- Interpolation of the members of an object. -/
def interpolateFields (scope : Scope) : List (String × Value) → List (String × Value) × Notes
  | [] => ([], {})
  | (k, v) :: rest =>
    let first := interpolate scope v
    let (fs, notes) := interpolateFields scope rest
    ((k, first.value) :: fs, first.notes ++ notes)
end

end LivePanel.Expr
