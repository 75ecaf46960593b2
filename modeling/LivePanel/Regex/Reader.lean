import LivePanel.Regex.Basic
import LivePanel.Text.Alphabetic
import LivePanel.Text.Blank
import LivePanel.Text.Natural
import LivePanel.Text.Numeric

/-!
# Reading regular expressions

An expression is read character by character, with the groups and the sets that are open
kept in a list. In the verbose mode blanks mean nothing, and neither does what stands
between a `#` and the end of the line.
-/

namespace LivePanel.Regex

/-- Pass over blanks and comments; the flag says whether a comment is open. -/
def passBlanks (comment : Bool) : List Char → List Char
  | [] => []
  | c :: cs =>
    if comment then passBlanks (c ≠ '\n') cs
    else if Text.isBlank c then passBlanks false cs
    else if c = '#' then passBlanks true cs
    else c :: cs

/-- Pass over what means nothing. -/
def pass (verbose : Bool) (cs : List Char) : List Char :=
  if verbose then passBlanks false cs else cs

/-- The character after a dash in a set. In a comment, its first character is taken for it. -/
def afterDash? (verbose : Bool) (cs : List Char) : Option Char :=
  if verbose then
    match Text.trimStartChars cs with
    | '#' :: cs => (Text.trimStartChars cs).head?
    | cs => cs.head?
  else cs.head?

/-! ## Escapes -/

/-- The character that a number of hexadecimal digits are the code of, after those that spell
`code`. -/
def hex? (verbose : Bool) (code : Nat) : Nat → List Char → Option (Char × List Char)
  | 0, cs => if code.isValidChar then some (Char.ofNat code, cs) else none
  | n + 1, cs =>
    match pass verbose cs with
    | [] => none
    | c :: cs => (Text.digit? 16 c).bind fun d => hex? verbose (16 * code + d) n cs

/-- The letters of categories of characters. -/
def categoryLetters : List Char := ['c', 'l', 'm', 'n', 'p', 's', 'z']

/-- The letter of a category. -/
def category? (verbose negated : Bool) (cs : List Char) : Option (Atom × List Char) :=
  match pass verbose cs with
  | c :: cs => if c.toLower ∈ categoryLetters then some (.category negated, cs) else none
  | [] => none

/-- What the letters after a backslash stand for. -/
def escapes : List (Char × Atom) := [
  ('a', .char (Char.ofNat 7) false), ('f', .char (Char.ofNat 12) false), ('t', .char '\t' false),
  ('n', .char '\n' false), ('r', .char '\r' false), ('v', .char (Char.ofNat 11) false),
  ('d', .shorthand false), ('s', .shorthand false), ('w', .shorthand false),
  ('D', .shorthand true), ('S', .shorthand true), ('W', .shorthand true),
  ('A', .edge), ('z', .edge), ('b', .wordEdge), ('B', .wordEdge), ('<', .wordEdge),
  ('>', .wordEdge)]

/-- Whether a character stands for itself after a backslash. -/
def isMark (c : Char) : Bool := c.toNat < 128 && !c.isAlphanum

/-- What stands after a backslash. -/
def escaped? (verbose : Bool) : List Char → Option (Atom × List Char)
  | [] => none
  | 'x' :: cs => (hex? verbose 0 2 cs).map fun (c, cs) => (.char c true, cs)
  | 'u' :: cs => (hex? verbose 0 4 cs).map fun (c, cs) => (.char c false, cs)
  | 'U' :: cs => (hex? verbose 0 8 cs).map fun (c, cs) => (.char c false, cs)
  | 'p' :: cs => category? verbose false cs
  | 'P' :: cs => category? verbose true cs
  | c :: cs =>
    match escapes.lookup c with
    | some a => some (a, cs)
    | none => if isMark c then some (.char c false, cs) else none

/-! ## Sets -/

/-- The names of sets. -/
def setNames : List String := [
  "alnum", "alpha", "ascii", "blank", "cntrl", "digit", "graph", "lower", "print", "punct",
  "space", "upper", "word", "xdigit"]

/-- The named set that stands after a bracket, between colons: whether it is negated. -/
def namedSet? : List Char → Option (Bool × List Char)
  | ':' :: cs =>
    let (negated, cs) :=
      match cs with
      | '^' :: cs => (true, cs)
      | cs => (false, cs)
    match cs.dropWhile (· ≠ ':') with
    | ':' :: ']' :: rest =>
      if String.ofList (cs.takeWhile (· ≠ ':')) ∈ setNames then some (negated, rest) else none
    | _ => none
  | _ => none

/-- What can be in a set as it is. -/
def Atom.isMember : Atom → Bool
  | char .. | shorthand _ | category _ => true
  | any | edge | wordEdge => false

/-- An atom in a set that begins with `c`. -/
def member? (verbose : Bool) (c : Char) (cs : List Char) : Option (Atom × List Char) :=
  if c = '\\' then escaped? verbose cs else some (.char c false, cs)

/-- The atom or the range that begins with `c`. -/
def part? (verbose : Bool) (c : Char) (cs : List Char) : Option (CharSet × List Char) := do
  let (a, cs) ← member? verbose c cs
  let alone := if a.isMember then some (.atom a, cs) else none
  match pass verbose cs with
  | '-' :: cs =>
    if afterDash? verbose cs = some ']' || afterDash? verbose cs = some '-' then alone
    else
      match pass verbose cs with
      | [] => none
      | d :: cs =>
        let (b, cs) ← member? verbose d cs
        match a, b with
        | .char first _, .char last _ =>
          if first ≤ last then some (.range first last, cs) else none
        | _, _ => none
  | _ => alone

/-- How far the beginning of a set has been read. -/
inductive Opening where
  | bracket
  | caret
  | dashes
  | past

/-- A set that is open: its parts so far, the last one first, and what they are combined with. -/
structure OpenSet where
  negated : Bool := false
  left : Option CharSet := none
  parts : List CharSet := []

/-- The reading of a set. -/
structure SetReading where
  opening : Opening := .bracket
  set : OpenSet := {}
  outer : List OpenSet := []

namespace OpenSet

/-- Take up a part. -/
def add (s : OpenSet) (part : CharSet) : OpenSet := { s with parts := part :: s.parts }

/-- What has been read of it, without the brackets. -/
def content (s : OpenSet) : CharSet :=
  let right := CharSet.ofParts s.parts.reverse
  match s.left with
  | none => right
  | some left => .combined left right

/-- Go on behind an operator. -/
def combine (s : OpenSet) : OpenSet := { s with left := some s.content, parts := [] }

end OpenSet

namespace SetReading

/-- Take up a part. -/
def add (r : SetReading) (opening : Opening) (part : CharSet) : SetReading :=
  { r with opening, set := r.set.add part }

/-- Take up what begins with `c`, behind the beginning of a set. -/
def stepInside (verbose : Bool) (r : SetReading) (c : Char) (cs : List Char) :
    Option ((SetReading ⊕ CharSet) × List Char) :=
  if c = '[' then
    match namedSet? cs with
    | some (negated, cs) => some (.inl (r.add .past (.named negated)), cs)
    | none => some (.inl { outer := r.set :: r.outer }, cs)
  else if c = ']' then
    let closed := CharSet.bracketed r.set.negated r.set.content
    match r.outer with
    | [] => some (.inr closed, cs)
    | set :: outer => some (.inl { opening := .past, set := set.add closed, outer }, cs)
  else if (c = '&' || c = '-' || c = '~') && cs.head? = some c then
    some (.inl { r with opening := .past, set := r.set.combine }, cs.tail)
  else (part? verbose c cs).map fun (part, cs) => (.inl (r.add .past part), cs)

/-- Take up what begins with `c`: more of the set, or its end. A caret in front negates the set; a
bracket or dashes in front stand for themselves. -/
def step (verbose : Bool) (r : SetReading) (c : Char) (cs : List Char) :
    Option ((SetReading ⊕ CharSet) × List Char) :=
  match r.opening, c with
  | .bracket, '^' =>
    some (.inl { r with opening := .caret, set := { r.set with negated := true } }, cs)
  | .bracket, '-' | .caret, '-' | .dashes, '-' =>
    some (.inl (r.add .dashes (.atom (.char '-' false))), cs)
  | .bracket, ']' | .caret, ']' => some (.inl (r.add .past (.atom (.char ']' false))), cs)
  | _, _ => r.stepInside verbose c cs

/-- Read to the end of the set; `fuel` bounds the text. -/
def finish? (verbose : Bool) : Nat → SetReading → List Char → Option (CharSet × List Char)
  | 0, _, _ => none
  | fuel + 1, r, cs =>
    match pass verbose cs with
    | [] => none
    | c :: cs =>
      match r.step verbose c cs with
      | none => none
      | some (.inr s, cs) => some (s, cs)
      | some (.inl r, cs) => finish? verbose fuel r cs

end SetReading

/-! ## Groups -/

/-- The letters of modes. -/
def modeLetters : List Char := ['i', 'm', 's', 'U', 'u', 'R', 'x']

/-- Whether a character ends the modes of a group. -/
def endsModes (c : Char) : Bool := c = ':' || c = ')'

/-- Modes after those in `ms`, and whether a colon ends them. A dash, of which there can be one,
turns the modes behind it off; there has to be a mode behind it. -/
def modes? (on : Bool) (ms : Modes) : List Char → Option (Modes × Bool × List Char)
  | [] => none
  | c :: cs =>
    if endsModes c then some (ms, c = ':', cs)
    else if c = '-' then
      if on && !cs.head?.any endsModes then modes? false ms cs else none
    else if c ∈ modeLetters && (ms.lookup c).isNone then modes? on (ms ++ [(c, on)]) cs
    else none

/-- Whether a character can begin the name of a group. -/
def beginsName (c : Char) : Bool := c = '_' || Text.isAlphabetic c

/-- Whether a character can be in the name of a group. -/
def isInName (c : Char) : Bool :=
  c = '_' || c = '.' || c = '[' || c = ']' || Text.isAlphabetic c || Text.isNumeric c

/-- The name of a group, which an angle bracket ends. -/
def groupName? (cs : List Char) : Option (List Char × List Char) :=
  match cs.takeWhile (· ≠ '>'), cs.dropWhile (· ≠ '>') with
  | c :: more, '>' :: rest =>
    if beginsName c && more.all isInName then some (c :: more, rest) else none
  | _, _ => none

/-- What an open group is in. -/
structure Level where
  verbose : Bool
  modes : Modes
  pieces : List Regex
  branches : List Regex

/-- The reading of an expression: the names of groups, the pieces of the branch that is read and
the branches before it, the last ones first, and the groups that are open. -/
structure Reading where
  verbose : Bool := false
  names : List (List Char) := []
  pieces : List Regex := []
  branches : List Regex := []
  levels : List Level := []

namespace Reading

/-- Take up a piece. -/
def add (r : Reading) (piece : Regex) : Reading := { r with pieces := piece :: r.pieces }

/-- Take up an atom. -/
def addAtom (r : Reading) (a : Atom) : Reading := r.add (.leaf (.atom a))

/-- What has been read of the group. -/
def content (r : Reading) : Regex :=
  let branch := ofPieces r.pieces.reverse
  if r.branches.isEmpty then branch else .choice (branch :: r.branches).reverse

/-- Begin a group. -/
def openGroup (r : Reading) (modes : Modes) : Reading :=
  { r with
    verbose := modes.after 'x' r.verbose, pieces := [], branches := []
    levels := ⟨r.verbose, modes, r.pieces, r.branches⟩ :: r.levels }

/-- Begin a group with a name that no other one has. -/
def openNamed? (r : Reading) (cs : List Char) : Option (Reading × List Char) :=
  match groupName? cs with
  | some (name, cs) =>
    if name ∈ r.names then none else some ({ r.openGroup [] with names := name :: r.names }, cs)
  | none => none

/-- Take up what a parenthesis begins: a group, or a switch of modes. -/
def open? (r : Reading) (cs : List Char) : Option (Reading × List Char) :=
  match pass r.verbose cs with
  | '?' :: 'P' :: '<' :: cs => r.openNamed? cs
  | '?' :: '<' :: cs => r.openNamed? cs
  | '?' :: cs =>
    match modes? true [] cs with
    | some (ms, true, cs) => some (r.openGroup ms, cs)
    | some (ms, false, cs) =>
      if ms.isEmpty then none
      else some ({ r.add (.switch ms) with verbose := ms.after 'x' r.verbose }, cs)
    | none => none
  | cs => some (r.openGroup [], cs)

/-- End the group. -/
def close? (r : Reading) : Option Reading :=
  match r.levels with
  | [] => none
  | l :: levels =>
    some { r with
      verbose := l.verbose, pieces := .group l.modes r.content :: l.pieces
      branches := l.branches, levels }

/-- Repeat the last piece, which is not a switch of modes. -/
def repeat? (r : Reading) : Option Reading :=
  match r.pieces with
  | [] | .switch _ :: _ => none
  | piece :: pieces => some { r with pieces := .repeated piece :: pieces }

/-- Take up what begins with `c`. A brace in front of a count is not taken. -/
def step (r : Reading) (c : Char) (cs : List Char) : Option (Reading × List Char) :=
  if c = '(' then r.open? cs
  else if c = ')' then r.close?.map (·, cs)
  else if c = '|' then
    some ({ r with pieces := [], branches := ofPieces r.pieces.reverse :: r.branches }, cs)
  else if c = '[' then
    (SetReading.finish? r.verbose (cs.length + 1) {} cs).map fun (s, cs) =>
      (r.add (.leaf (.set s)), cs)
  else if c = '?' || c = '*' || c = '+' then
    r.repeat?.map (·, if cs.head? = some '?' then cs.tail else cs)
  else if c = '\x7b' then none
  else if c = '\\' then (escaped? r.verbose cs).map fun (a, cs) => (r.addAtom a, cs)
  else if c = '.' then some (r.addAtom .any, cs)
  else if c = '^' || c = '$' then some (r.addAtom .edge, cs)
  else some (r.addAtom (.char c false), cs)

/-- Read to the end; `fuel` bounds the text. -/
def finish? : Nat → Reading → List Char → Option Regex
  | 0, _, _ => none
  | fuel + 1, r, cs =>
    match pass r.verbose cs with
    | [] => if r.levels.isEmpty then some r.content else none
    | c :: cs => (r.step c cs).bind fun (r, cs) => finish? fuel r cs

end Reading

/-- The expression that a text without counted repetitions spells. -/
def ofText? (cs : List Char) : Option Regex := Reading.finish? (cs.length + 1) {} cs

end LivePanel.Regex
