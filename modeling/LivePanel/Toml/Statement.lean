import LivePanel.Toml.Scalar

/-!
# TOML statements

The lines of a document: the header of a table, the header of a row of a list of
tables, and a key with its value. Keys are bare words or quoted texts, joined by
dots; a value may be nested, and a list may stretch over lines while an inline table
may not.
-/

namespace LivePanel.Toml

/-- A statement; a path has its last key apart. -/
inductive Statement where
  | header (path : List String) (last : String)
  | row (path : List String) (last : String)
  | pair (path : List String) (last : String) (d : Datum)

/-- One past the number of parts that a key may have and of the levels that a value may have. -/
def depthLimit : Nat := 80

/-! ### Keys -/

/-- A character of a bare key. -/
def isBare (c : Char) : Bool :=
  let n := c.toNat
  Text.isDigit c || (65 ≤ n && n ≤ 90) || (97 ≤ n && n ≤ 122) || c = '_' || c = '-'

/-- One part of a key. -/
def keyPart? : List Char → Option (String × List Char)
  | [] => none
  | c :: rest =>
    if c = '"' || c = '\'' then quotedLine? (c :: rest)
    else
      let word := (c :: rest).takeWhile isBare
      if word.isEmpty then none else some (String.ofList word, (c :: rest).drop word.length)

/-- The parts of a key, the last one first, after those read before. -/
def keyParts? : Nat → List String → List Char → Option (List String × List Char)
  | 0, _, _ => none
  | fuel + 1, acc, cs =>
    match keyPart? (skipGaps cs) with
    | none => none
    | some (part, rest) =>
      match skipGaps rest with
      | '.' :: rest => keyParts? fuel (part :: acc) rest
      | rest => some (part :: acc, rest)

/-- A key: the parts before the last one, and the last one. -/
def key? (cs : List Char) : Option ((List String × String) × List Char) :=
  match keyParts? depthLimit [] cs with
  | some (last :: path, rest) =>
    if path.length + 1 < depthLimit then some ((path.reverse, last), rest) else none
  | _ => none

/-! ### Blanks and comments -/

/-- What follows a comment, from behind its sign. -/
def skipComment (cs : List Char) : List Char := cs.dropWhile isPlain

/-- Skip blanks, line breaks and comments inside a list; a comment ends with its line. -/
def skipLines? (comment : Bool) : List Char → Option (List Char)
  | [] => if comment then none else some []
  | '\n' :: rest => skipLines? false rest
  | '\r' :: '\n' :: rest => skipLines? false rest
  | c :: rest =>
    if comment then (if isPlain c then skipLines? true rest else none)
    else if isGap c then skipLines? false rest
    else if c = '#' then skipLines? true rest
    else some (c :: rest)

/-- What follows the end of a line, blanks and a comment being passed over. -/
def endOfLine? (cs : List Char) : Option (List Char) :=
  let rest :=
    match skipGaps cs with
    | '#' :: rest => skipComment rest
    | rest => rest
  match rest with
  | [] => some []
  | rest => lineBreak? rest

/-! ### Values -/

/-- A scalar. -/
def scalar? (cs : List Char) : Option (Datum × List Char) :=
  match cs with
  | [] => none
  | c :: rest =>
    if c = '"' || c = '\'' then (quoted? cs).map fun (s, r) => (.text s, r)
    else if c = 't' then (Text.dropHead? "rue".toList rest).map fun r => (.flag true, r)
    else if c = 'f' then (Text.dropHead? "alse".toList rest).map fun r => (.flag false, r)
    else
      match Moment.read? cs with
      | some (m, r) => some (.moment m, r)
      | none =>
        match real? cs with
        | some (d, r) => some (.real d, r)
        | none => (whole? cs).map fun (n, r) => (.whole n, r)

mutual
/-- A value that may have `depth` levels below it. -/
def value? : Nat → Nat → List Char → Option (Datum × List Char)
  | 0, _, _ => none
  | fuel + 1, depth, cs =>
    match cs with
    | '[' :: rest =>
      match depth with
      | 0 | 1 => none
      | depth + 1 => (items? fuel depth [] rest).map fun (ds, r) => (.list ds, r)
    | '\x7b' :: rest =>
      match depth with
      | 0 | 1 => none
      | depth + 1 =>
        match skipGaps rest with
        | '\x7d' :: rest => some (.table [], rest)
        | rest => (members? fuel depth [] rest).map fun (t, r) => (.table (Branch.memberData t), r)
    | cs => scalar? cs

/-- The elements of a list up to its end, after those read before, which are in reverse. -/
def items? : Nat → Nat → List Datum → List Char → Option (List Datum × List Char)
  | 0, _, _, _ => none
  | fuel + 1, depth, acc, cs =>
    match skipLines? false cs with
    | none => none
    | some (']' :: rest) => some (acc.reverse, rest)
    | some cs =>
      match value? fuel depth cs with
      | none => none
      | some (d, rest) =>
        match skipLines? false rest with
        | some (']' :: rest) => some ((d :: acc).reverse, rest)
        | some (',' :: rest) => items? fuel depth (d :: acc) rest
        | _ => none

/-- The members of an inline table up to its end, added to those read before. -/
def members? : Nat → Nat → Table Branch → List Char → Option (Table Branch × List Char)
  | 0, _, _, _ => none
  | fuel + 1, depth, acc, cs =>
    match key? cs with
    | some ((path, last), '=' :: rest) =>
      match value? fuel depth (skipGaps rest) with
      | none => none
      | some (d, rest) =>
        match Branch.place? last d path acc with
        | none => none
        | some acc =>
          match skipGaps rest with
          | '\x7d' :: rest => some (acc, rest)
          | ',' :: rest => members? fuel depth acc rest
          | _ => none
    | _ => none
end

/-! ### Lines -/

/-- A statement with the end of its line; `fuel` bounds the text. -/
def statement? (fuel : Nat) (cs : List Char) : Option (Statement × List Char) :=
  match cs with
  | '[' :: '[' :: rest =>
    match key? rest with
    | some ((path, last), ']' :: ']' :: rest) =>
      (endOfLine? rest).map fun rest => (.row path last, rest)
    | _ => none
  | '[' :: rest =>
    match key? rest with
    | some ((path, last), ']' :: rest) =>
      (endOfLine? rest).map fun rest => (.header path last, rest)
    | _ => none
  | cs =>
    match key? cs with
    | some ((path, last), '=' :: rest) =>
      match value? (2 * fuel + 2) depthLimit (skipGaps rest) with
      | some (d, rest) => (endOfLine? rest).map fun rest => (.pair path last d, rest)
      | none => none
    | _ => none

/-- The statements of a text, after those read before, which are in reverse. -/
def statements? : Nat → List Statement → List Char → Option (List Statement)
  | 0, _, _ => none
  | fuel + 1, acc, cs =>
    match skipGaps cs with
    | [] => some acc.reverse
    | c :: rest =>
      if c = '#' || c = '\n' || c = '\r' then
        match endOfLine? (c :: rest) with
        | some rest => statements? fuel acc rest
        | none => none
      else
        match statement? fuel (c :: rest) with
        | some (s, rest) => statements? fuel (s :: acc) rest
        | none => none

/-- A mark of byte order, which may stand in front of a text. -/
def byteOrderMark : Char := Char.ofNat 0xFEFF

/-- The statements of a document. -/
def statementsOf? (s : String) : Option (List Statement) :=
  let cs := s.toList
  let cs := if cs.head? = some byteOrderMark then cs.drop 1 else cs
  statements? (cs.length + 1) [] cs

end LivePanel.Toml
