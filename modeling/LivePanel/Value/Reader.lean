import LivePanel.Number.Reader

/-!
# Reading JSON text

A value is read from the front of a list of characters; what is left is handed
on. Nesting is bounded, and of two members with one key the later wins.
-/

namespace LivePanel.Value

/-- The blanks between tokens. -/
def isSpace (c : Char) : Bool := c = ' ' || c = '\n' || c = '\t' || c = '\r'

/-- Skip blanks. -/
def skipSpace (cs : List Char) : List Char := cs.dropWhile isSpace

/-- Four hexadecimal digits and what follows. -/
def hex4? : List Char → Option (Nat × List Char)
  | a :: b :: c :: d :: rest => (Text.digits? 16 [a, b, c, d]).map fun n => (n, rest)
  | _ => none

/-- A character of an escape `u`, a pair of surrogates being one character. -/
def unicodeEscape? (cs : List Char) : Option (Char × List Char) :=
  match hex4? cs with
  | none => none
  | some (n, rest) =>
    if 0xD800 ≤ n && n < 0xDC00 then
      match rest with
      | '\\' :: 'u' :: rest =>
        match hex4? rest with
        | some (m, rest) =>
          if 0xDC00 ≤ m && m < 0xE000 then
            some (Char.ofNat (0x10000 + (n - 0xD800) * 0x400 + (m - 0xDC00)), rest)
          else none
        | none => none
      | _ => none
    else if 0xDC00 ≤ n && n < 0xE000 then none
    else some (Char.ofNat n, rest)

/-- The character that follows a backslash, other than `u`. -/
def simpleEscape? (c : Char) : Option Char :=
  if c = '"' || c = '\\' || c = '/' then some c
  else if c = 'b' then some (Char.ofNat 8)
  else if c = 'f' then some (Char.ofNat 12)
  else if c = 'n' then some '\n'
  else if c = 'r' then some '\r'
  else if c = 't' then some '\t'
  else none

/-- The rest of a text in quotes, its characters so far in reverse. -/
def stringBody? : Nat → List Char → List Char → Option (String × List Char)
  | 0, _, _ => none
  | fuel + 1, acc, cs =>
    match cs with
    | [] => none
    | '"' :: rest => some (String.ofList acc.reverse, rest)
    | '\\' :: 'u' :: rest =>
      match unicodeEscape? rest with
      | some (c, rest) => stringBody? fuel (c :: acc) rest
      | none => none
    | '\\' :: c :: rest =>
      match simpleEscape? c with
      | some c => stringBody? fuel (c :: acc) rest
      | none => none
    | c :: rest => if c.toNat < 32 then none else stringBody? fuel (c :: acc) rest

/-- Take off a known word. -/
def word? (word : String) (v : Value) (cs : List Char) : Option (Value × List Char) :=
  (Text.dropHead? word.toList cs).map fun rest => (v, rest)

mutual
/-- A value at the front of a text, blanks before it skipped. -/
def value? : Nat → Nat → List Char → Option (Value × List Char)
  | 0, _, _ => none
  | fuel + 1, depth, cs =>
    match skipSpace cs with
    | [] => none
    | '"' :: rest => (stringBody? (rest.length + 1) [] rest).map fun (s, r) => (str s, r)
    | '[' :: rest =>
      match depth with
      | 0 | 1 => none
      | depth + 1 =>
        match skipSpace rest with
        | ']' :: rest => some (arr [], rest)
        | rest => (items? fuel depth rest).map fun (vs, r) => (arr vs, r)
    | '{' :: rest =>
      match depth with
      | 0 | 1 => none
      | depth + 1 =>
        match skipSpace rest with
        | '}' :: rest => some (obj [], rest)
        | rest => (members? fuel depth [] rest).map fun (t, r) => (obj t, r)
    | 't' :: rest => word? "rue" (bool true) rest
    | 'f' :: rest => word? "alse" (bool false) rest
    | 'n' :: rest => word? "ull" null rest
    | cs => (Number.read? cs).map fun (n, r) => (num n, r)

/-- The elements of an array up to its end. -/
def items? : Nat → Nat → List Char → Option (List Value × List Char)
  | 0, _, _ => none
  | fuel + 1, depth, cs =>
    match value? fuel depth cs with
    | none => none
    | some (v, rest) =>
      match skipSpace rest with
      | ']' :: rest => some ([v], rest)
      | ',' :: rest => (items? fuel depth rest).map fun (vs, r) => (v :: vs, r)
      | _ => none

/-- The members of an object up to its end, added to those read before. -/
def members? : Nat → Nat → Table Value → List Char → Option (Table Value × List Char)
  | 0, _, _, _ => none
  | fuel + 1, depth, acc, cs =>
    match skipSpace cs with
    | '"' :: rest =>
      match stringBody? (rest.length + 1) [] rest with
      | none => none
      | some (k, rest) =>
        match skipSpace rest with
        | ':' :: rest =>
          match value? fuel depth rest with
          | none => none
          | some (v, rest) =>
            match skipSpace rest with
            | '}' :: rest => some (acc.put k v, rest)
            | ',' :: rest => members? fuel depth (acc.put k v) rest
            | _ => none
        | _ => none
    | _ => none
end

/-- The levels of nesting that a text may have, one more than is used. -/
def nestingLimit : Nat := 128

/-- The value of a whole text. -/
def ofText? (s : String) : Option Value :=
  let cs := s.toList
  match value? (2 * cs.length + 2) nestingLimit cs with
  | some (v, rest) => if (skipSpace rest).isEmpty then some v else none
  | none => none

end LivePanel.Value
