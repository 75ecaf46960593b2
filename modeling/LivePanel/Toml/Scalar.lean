import LivePanel.Number.Decimal
import LivePanel.Toml.Basic

/-!
# TOML scalars

Readers of the four ways to quote a text and of numbers. A text in double quotes
knows escapes, one in single quotes is as it stands; in three quotes either may have
lines. Digits may be parted by single underscores.
-/

namespace LivePanel.Toml

/-! ### Characters -/

/-- A blank on a line. -/
def isGap (c : Char) : Bool := c = ' ' || c = '\t'

/-- Skip blanks on a line. -/
def skipGaps (cs : List Char) : List Char := cs.dropWhile isGap

/-- A character that comments and texts on a line may hold. -/
def isPlain (c : Char) : Bool := c = '\t' || (32 ≤ c.toNat && c.toNat ≠ 127)

/-- What follows a line break in front of a text. -/
def lineBreak? : List Char → Option (List Char)
  | '\n' :: rest => some rest
  | '\r' :: '\n' :: rest => some rest
  | _ => none

/-- Skip blanks and line breaks. -/
def skipBlankLines : List Char → List Char
  | [] => []
  | '\r' :: '\n' :: rest => skipBlankLines rest
  | c :: rest => if isGap c || c = '\n' then skipBlankLines rest else c :: rest

/-! ### Quoted texts -/

/-- A character given by `count` hexadecimal digits. -/
def codePoint? (count : Nat) (cs : List Char) : Option (Char × List Char) :=
  let front := cs.take count
  match if front.length = count then Text.digits? 16 front else none with
  | some n =>
    if n < 0xD800 || (0xE000 ≤ n && n < 0x110000) then some (Char.ofNat n, cs.drop count) else none
  | none => none

/-- The character of an escape, behind its backslash. -/
def escape? : List Char → Option (Char × List Char)
  | [] => none
  | c :: rest =>
    if c = 'b' then some (Char.ofNat 8, rest)
    else if c = 't' then some ('\t', rest)
    else if c = 'n' then some ('\n', rest)
    else if c = 'f' then some (Char.ofNat 12, rest)
    else if c = 'r' then some ('\r', rest)
    else if c = '"' || c = '\\' then some (c, rest)
    else if c = 'u' then codePoint? 4 rest
    else if c = 'U' then codePoint? 8 rest
    else none

/-- The blanks that an escaped line break takes along, if there is one. -/
def escapedBreak? (cs : List Char) : Option (List Char) :=
  (lineBreak? (skipGaps cs)).map skipBlankLines

/-- The characters that a text in double quotes stands for, after those read before, which are in
reverse; `lines` says whether it may have lines. -/
def unescaped? (lines : Bool) : Nat → List Char → List Char → Option (List Char)
  | 0, _, _ => none
  | fuel + 1, acc, cs =>
    match cs with
    | [] => some acc.reverse
    | '\\' :: rest =>
      match if lines then escapedBreak? rest else none with
      | some rest => unescaped? lines fuel acc rest
      | none =>
        match escape? rest with
        | some (c, rest) => unescaped? lines fuel (c :: acc) rest
        | none => none
    | c :: rest =>
      match if lines then lineBreak? (c :: rest) else none with
      | some rest => unescaped? lines fuel ('\n' :: acc) rest
      | none => if isPlain c then unescaped? lines fuel (c :: acc) rest else none

/-- The characters that a text in single quotes stands for. -/
def unbroken? (lines : Bool) : Nat → List Char → List Char → Option (List Char)
  | 0, _, _ => none
  | fuel + 1, acc, cs =>
    match cs with
    | [] => some acc.reverse
    | c :: rest =>
      match if lines then lineBreak? (c :: rest) else none with
      | some rest => unbroken? lines fuel ('\n' :: acc) rest
      | none => if isPlain c then unbroken? lines fuel (c :: acc) rest else none

/-- The kinds of quotes: double ones know escapes. -/
inductive Quote where
  | double
  | single

/-- The character of a quote. -/
def Quote.char : Quote → Char
  | double => '"'
  | single => '\''

/-- The text of what stands between quotes. -/
def Quote.text? (q : Quote) (lines : Bool) (body : List Char) : Option String :=
  let read :=
    match q with
    | double => unescaped? lines (body.length + 1) [] body
    | single => unbroken? lines (body.length + 1) [] body
  read.map String.ofList

/-- Whether a character begins an escape between such quotes. -/
def Quote.escapes (q : Quote) (c : Char) : Bool :=
  match q with
  | double => c = '\\'
  | single => false

/-- What stands before the closing quote, after the characters `acc` in reverse, and what follows
it; `escaped` says that a backslash stands in front. -/
def Quote.cut? (q : Quote) (escaped : Bool) (acc : List Char) :
    List Char → Option (List Char × List Char)
  | [] => none
  | c :: rest =>
    if !escaped && c = q.char then some (acc.reverse, rest)
    else q.cut? (!escaped && q.escapes c) (c :: acc) rest

/-- The end of a text in three quotes, behind the first of a run of quotes: two more end it, and
up to two beyond these belong to the text. -/
def tripleEnd? (quote : Char) (cs : List Char) : Option (List Char × List Char) :=
  let run := cs.takeWhile (· = quote)
  if run.length < 2 then none
  else
    let extra := min 2 (run.length - 2)
    some (List.replicate extra quote, cs.drop (2 + extra))

/-- What stands before three closing quotes, and what follows them. -/
def Quote.cutTriple? (q : Quote) (escaped : Bool) (acc : List Char) :
    List Char → Option (List Char × List Char)
  | [] => none
  | c :: rest =>
    match if !escaped && c = q.char then tripleEnd? c rest else none with
    | some (extra, rest) => some ((extra ++ acc).reverse, rest)
    | none => q.cutTriple? (!escaped && q.escapes c) (c :: acc) rest

/-- A text behind its opening quote. -/
def Quote.line? (q : Quote) (cs : List Char) : Option (String × List Char) :=
  match q.cut? false [] cs with
  | some (body, rest) => (q.text? false body).map fun s => (s, rest)
  | none => none

/-- A text behind three opening quotes; a line break right behind them is no part of it. -/
def Quote.lines? (q : Quote) (cs : List Char) : Option (String × List Char) :=
  match q.cutTriple? false [] ((lineBreak? cs).getD cs) with
  | some (body, rest) => (q.text? true body).map fun s => (s, rest)
  | none => none

/-- A text in one pair of quotes. -/
def quotedLine? : List Char → Option (String × List Char)
  | '"' :: rest => Quote.double.line? rest
  | '\'' :: rest => Quote.single.line? rest
  | _ => none

/-- A quoted text. -/
def quoted? : List Char → Option (String × List Char)
  | '"' :: '"' :: '"' :: rest => Quote.double.lines? rest
  | '\'' :: '\'' :: '\'' :: rest => Quote.single.lines? rest
  | cs => quotedLine? cs

/-! ### Numbers -/

/-- Digits in some base, parted by single underscores, and what follows them; `acc` holds those
read before in reverse, and `start` says that a digit must come next. -/
def digitRun? (base : Nat) (acc : List Char) (start : Bool) :
    List Char → Option (List Char × List Char)
  | [] => if start then none else some (acc.reverse, [])
  | c :: rest =>
    if (Text.digit? base c).isSome then digitRun? base (c :: acc) false rest
    else if start then none
    else if c = '_' then digitRun? base acc true rest
    else some (acc.reverse, c :: rest)

/-- Digits in some base in front of a text. -/
def digitsAt? (base : Nat) (cs : List Char) : Option (List Char × List Char) :=
  digitRun? base [] true cs

/-- Decimal digits of which only a single one may be a zero in front. -/
def decimal? : List Char → Option (List Char × List Char)
  | '0' :: rest => some (['0'], rest)
  | cs => digitsAt? 10 cs

/-- A sign in front of a text, and whether it is a minus. -/
def signAt : List Char → Bool × List Char
  | '-' :: rest => (true, rest)
  | '+' :: rest => (false, rest)
  | cs => (false, cs)

/-- Whether `n` is a whole number of 64 bits with sign. -/
def inRange (n : Int) : Bool := -(Nat.pow 2 63 : Int) ≤ n && n < Nat.pow 2 63

/-- A whole number. -/
def whole? (cs : List Char) : Option (Int × List Char) :=
  let based (base : Nat) (cs : List Char) : Option (Int × List Char) := do
    let (digits, rest) ← digitsAt? base cs
    let n ← Text.digits? base digits
    return ((n : Int), rest)
  let read : Option (Int × List Char) :=
    match cs with
    | '0' :: 'x' :: rest => based 16 rest
    | '0' :: 'o' :: rest => based 8 rest
    | '0' :: 'b' :: rest => based 2 rest
    | cs => do
      let (negative, cs) := signAt cs
      let (digits, rest) ← decimal? cs
      let n ← Text.digits? 10 digits
      return ((if negative then -(n : Int) else n), rest)
  match read with
  | some (n, rest) => if inRange n then some (n, rest) else none
  | none => none

/-- The digits behind a point. -/
def fraction? : List Char → Option (List Char × List Char)
  | '.' :: rest => digitsAt? 10 rest
  | _ => none

/-- The exponent of a number. -/
def exponent? : List Char → Option (Int × List Char)
  | [] => none
  | c :: rest =>
    if c = 'e' || c = 'E' then do
      let (negative, rest) := signAt rest
      let (digits, rest) ← digitsAt? 10 rest
      let n ← Text.digits? 10 digits
      return ((if negative then -(n : Int) else n), rest)
    else none

/-- Infinity. -/
def infinite (negative : Bool) : Double := Double.withSign negative Double.infinityBits

/-- What is no number. -/
def notANumber (negative : Bool) : Double :=
  Double.withSign negative (Double.infinityBits + Nat.pow 2 51)

/-- The double of a decimal text; too large a number is refused if it is positive, and is infinite
if it is negative. -/
def doubleOf? (negative : Bool) (digits : List Char) (exponent : Int) : Option Double :=
  match Text.digits? 10 digits with
  | none => none
  | some n =>
    match Double.ofDecimal? negative n exponent with
    | some d => some d
    | none => if negative then some (infinite true) else none

/-- A number with a point or an exponent, or one of the words for what is no finite number. -/
def real? (cs : List Char) : Option (Double × List Char) :=
  let (negative, body) := signAt cs
  match body with
  | 'i' :: 'n' :: 'f' :: rest => some (infinite negative, rest)
  | 'n' :: 'a' :: 'n' :: rest => some (notANumber negative, rest)
  | _ => do
    let (digits, rest) ← decimal? body
    match fraction? rest with
    | some (decimals, rest) =>
      let (exponent, rest) := (exponent? rest).getD (0, rest)
      let d ← doubleOf? negative (digits ++ decimals) (exponent - decimals.length)
      return (d, rest)
    | none =>
      let (exponent, rest) ← exponent? rest
      let d ← doubleOf? negative digits exponent
      return (d, rest)

end LivePanel.Toml
