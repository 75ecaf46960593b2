/-!
# Whole numbers in text

Reading a sequence of digits in some base, and the reading of a machine-sized
index or signed number: digits with an optional sign, refused when too large.
-/

namespace LivePanel.Text

/-- The value of a digit in bases up to 16. -/
def digit? (base : Nat) (c : Char) : Option Nat :=
  let n := c.toNat
  let d :=
    if 48 ≤ n && n ≤ 57 then n - 48
    else if 97 ≤ n && n ≤ 102 then n - 87
    else if 65 ≤ n && n ≤ 70 then n - 55
    else 16
  if d < base then some d else none

/-- The number that the digits after `acc` spell; `none` at a character that is no digit. -/
def digitsFrom? (base acc : Nat) : List Char → Option Nat
  | [] => some acc
  | c :: rest =>
    match digit? base c with
    | some d => digitsFrom? base (acc * base + d) rest
    | none => none

/-- The number that a non-empty sequence of digits spells. -/
def digits? (base : Nat) : List Char → Option Nat
  | [] => none
  | cs => digitsFrom? base 0 cs

/-- Whether `c` is a decimal digit. -/
def isDigit (c : Char) : Bool := 48 ≤ c.toNat && c.toNat ≤ 57

/-- One past the largest index. -/
def indexBound : Nat := Nat.pow 2 64

/-- An index: decimal digits with an optional plus sign, below `indexBound`. -/
def index? (cs : List Char) : Option Nat :=
  let body :=
    match cs with
    | '+' :: rest => rest
    | _ => cs
  match digits? 10 body with
  | some n => if n < indexBound then some n else none
  | none => none

/-- Why a signed number was refused. -/
inductive SignedError where
  | empty
  | invalidDigit
  | tooLarge
  | tooSmall
deriving DecidableEq

/-- The size of a signed number, digit by digit: the first character that is no digit or
makes the number leave the range decides the error. -/
def signedFrom (negative : Bool) (acc : Nat) : List Char → Except SignedError Nat
  | [] => .ok acc
  | c :: rest =>
    match digit? 10 c with
    | none => .error .invalidDigit
    | some d =>
      let next := acc * 10 + d
      if next < Nat.pow 2 63 || (negative && next == Nat.pow 2 63) then
        signedFrom negative next rest
      else .error (if negative then .tooSmall else .tooLarge)

/-- A signed number of 64 bits: decimal digits with an optional sign. -/
def signed64 : List Char → Except SignedError Int
  | [] => .error .empty
  | ['+'] => .error .invalidDigit
  | ['-'] => .error .invalidDigit
  | '+' :: rest => (signedFrom false 0 rest).map Int.ofNat
  | '-' :: rest => (signedFrom true 0 rest).map fun n => -(n : Int)
  | cs => (signedFrom false 0 cs).map Int.ofNat

/-- The lower-case hexadecimal digit of `n % 16`. -/
def hexDigit (n : Nat) : Char :=
  let d := n % 16
  Char.ofNat (if d < 10 then 48 + d else 87 + d)

end LivePanel.Text
