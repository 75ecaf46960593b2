import LivePanel.Value.Basic

/-!
# Numbers in JSON text

A literal without point and exponent that fits 64 bits is a whole number, except
`-0`. Any other literal is a double: its digits are gathered into a significand
of 64 bits, those that no longer fit are dropped, and the significand is scaled
once by the double nearest to a power of ten. A literal beyond the largest
double is refused.
-/

namespace LivePanel.Number

/-- One past the largest significand. -/
def significandBound : Nat := Nat.pow 2 64

/-- The numeric value of a decimal digit. -/
def digitValue (c : Char) : Nat := c.toNat - 48

/-- Gather the digits of the whole part into `s`; the second component counts those dropped
once the significand is full. -/
def gatherWhole (s : Nat) : List Char → Nat × Nat
  | [] => (s, 0)
  | c :: rest =>
    let next := s * 10 + digitValue c
    if next < significandBound then gatherWhole next rest else (s, rest.length + 1)

/-- Gather the digits of the fraction into `s`; the second component counts those taken. -/
def gatherFraction (s : Nat) : List Char → Nat × Nat
  | [] => (s, 0)
  | c :: rest =>
    let next := s * 10 + digitValue c
    if next < significandBound then
      let (m, n) := gatherFraction next rest
      (m, n + 1)
    else (s, 0)

/-- The largest power of ten in the table of scales. -/
def scaleLimit : Nat := 308

/-- The double nearest to `10 ^ e`, for `e` up to `scaleLimit`. -/
def powerOfTen (e : Nat) : Double :=
  (Double.ofRatio? false (Nat.pow 10 e) 1).getD (Double.zero false)

/-- `f * 10 ^ e`, scaled in steps of the table; three steps bring any significand to zero. -/
def scaled? : Nat → Double → Int → Option Double
  | 0, f, _ => some f
  | fuel + 1, f, e =>
    if 0 ≤ e then
      if e.toNat ≤ scaleLimit then f.mul? (powerOfTen e.toNat)
      else if f.isZero then some f
      else none
    else if (-e).toNat ≤ scaleLimit then f.div? (powerOfTen (-e).toNat)
    else if f.isZero then some f
    else (f.div? (powerOfTen scaleLimit)).bind fun g => scaled? fuel g (e + scaleLimit)

/-- The double of a significand and a decimal exponent. -/
def assemble? (negative : Bool) (significand : Nat) (exponent : Int) : Option Number :=
  (scaled? 4 (Double.ofNat significand) exponent).map fun f =>
    .double (if negative then f.neg else f)

/-- The exponent part: its value and what follows; `none` where an `e` has no digits. -/
def exponentPart? : List Char → Option (Option Int × List Char)
  | c :: rest =>
    if c = 'e' || c = 'E' then
      let (negative, rest) :=
        match rest with
        | '-' :: r => (true, r)
        | '+' :: r => (false, r)
        | r => (false, r)
      let digits := rest.takeWhile Text.isDigit
      match Text.digits? 10 digits with
      | some n => some (some (if negative then -(n : Int) else n), rest.drop digits.length)
      | none => none
    else some (none, c :: rest)
  | [] => some (none, [])

/-- The fraction: its digits and what follows; `none` where a point has no digits. -/
def fractionPart? : List Char → Option (Option (List Char) × List Char)
  | '.' :: rest =>
    let digits := rest.takeWhile Text.isDigit
    if digits.isEmpty then none else some (some digits, rest.drop digits.length)
  | cs => some (none, cs)

/-- The largest exponent that is taken at its word. -/
def exponentLimit : Int := Nat.pow 2 31 - 1

/-- The number of a literal whose parts are known. -/
def ofParts? (negative : Bool) (whole : List Char) (fraction : Option (List Char))
    (exponent : Option Int) : Option Number :=
  let (s, dropped) := gatherWhole 0 whole
  if fraction.isNone && exponent.isNone && dropped = 0 then
    if !negative then some (.int s)
    else if s = 0 || s > Nat.pow 2 63 then some (.double (Double.ofNat s).neg)
    else some (.int (-(s : Int)))
  else
    let (s, taken) := gatherFraction s (fraction.getD [])
    let shift : Int := (dropped : Int) - taken
    match exponent with
    | none => assemble? negative s shift
    | some e =>
      if e > exponentLimit then
        if s = 0 then some (.double (Double.zero negative)) else none
      else if e < -exponentLimit then some (.double (Double.zero negative))
      else assemble? negative s (shift + e)

/-- Read a number literal from the front of a text. -/
def read? (cs : List Char) : Option (Number × List Char) :=
  let (negative, cs) :=
    match cs with
    | '-' :: rest => (true, rest)
    | _ => (false, cs)
  let whole := cs.takeWhile Text.isDigit
  let proper :=
    match whole with
    | [] => false
    | '0' :: _ :: _ => false
    | _ => true
  if proper then
    match fractionPart? (cs.drop whole.length) with
    | none => none
    | some (fraction, cs) =>
      match exponentPart? cs with
      | none => none
      | some (exponent, cs) =>
        (ofParts? negative whole fraction exponent).map fun n => (n, cs)
  else none

end LivePanel.Number
