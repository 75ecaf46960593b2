import LivePanel.Number.Double

/-!
# Shortest decimals

The decimal text of a double with the fewest digits that read back as the same
double, and of those the nearest. A double is `m * 2 ^ q`; the reals that round
to it form an interval around it, ends included exactly when `m` is even. For
one digit, two digits and so on the two neighbours of the value on the decimal
grid are tested against the interval; the first grid with a hit decides.

`jsonText` writes the digits positionally while the point stays within sixteen
places and with an exponent otherwise; `plainText` never uses an exponent.
-/

namespace LivePanel.Double

/-- A decimal `digits * 10 ^ exponent`. -/
structure Decimal where
  digits : Nat
  exponent : Int

/-- Numerator and denominator of the lower end, the value and the upper end of the interval
that rounds to `d`, over one denominator. -/
def interval (d : Double) : Nat × Nat × Nat × Nat :=
  let m := d.significand
  let low := if m = Nat.pow 2 52 && d.exponentField > 1 then 4 * m - 1 else 4 * m - 2
  let s := d.scale - 2
  if 0 ≤ s then
    let f := Nat.pow 2 s.toNat
    (low * f, 4 * m * f, (4 * m + 2) * f, 1)
  else (low, 4 * m, 4 * m + 2, Nat.pow 2 (-s).toNat)

/-- `10 ^ e` as numerator and denominator. -/
def powerOfTen (e : Int) : Nat × Nat :=
  if 0 ≤ e then (Nat.pow 10 e.toNat, 1) else (1, Nat.pow 10 (-e).toNat)

/-- Whether `10 ^ e ≤ num / den`. -/
def powerFits (e : Int) (num den : Nat) : Bool :=
  let (p, r) := powerOfTen e
  p * den ≤ num * r

/-- The largest `e` with `10 ^ e ≤ num / den`, for positive arguments. -/
def log10Quotient (num den : Nat) : Int :=
  let estimate := (log2Quotient num den) * 30103 / 100000
  if !powerFits estimate num den then estimate - 1
  else if powerFits (estimate + 1) num den then estimate + 1
  else estimate

/-- Whether `digits * 10 ^ e` rounds to `d`. -/
def inInterval (d : Double) (digits : Nat) (e : Int) : Bool :=
  let (low, _, high, den) := d.interval
  let (p, r) := powerOfTen e
  let x := digits * p * den
  if d.significand % 2 = 0 then low * r ≤ x && x ≤ high * r
  else low * r < x && x < high * r

/-- The nearest point of the grid `10 ^ e` that rounds to `d`, if one of the two beside it does. -/
def onGrid? (d : Double) (e : Int) : Option Decimal :=
  let (_, v, _, den) := d.interval
  let (p, r) := powerOfTen e
  let below := v * r / (p * den)
  let rest := v * r % (p * den)
  let hitBelow := below ≠ 0 && inInterval d below e
  let hitAbove := inInterval d (below + 1) e
  let nearBelow := 2 * rest < p * den || (2 * rest == p * den && below % 2 == 0)
  if hitBelow && (nearBelow || !hitAbove) then some ⟨below, e⟩
  else if hitAbove then some ⟨below + 1, e⟩
  else none

/-- Search the grids of `n + 1`, `n + 2` … digits, `fuel` of them. -/
def searchGrids (d : Double) (top : Int) : Nat → Nat → Decimal
  | 0, _ => ⟨d.significand, d.scale⟩
  | fuel + 1, n =>
    match d.onGrid? (top - n) with
    | some found => found
    | none => searchGrids d top fuel (n + 1)

/-- Drop the zeros at the end of the digits, at most `fuel` of them. -/
def Decimal.strip : Nat → Decimal → Decimal
  | 0, x => x
  | fuel + 1, x =>
    if x.digits ≠ 0 && x.digits % 10 == 0 then Decimal.strip fuel ⟨x.digits / 10, x.exponent + 1⟩
    else x

/-- The fewest digits that read back as the absolute value of `d`; no trailing zero. -/
def shortest (d : Double) : Decimal :=
  if d.isZero then ⟨0, 0⟩
  else
    let (n, den) := d.ratio
    (searchGrids d (log10Quotient n den) 17 0).strip 20

/-- `n` zeros. -/
def zeros (n : Nat) : String := String.ofList (List.replicate n '0')

/-- The digits of a decimal with the point `point` places from their start. -/
def positional (digits : List Char) (point : Int) : String :=
  if point ≤ 0 then "0." ++ zeros (-point).toNat ++ String.ofList digits
  else if point.toNat < digits.length then
    String.ofList (digits.take point.toNat) ++ "." ++ String.ofList (digits.drop point.toNat)
  else String.ofList digits ++ zeros (point.toNat - digits.length) ++ ".0"

/-- The sign of the text. -/
def signText (d : Double) : String := if d.negative then "-" else ""

/-- Shortest text for data: positional while the point lies between five places before the
first digit and sixteen after it, else with an exponent; always with a point or an exponent.
`plus` is written in front of an exponent that is not negative. -/
def dataText (plus : String) (d : Double) : String :=
  if d.isZero then d.signText ++ "0.0"
  else
    let x := d.shortest
    let digits := Nat.toDigits 10 x.digits
    let point := (digits.length : Int) + x.exponent
    let body :=
      if -5 < point && point ≤ 16 then positional digits point
      else
        let mantissa :=
          match digits with
          | [c] => String.singleton c
          | c :: rest => String.singleton c ++ "." ++ String.ofList rest
          | [] => ""
        mantissa ++ "e" ++ (if point < 1 then "" else plus) ++ toString (point - 1)
    d.signText ++ body

/-- Shortest text in JSON, where a large number has an exponent with a plus sign. -/
def jsonText (d : Double) : String := d.dataText "+"

/-- Shortest text without an exponent. -/
def plainText (d : Double) : String :=
  if d.isZero then d.signText ++ "0.0"
  else
    let x := d.shortest
    let digits := Nat.toDigits 10 x.digits
    d.signText ++ positional digits ((digits.length : Int) + x.exponent)

end LivePanel.Double
