import LivePanel.Number.Double
import LivePanel.Text.Natural

/-!
# Doubles from decimal text

A sign, digits with an optional point among or beside them, and an optional
exponent. The double is the nearest one; a text beyond the largest double has
none. Besides there are words for what is no finite number.
-/

namespace LivePanel.Double

/-- The exponent of a decimal text: what follows the digits, all of it. -/
def exponentOfText? : List Char → Option Int
  | [] => some 0
  | c :: rest =>
    if c = 'e' || c = 'E' then
      match rest with
      | '-' :: digits => (Text.digits? 10 digits).map fun n => -(n : Int)
      | '+' :: digits => (Text.digits? 10 digits).map Int.ofNat
      | digits => (Text.digits? 10 digits).map Int.ofNat
    else none

/-- The number and the power of ten whose product an unsigned decimal text is. -/
def partsOfText? (cs : List Char) : Option (Nat × Int) :=
  let whole := cs.takeWhile Text.isDigit
  let rest := cs.drop whole.length
  let (fraction, rest) :=
    match rest with
    | '.' :: r => (r.takeWhile Text.isDigit, r.dropWhile Text.isDigit)
    | r => ([], r)
  match Text.digits? 10 (whole ++ fraction), exponentOfText? rest with
  | some n, some e => some (n, e - fraction.length)
  | _, _ => none

/-- The double nearest to an unsigned decimal text. -/
def ofUnsignedText? (negative : Bool) (cs : List Char) : Option Double :=
  (partsOfText? cs).bind fun (n, e) => ofDecimal? negative n e

/-- The double nearest to a decimal text. -/
def ofText? : List Char → Option Double
  | '-' :: cs => ofUnsignedText? true cs
  | '+' :: cs => ofUnsignedText? false cs
  | cs => ofUnsignedText? false cs

/-- The words for what is no finite number. -/
def words : List String := ["inf", "infinity", "nan"]

/-- Whether a text, without its sign, spells a number or a word for one, in letters of either
case. -/
def isUnsignedText (cs : List Char) : Bool :=
  (partsOfText? cs).isSome || String.ofList (cs.map Char.toLower) ∈ words

/-- Whether a text spells a number, or a word for one, with an optional sign. -/
def isText : List Char → Bool
  | '-' :: cs => isUnsignedText cs
  | '+' :: cs => isUnsignedText cs
  | cs => isUnsignedText cs

end LivePanel.Double
