import LivePanel.Number.Double
import LivePanel.Text.Split
import LivePanel.Text.Natural
import LivePanel.Value.Table

/-!
# Values

The dynamic values of templates, state and messages: JSON. A number is a whole
number of 64 bits (signed or unsigned) or a finite double, and the two are never
the same value. The members of an object are a `Table`; values that are read,
merged or written into have them sorted by key.
-/

namespace LivePanel

/-- A number: a whole number in `-2^63 .. 2^64 - 1`, or a double. -/
inductive Number where
  | int (n : Int)
  | double (d : Double)
deriving DecidableEq, Inhabited

/-- A JSON value. -/
inductive Value where
  | null
  | bool (b : Bool)
  | num (n : Number)
  | str (s : String)
  | arr (items : List Value)
  | obj (fields : List (String × Value))
deriving Inhabited

namespace Number

/-- Whether the number is zero. -/
def isZero : Number → Bool
  | int n => n == 0
  | double d => d.isZero

end Number

namespace Value

/-- A count. -/
def ofNat (n : Nat) : Value := num (.int n)

/-- A list of texts. -/
def ofStrings (ss : List String) : Value := arr (ss.map str)

/-- A text or null. -/
def ofOption (s : Option String) : Value := (s.map str).getD null

/-- Whether the value is null. -/
def isNull : Value → Bool
  | null => true
  | _ => false

/-- Whether the value is an object. -/
def isObj : Value → Bool
  | obj _ => true
  | _ => false

/-- The text of a string. -/
def asStr? : Value → Option String
  | str s => some s
  | _ => none

/-- The members of an object; none of anything else. -/
def fields : Value → Table Value
  | obj fields => fields
  | _ => []

/-- The member `k` of an object. -/
def field? : Value → String → Option Value
  | obj fields, k => Table.get? fields k
  | _, _ => none

/-- An object of the pairs, with its members sorted. -/
def ofPairs (pairs : List (String × Value)) : Value := obj (Table.ofPairs pairs)

/-- What one path segment selects: a member of an object or an element of an array. -/
def child? (v : Value) (segment : String) : Option Value :=
  match v with
  | obj fields => Table.get? fields segment
  | arr items =>
    match Text.index? segment.toList with
    | some i => items[i]?
    | none => none
  | _ => none

/-- What a list of segments selects. -/
def atPath? : Value → List String → Option Value
  | v, [] => some v
  | v, s :: rest => (v.child? s).bind fun w => w.atPath? rest

/-- What a dotted path selects; the empty path selects the value itself. -/
def lookup? (v : Value) (path : String) : Option Value :=
  if path.isEmpty then some v else v.atPath? (Text.splitAtChar '.' path)

/-- Truth of a value: `null`, `false`, zero and the empty text are false, all else is true. -/
def truthy : Value → Bool
  | null => false
  | bool b => b
  | num n => !n.isZero
  | str s => !s.isEmpty
  | arr _ => true
  | obj _ => true

end Value

end LivePanel
