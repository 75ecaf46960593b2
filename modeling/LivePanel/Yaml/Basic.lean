import LivePanel.Value.Printer

/-!
# YAML values

The values of a document: like JSON, with infinities and NaN, with mappings whose
keys are any values and keep their order, and with tagged values. `Yaml.toValue`
gives the JSON value, where there is one.
-/

namespace LivePanel

/-- A floating-point number of a document. -/
inductive Real where
  | finite (d : Double)
  | infinity (negative : Bool)
  | nan
deriving DecidableEq, Inhabited

/-- A value of a document. The tag of a tagged value has no exclamation mark in front. -/
inductive Yaml where
  | null
  | bool (b : Bool)
  | int (n : Int)
  | real (r : Real)
  | str (s : String)
  | seq (items : List Yaml)
  | map (entries : List (Yaml × Yaml))
  | tagged (tag : String) (v : Yaml)
deriving Inhabited

/-- Equality of numbers as keys: the zeros are equal, and NaN equals itself. -/
def Real.same : Real → Real → Bool
  | .finite a, .finite b => a == b || (a.isZero && b.isZero)
  | .infinity a, .infinity b => a == b
  | .nan, .nan => true
  | _, _ => false

/-- The text of a floating-point number. -/
def Real.text : Real → String
  | .finite d => d.dataText ""
  | .infinity false => ".inf"
  | .infinity true => "-.inf"
  | .nan => ".nan"

namespace Yaml

mutual
/-- Equality of values as keys; the order of the entries of a mapping does not count. -/
def same : Yaml → Yaml → Bool
  | null, null => true
  | bool a, bool b => a == b
  | int a, int b => a == b
  | real a, real b => a.same b
  | str a, str b => a == b
  | seq a, seq b => sameItems a b
  | map a, map b => a.length == b.length && sameEntries a b
  | tagged s a, tagged t b => s == t && same a b
  | _, _ => false

/-- Equality of sequences, item by item. -/
def sameItems : List Yaml → List Yaml → Bool
  | [], [] => true
  | a :: as, b :: bs => same a b && sameItems as bs
  | _, _ => false

/-- Whether each entry of the first mapping is one of the second. -/
def sameEntries : List (Yaml × Yaml) → List (Yaml × Yaml) → Bool
  | [], _ => true
  | (k, v) :: rest, bs => (bs.any fun e => same k e.1 && same v e.2) && sameEntries rest bs
end

/-- A mapping's entries. -/
abbrev Entries := List (Yaml × Yaml)

/-- The value under the untagged text key `k`. -/
def Entries.get? : Entries → String → Option Yaml
  | [], _ => none
  | (str k', v) :: rest, k => if k' = k then some v else get? rest k
  | _ :: rest, k => get? rest k

/-- The value inside all tags. -/
def untagged : Yaml → Yaml
  | tagged _ v => untagged v
  | v => v

/-- The text of a string, seen through tags. -/
def asStr? (v : Yaml) : Option String :=
  match v.untagged with
  | str s => some s
  | _ => none

/-- The value under a text key of a mapping, seen through tags. -/
def field? (v : Yaml) (k : String) : Option Yaml :=
  match v.untagged with
  | map entries => Entries.get? entries k
  | _ => none

/-- Whether the value is null. -/
def isNull : Yaml → Bool
  | null => true
  | _ => false

/-- Why a value has no JSON form. -/
inductive KeyError where
  | notText
  | notFinite
deriving DecidableEq

/-- The wording of the error. -/
def KeyError.message : KeyError → String
  | .notText => "key must be a string"
  | .notFinite => "float key must be finite (got NaN or +/-inf)"

/-- The text that a key becomes. -/
def keyText : Yaml → Except KeyError String
  | str s => .ok s
  | bool true => .ok "true"
  | bool false => .ok "false"
  | int n => .ok (toString n)
  | real (.finite d) => .ok d.jsonText
  | real _ => .error .notFinite
  | _ => .error .notText

/-- A tag as a key: with one exclamation mark in front. -/
def tagKey (tag : String) : String := "!" ++ tag

mutual
/-- The JSON form of a value. -/
def toValue : Yaml → Except KeyError Value
  | null => .ok .null
  | bool b => .ok (.bool b)
  | int n => .ok (.num (.int n))
  | real (.finite d) => .ok (.num (.double d))
  | real _ => .ok .null
  | str s => .ok (.str s)
  | seq items => (toValues items).map .arr
  | map entries => (toFields [] entries).map .obj
  | tagged tag v => (toValue v).map fun w => .obj [(tagKey tag, w)]

/-- The JSON forms of the items of a sequence. -/
def toValues : List Yaml → Except KeyError (List Value)
  | [] => .ok []
  | v :: rest =>
    match toValue v with
    | .error e => .error e
    | .ok w => (toValues rest).map (w :: ·)

/-- The JSON forms of the entries of a mapping, added to those of the entries before. -/
def toFields (fields : List (String × Value)) : List (Yaml × Yaml) →
    Except KeyError (List (String × Value))
  | [] => .ok fields
  | (k, v) :: rest =>
    match keyText k with
    | .error e => .error e
    | .ok k =>
      match toValue v with
      | .error e => .error e
      | .ok w => toFields (Table.put fields k w) rest
end

end Yaml

end LivePanel
