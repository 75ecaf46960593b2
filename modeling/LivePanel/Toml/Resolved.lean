import LivePanel.Toml.Basic

/-!
# Tables in place of moments

Where moments cannot be written as such, a table with one key stands for a moment, and
has its text under the key. A tree is resolved when these tables are read as moments. A
tree that comes from a `Value` may have no nulls, and only whole numbers below `2^63`.
-/

namespace LivePanel.Toml

/-- The first key of a table that stands for a moment. -/
def momentKey : String := "$__toml_private_datetime"

namespace Datum

mutual
/-- The tree without tables in place of moments; `none` if there is no moment in such a table, or
if it has other keys and `alone` forbids that. -/
def resolved? (alone : Bool) : Datum → Option Datum
  | table [] => some (table [])
  | table ((k, d) :: rest) =>
    if k = momentKey then
      match d with
      | text s => if alone && !rest.isEmpty then none else (Moment.ofText? s).map moment
      | _ => none
    else do
      let d ← d.resolved? alone
      return table ((k, d) :: (← resolvedMembers? alone rest))
  | list items => (resolvedItems? alone items).map list
  | d => some d

/-- The elements of a list without tables in place of moments. -/
def resolvedItems? (alone : Bool) : List Datum → Option (List Datum)
  | [] => some []
  | d :: rest => do
    let d ← d.resolved? alone
    return d :: (← resolvedItems? alone rest)

/-- The members of a table without tables in place of moments. -/
def resolvedMembers? (alone : Bool) : List (String × Datum) → Option (List (String × Datum))
  | [] => some []
  | (k, d) :: rest => do
    let d ← d.resolved? alone
    return (k, d) :: (← resolvedMembers? alone rest)
end

mutual
/-- A value as a tree. -/
def ofValue? : Value → Option Datum
  | .null => none
  | .bool b => some (flag b)
  | .num (.int n) => if n < Nat.pow 2 63 then some (whole n) else none
  | .num (.double d) => some (real d)
  | .str s => some (text s)
  | .arr items => (ofItems? items).map list
  | .obj members => (ofMembers? members).map table

/-- The elements of a list as trees. -/
def ofItems? : List Value → Option (List Datum)
  | [] => some []
  | v :: rest => do
    let d ← ofValue? v
    return d :: (← ofItems? rest)

/-- The members of an object as trees. -/
def ofMembers? : List (String × Value) → Option (List (String × Datum))
  | [] => some []
  | (k, v) :: rest => do
    let d ← ofValue? v
    return (k, d) :: (← ofMembers? rest)
end

/-- The tree that a value is, moments being written as tables. -/
def read? (v : Value) : Option Datum := (ofValue? v).bind (resolved? true)

/-- The tree as a value, with tables in place of moments. -/
def written (d : Datum) : Value := d.toValue fun m => .obj [(momentKey, .str m.text)]

end Datum

end LivePanel.Toml
