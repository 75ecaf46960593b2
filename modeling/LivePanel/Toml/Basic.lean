import LivePanel.Toml.Moment
import LivePanel.Value.Basic

/-!
# TOML values

What a TOML document says: a table whose members are texts, numbers, truth values,
moments, lists and tables. A number may be a double that is infinite or no number at
all. The members of a table are in the order in which they came. As a `Value` a document
keeps all but that order and its moments, whose form is up to the use.
-/

namespace LivePanel.Toml

/-- A TOML value. -/
inductive Datum where
  | text (s : String)
  | whole (n : Int)
  | real (d : Double)
  | flag (b : Bool)
  | moment (m : Moment)
  | list (items : List Datum)
  | table (members : List (String × Datum))
deriving Inhabited

namespace Datum

mutual
/-- The value with each moment as `moment` has it. -/
def toValue (moment : Moment → Value) : Datum → Value
  | text s => .str s
  | whole n => .num (.int n)
  | real d => .num (.double d)
  | flag b => .bool b
  | .moment m => moment m
  | list items => .arr (itemValues moment items)
  | table members => .obj (Table.ofPairs (memberValues moment members))

/-- The values of the elements of a list. -/
def itemValues (moment : Moment → Value) : List Datum → List Value
  | [] => []
  | d :: rest => d.toValue moment :: itemValues moment rest

/-- The values of the members of a table. -/
def memberValues (moment : Moment → Value) : List (String × Datum) → List (String × Value)
  | [] => []
  | (k, d) :: rest => (k, d.toValue moment) :: memberValues moment rest
end

end Datum

/-! ### Documents under construction -/

/-- How a table came to be: by a header of its own, on the way of another header, or by a key
with dots. -/
inductive Origin where
  | header
  | implied
  | dotted
deriving DecidableEq

/-- What stands under a key while a document is read: a written value, a table with its members,
or the rows of a list of tables, the newest first. -/
inductive Branch where
  | value (d : Datum)
  | table (origin : Origin) (members : List (String × Branch))
  | rows (newestFirst : List (List (String × Branch)))

namespace Branch

mutual
/-- What a branch says once it is complete. -/
def datum : Branch → Datum
  | value d => d
  | table _ members => .table (memberData members)
  | rows newestFirst => .list (rowData newestFirst).reverse

/-- What the branches of a table say. -/
def memberData : List (String × Branch) → List (String × Datum)
  | [] => []
  | (k, b) :: rest => (k, b.datum) :: memberData rest

/-- What the rows of a list of tables say. -/
def rowData : List (List (String × Branch)) → List Datum
  | [] => []
  | row :: rest => .table (memberData row) :: rowData rest
end

/-- Write a value under a key below `path`, whose tables are made by dots: none of them may have a
header, the innermost must be made by dots alone, and the key must be new. -/
def place? (key : String) (d : Datum) : List String → Table Branch → Option (Table Branch)
  | [], members => if members.has key then none else some (members.set key (value d))
  | k :: path, members =>
    match members.get? k with
    | none => (place? key d path []).map fun inner => members.set k (table .dotted inner)
    | some (table .dotted inner) =>
      (place? key d path inner).map fun inner => members.set k (table .dotted inner)
    | some (table .implied inner) =>
      if path.isEmpty then none
      else (place? key d path inner).map fun inner => members.set k (table .implied inner)
    | some (rows (row :: older)) =>
      if path.isEmpty then none
      else (place? key d path row).map fun row => members.set k (rows (row :: older))
    | _ => none

/-- Change the table at the end of a path, passing through tables and the newest rows and making
the tables that are missing. -/
def reach? (f : Table Branch → Option (Table Branch)) :
    List String → Table Branch → Option (Table Branch)
  | [], members => f members
  | k :: path, members =>
    match members.get? k with
    | none => (reach? f path []).map fun inner => members.set k (table .implied inner)
    | some (table origin inner) =>
      (reach? f path inner).map fun inner => members.set k (table origin inner)
    | some (rows (row :: older)) =>
      (reach? f path row).map fun row => members.set k (rows (row :: older))
    | _ => none

/-- Open a table by its header: it is new, or was implied by another header and now comes last. -/
def openTable? (last : String) (members : Table Branch) : Option (Table Branch) :=
  match members.get? last with
  | none => some (members.set last (table .header []))
  | some (table .implied inner) => some ((members.erase last).set last (table .header inner))
  | _ => none

/-- Open a new row of a list of tables. -/
def openRow? (last : String) (members : Table Branch) : Option (Table Branch) :=
  match members.get? last with
  | none => some (members.set last (rows [[]]))
  | some (rows older) => some (members.set last (rows ([] :: older)))
  | _ => none

/-- Write below an open table. -/
def inside? (f : Table Branch → Option (Table Branch)) (last : String) (members : Table Branch) :
    Option (Table Branch) :=
  match members.get? last with
  | some (table origin inner) => (f inner).map fun inner => members.set last (table origin inner)
  | some (rows (row :: older)) => (f row).map fun row => members.set last (rows (row :: older))
  | _ => none

end Branch

end LivePanel.Toml
