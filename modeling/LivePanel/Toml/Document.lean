import LivePanel.Toml.Statement

/-!
# TOML documents

The table that a document builds up statement by statement. A header opens a table
below which the pairs that follow are written; a table is opened once, and a key is
written once.
-/

namespace LivePanel.Toml

/-- A document while it is read: its table, and the way to the table that is open. -/
structure Draft where
  root : Table Branch := []
  opened : Option (List String × String) := none

namespace Draft

/-- Take up a statement. -/
def add? (d : Draft) : Statement → Option Draft
  | .header path last =>
    (Branch.reach? (Branch.openTable? last) path d.root).map fun root => ⟨root, some (path, last)⟩
  | .row path last =>
    (Branch.reach? (Branch.openRow? last) path d.root).map fun root => ⟨root, some (path, last)⟩
  | .pair path key v =>
    let write := Branch.place? key v path
    match d.opened with
    | none => (write d.root).map fun root => { d with root }
    | some (above, last) =>
      (Branch.reach? (Branch.inside? write last) above d.root).map fun root => { d with root }

end Draft

/-- The table that the statements build up. -/
def tableOf? (ss : List Statement) : Option (Table Datum) :=
  (ss.foldlM Draft.add? {}).map fun d => Branch.memberData d.root

/-- The table of a document. -/
def ofText? (s : String) : Option Datum := ((statementsOf? s).bind tableOf?).map .table

end LivePanel.Toml
